import EventStore.Event
import EventStore.Json.Reader
import EventStore.Json.Writer
import EventStore.Storage.Error
import EventStore.Time.Timestamp

/-! Records are events in the form in which they are kept: categories joined by commas, payloads
as JSON text, instants to the microsecond. -/

namespace EventStore

structure Record where
  stream : String
  categories : Option String := none
  id : String
  name : String
  date : String
  aggregateId : Option String := none
  data : Option String := none
  metadata : Option String := none
  version : Nat := 0
  deriving DecidableEq, Repr, Inhabited

namespace Record

def joinCategories (categories : List String) : Option String :=
  if categories.isEmpty then none else some (Text.joinTexts ',' categories)

def cutCategories : Option String → List String
  | none => []
  | some packed => Text.splitText ',' packed

def categoryList (record : Record) : List String := cutCategories record.categories

/-- A payload of JSON null is kept as no payload. -/
def encodePayload : Option Json → Option String
  | none | some .null => none
  | some value => some value.toText

def decodePayload : Option String → Except StorageFault (Option Json)
  | none => .ok none
  | some text =>
    match Json.ofText text with
    | none => .error (.serialization text)
    | some .null => .ok none
    | some value => .ok (some value)

/-- The record of an append. Its version is still to be assigned. -/
def encode (stream : String) (envelope : Envelope) (categories : List String) :
    Except StorageFault Record :=
  match checkStreamName stream, categories.forM checkCategory with
  | .error fault, _ => .error (.invalidLiteral fault)
  | .ok _, .error fault => .error (.invalidLiteral fault)
  | .ok _, .ok _ =>
    .ok
      { stream
        categories := joinCategories categories
        id := envelope.id
        name := envelope.type
        date := Timestamp.format envelope.createdAt
        aggregateId := envelope.aggregateId.map Uuid.format
        data := encodePayload envelope.data
        metadata := encodePayload envelope.metadata
        version := 0 }

def decodeDate (text : String) : Except StorageFault Instant :=
  match Timestamp.parse text with
  | some instant => .ok instant
  | none => .error (.invalidTimestamp text)

/-- The empty text stands for no aggregate as well. -/
def decodeAggregateId : Option String → Except StorageFault (Option Uuid)
  | none => .ok none
  | some text =>
    if text.isEmpty then .ok none
    else
      match Uuid.parse text with
      | some uuid => .ok (some uuid)
      | none => .error (.invalidUuid text)

/-- The event a record was made of. -/
def decode (record : Record) : Except StorageFault Envelope := do
  let createdAt ← decodeDate record.date
  let aggregateId ← decodeAggregateId record.aggregateId
  let data ← decodePayload record.data
  let metadata ← decodePayload record.metadata
  return {
    type := record.name, id := record.id, version := some record.version
    createdAt, aggregateId, data, metadata }

end Record
end EventStore
