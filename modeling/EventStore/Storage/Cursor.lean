import EventStore.TypeHierarchy
import EventStore.Storage.Record

/-! Reading runs forward over records and decodes each one when it is reached. It ends with the
records, at a record of an unregistered type, or with the first failure. -/

namespace EventStore

inductive Position
  | standing (current : Envelope) (rest : List (Except StorageFault Record))
  | exhausted

structure EventCursor where
  name : String
  position : Position := .exhausted

namespace EventCursor

def next (types : TypeHierarchy) :
    List (Except StorageFault Record) → Except StorageFault Position
  | [] => .ok .exhausted
  | .error fault :: _ => .error fault
  | .ok record :: rest =>
    if types.declares record.name then
      match record.decode with
      | .ok current => .ok (.standing current rest)
      | .error fault => .error fault
    else .ok .exhausted

def start (types : TypeHierarchy) (name : String) (items : List (Except StorageFault Record)) :
    Except StorageFault EventCursor :=
  (next types items).map fun position => { name, position }

def current? (cursor : EventCursor) : Option Envelope :=
  match cursor.position with
  | .standing current _ => some current
  | .exhausted => none

def key? (cursor : EventCursor) : Option String := cursor.current?.map (·.id)

def isStanding (cursor : EventCursor) : Bool := cursor.current?.isSome

/-- Moves to the next event. A failure is returned once and leaves the cursor exhausted. -/
def advance (types : TypeHierarchy) (cursor : EventCursor) : Option StorageFault × EventCursor :=
  match cursor.position with
  | .exhausted => (none, cursor)
  | .standing _ rest =>
    match next types rest with
    | .ok position => (none, { cursor with position })
    | .error fault => (some fault, { cursor with position := .exhausted })

/-- Events are read once, so there is nothing to go back to. -/
def rewind (cursor : EventCursor) : EventCursor := cursor

/-- The events of some items, and the failure that ends them. -/
def decoded (types : TypeHierarchy) :
    List (Except StorageFault Record) → List (Except StorageFault Envelope)
  | [] => []
  | .error fault :: _ => [.error fault]
  | .ok record :: rest =>
    if types.declares record.name then
      match record.decode with
      | .ok current => .ok current :: decoded types rest
      | .error fault => [.error fault]
    else []

/-- Everything that is still to come, the current event first. -/
def drain (types : TypeHierarchy) (cursor : EventCursor) : List (Except StorageFault Envelope) :=
  match cursor.position with
  | .exhausted => []
  | .standing current rest => .ok current :: decoded types rest

/-- The remaining events, unless one of them fails. -/
def collect (types : TypeHierarchy) (cursor : EventCursor) : Except StorageFault (List Envelope) :=
  (cursor.drain types).mapM id

def describe (cursor : EventCursor) : String :=
  let current :=
    match cursor.key? with
    | some key => "Some(" ++ Text.quoted key ++ ")"
    | none => "None"
  "EventStream \x7b name: " ++ Text.quoted cursor.name ++ ", current: " ++ current ++ " \x7d"

end EventCursor
end EventStore
