import EventStore.Sql.Dialect
import EventStore.Storage.Cursor

/-! The store that keeps its records in a relational table. The table refuses a row whose event
identifier, or whose stream and version, another row has already; versions are signed words. -/

namespace EventStore

structure Row where
  stream : String
  categories : Option String
  id : String
  name : String
  date : String
  aggregateId : Option String
  data : Option String
  metadata : Option String
  version : Int64
  deriving DecidableEq, Repr

namespace Row

/-- The signed word with the same bits as a version. -/
def storedVersion (version : Nat) : Int64 := (UInt64.ofNat version).toInt64

def ofRecord (record : Record) : Row where
  stream := record.stream
  categories := record.categories
  id := record.id
  name := record.name
  date := record.date
  aggregateId := record.aggregateId
  data := record.data
  metadata := record.metadata
  version := storedVersion record.version

def toRecord (row : Row) : Record where
  stream := row.stream
  categories := row.categories
  id := row.id
  name := row.name
  date := row.date
  aggregateId := row.aggregateId
  data := row.data
  metadata := row.metadata
  version := row.version.toUInt64.toNat

/-- What conditions see of a row. Only texts are compared with. -/
def text (row : Row) : Sql.Column → Option String
  | .eventStream => some row.stream
  | .eventCategories => row.categories
  | .eventId => some row.id
  | .eventName => some row.name
  | .eventDate => some row.date
  | .aggregateId => row.aggregateId
  | .data => row.data
  | .metadata => row.metadata
  | .id | .eventVersion => none

end Row

/-- The constraint that an insert would break. -/
inductive Violation
  | idTaken
  | versionTaken
  deriving DecidableEq, Repr

structure Table where
  /-- In the order of their insertion. -/
  rows : List Row := []
  deriving Inhabited

namespace Table

def insert (table : Table) (row : Row) : Except Violation Table :=
  if table.rows.any (·.id = row.id) then .error .idTaken
  else if table.rows.any fun other => other.stream = row.stream && other.version = row.version then
    .error .versionTaken
  else .ok { rows := table.rows ++ [row] }

/-- One above the highest signed version of a stream, counted in unsigned words. -/
def freshVersion (table : Table) (stream : String) : Nat :=
  let versions := (table.rows.filter (·.stream = stream)).map (·.version)
  match versions with
  | [] => 0
  | first :: others =>
    let higher (left right : Int64) : Int64 := if left < right then right else left
    ((others.foldl higher first).toUInt64 + 1).toNat

/-- A pattern sees a stored text up to its first null character. -/
def accepts (pattern text : List Char) : Bool := Sql.like pattern (text.takeWhile (· ≠ '\x00'))

def select (table : Table) (condition : Option Sql.Condition) : List Row :=
  match condition with
  | none => table.rows
  | some condition =>
    table.rows.filter fun row => condition.evalBy accepts row.text = some true

/-- A statement is text that ends at the first null character, so no value may hold one. -/
def isWritable (value : String) : Bool := !value.toList.contains '\x00'

def isWritableRow (row : Row) : Bool :=
  [row.stream, row.id, row.name, row.date].all isWritable &&
    [row.categories, row.aggregateId, row.data, row.metadata].all fun value =>
      value.all isWritable

/-- Appends an event under the next version of its stream and answers that version. -/
def append (table : Table) (stream : String) (envelope : Envelope) (categories : List String) :
    Except StorageFault Nat × Table :=
  match Record.encode stream envelope categories with
  | .error fault => (.error fault, table)
  | .ok record =>
    let version := table.freshVersion record.stream
    let row := Row.ofRecord { record with version }
    if isWritableRow row then
      match table.insert row with
      | .ok table => (.ok version, table)
      | .error .idTaken => (.error (.duplicateEvent record.id), table)
      | .error .versionTaken => (.error (.versionConflict record.stream version), table)
    else (.error (.database .malformedStatement), table)

def records (table : Table) : List Record := table.rows.map Row.toRecord

def read (table : Table) (types : TypeHierarchy) (selector : Selector) :
    Except StorageFault EventCursor := do
  selector.checkReadable
  let condition := Sql.conditionFor types selector
  if condition.all (·.literals.all isWritable) then
    EventCursor.start types selector.toText
      ((table.select condition).map fun row => .ok row.toRecord)
  else .error (.database .malformedStatement)

end Table
end EventStore
