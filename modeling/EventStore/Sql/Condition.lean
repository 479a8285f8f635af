import EventStore.Sql.Like

/-! Conditions over the columns of a record. A comparison with a column that holds nothing is
neither true nor false, and a query selects the rows whose condition is true. -/

namespace EventStore.Sql

inductive Column
  | id
  | eventStream
  | eventCategories
  | eventId
  | eventName
  | eventDate
  | aggregateId
  | data
  | metadata
  | eventVersion
  deriving DecidableEq, Repr

def Column.name : Column → String
  | .id => "id"
  | .eventStream => "event_stream"
  | .eventCategories => "event_categories"
  | .eventId => "event_id"
  | .eventName => "event_name"
  | .eventDate => "event_date"
  | .aggregateId => "aggregate_id"
  | .data => "data"
  | .metadata => "metadata"
  | .eventVersion => "event_version"

/-- The columns that make up a record, in the order a read asks for them. -/
def Column.ofRecord : List Column :=
  [.eventStream, .eventCategories, .eventId, .eventName, .eventDate, .aggregateId, .data,
    .metadata, .eventVersion]

inductive Condition
  | equals (column : Column) (value : String)
  | matching (column : Column) (pattern : String)
  | among (column : Column) (values : List String)
  | both (left right : Condition)
  | either (left right : Condition)
  deriving DecidableEq, Repr

/-- False as soon as one side is false, true only if both are. -/
def conjunction : Option Bool → Option Bool → Option Bool
  | some false, _ => some false
  | _, some false => some false
  | some true, some true => some true
  | _, _ => none

/-- True as soon as one side is true, false only if both are. -/
def disjunction : Option Bool → Option Bool → Option Bool
  | some true, _ => some true
  | _, some true => some true
  | some false, some false => some false
  | _, _ => none

namespace Condition

/-- The truth of a condition on a row, nothing where it is unknown. What a pattern accepts is left
open; everything else compares whole texts. -/
def evalBy (accepts : List Char → List Char → Bool) (row : Column → Option String) :
    Condition → Option Bool
  | equals column value => (row column).map fun text => decide (text = value)
  | matching column pattern => (row column).map fun text => accepts pattern.toList text.toList
  | among column values => (row column).map values.contains
  | both left right => conjunction (evalBy accepts row left) (evalBy accepts row right)
  | either left right => disjunction (evalBy accepts row left) (evalBy accepts row right)

def eval (row : Column → Option String) (condition : Condition) : Option Bool :=
  condition.evalBy like row

def selects (row : Column → Option String) (condition : Condition) : Bool :=
  condition.eval row = some true

def anyOf : List Condition → Option Condition
  | [] => none
  | first :: others => some (others.foldl either first)

/-- The condition that holds if all of the given ones do; none demands nothing. -/
def allOf : List Condition → Option Condition
  | [] => none
  | first :: others => some (others.foldl both first)

def literals : Condition → List String
  | equals _ value => [value]
  | matching _ pattern => [pattern]
  | among _ values => values
  | both left right => left.literals ++ right.literals
  | either left right => left.literals ++ right.literals

end Condition
end EventStore.Sql
