import EventStore.Selector.Absolute
import EventStore.Storage.Cursor

/-! The store that keeps its records in a list. Either of its operations can be set to fail. -/

namespace EventStore

structure Memory where
  /-- In the order of the appends. -/
  records : List Record := []
  refusesAppends : Bool := false
  refusesReads : Bool := false
  deriving Inhabited

namespace Memory

/-- Whether a selector admits a record, by the parts the record was packed from. -/
def selects (types : TypeHierarchy) (selector : Selector) (record : Record) : Bool :=
  selector.admits types record.stream record.categoryList record.name

/-- One above the greatest version of a stream, zero for its first event. -/
def freshVersion (memory : Memory) (stream : String) : Nat :=
  let versions := (memory.records.filter (·.stream = stream)).map (·.version)
  match versions.max? with
  | some greatest => greatest + 1
  | none => 0

/-- Appends an event and answers its version. A refused append changes nothing. -/
def append (memory : Memory) (stream : String) (envelope : Envelope) (categories : List String) :
    Except StorageFault Nat × Memory :=
  if memory.refusesAppends then (.error (.unavailable .refusingAppends), memory)
  else
    match Record.encode stream envelope categories with
    | .error fault => (.error fault, memory)
    | .ok record =>
      if memory.records.any (·.id = record.id) then (.error (.duplicateEvent record.id), memory)
      else
        let version := memory.freshVersion record.stream
        (.ok version, { memory with records := memory.records ++ [{ record with version }] })

/-- The records a selector admits, in the order of their appends. -/
def select (memory : Memory) (types : TypeHierarchy) (selector : Selector) : List Record :=
  memory.records.filter (selects types selector)

def read (memory : Memory) (types : TypeHierarchy) (selector : Selector) :
    Except StorageFault EventCursor := do
  selector.checkReadable
  if memory.refusesReads then .error (.unavailable .refusingReads)
  else EventCursor.start types selector.toText ((memory.select types selector).map .ok)

end Memory
end EventStore
