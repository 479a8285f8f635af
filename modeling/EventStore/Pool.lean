import EventStore.Selector.Absolute
import EventStore.Store

/-! The pool knows every store and the scope it is concerned with, and routes reads and appends
to the stores whose scope covers what is asked for. -/

namespace EventStore

structure Enrolment where
  concerning : Selector
  store : Store
  deriving DecidableEq, Repr

inductive PoolFault
  | duplicateStore (name : String)
  | storage (fault : StorageFault)
  | selector (fault : SelectorFault)
  deriving DecidableEq, Repr

def PoolFault.message : PoolFault → String
  | .duplicateStore name => s!"Store already enrolled: {name}"
  | .storage fault => fault.message
  | .selector fault => fault.message

structure Pool where
  /-- In the order of enrolment. -/
  enrolments : List Enrolment := []
  deriving DecidableEq, Repr

namespace Pool

def find? (pool : Pool) (name : String) : Option Store :=
  (pool.enrolments.find? (·.store.name = name)).map (·.store)

def names (pool : Pool) : List String := pool.enrolments.map (·.store.name)

def size (pool : Pool) : Nat := pool.enrolments.length

def enrol (pool : Pool) (concerning : Selector) (store : Store) : Except PoolFault Pool :=
  if (pool.find? store.name).isSome then .error (.duplicateStore store.name)
  else .ok { enrolments := pool.enrolments ++ [{ concerning, store }] }

/-- The stores concerned with everything a selector asks for. -/
def concerned (pool : Pool) (types : TypeHierarchy) (selector : Selector) : List Store :=
  (pool.enrolments.filter (·.concerning.covers types selector)).map (·.store)

def readBundle (pool : Pool) (types : TypeHierarchy) (selector : Selector) : Bundle :=
  Bundle.ofStores (pool.concerned types selector)

/-- The selector that stands for one append. -/
def appendSelector (stream : String) (categories : List String) (type : String) :
    Except SelectorFault Selector := do
  checkStreamName stream
  let selector ← Selector.onStream stream
  let selector ← selector.setCategories categories
  selector.setEvents [type]

def appendBundle (pool : Pool) (types : TypeHierarchy) (stream : String)
    (categories : List String) (type : String) : Except PoolFault Bundle :=
  match appendSelector stream categories type with
  | .error fault => .error (.selector fault)
  | .ok selector => .ok (pool.readBundle types selector)

end Pool
end EventStore
