import EventStore.Storage.Memory
import EventStore.Storage.Table

/-! The drivers that stores write to. A driver is known by its identity, and several of them may
work on one database. -/

namespace EventStore

/-- What a driver may do with the database it works on. -/
inductive Access
  | full
  | readOnly
  | closed
  deriving DecidableEq, Repr

inductive Driver
  | memory (store : Memory)
  /-- Accepts every append and keeps nothing. -/
  | null
  | table (database : Nat) (access : Access)

abbrev DriverId := Nat

structure Backends where
  drivers : List Driver := []
  databases : List Table := []

namespace Backends

/-- An identity nothing was opened under stands for the driver that keeps nothing. -/
def driver (backends : Backends) (id : DriverId) : Driver := backends.drivers.getD id .null

def database (backends : Backends) (index : Nat) : Table := backends.databases.getD index {}

def setDriver (backends : Backends) (id : DriverId) (driver : Driver) : Backends :=
  { backends with drivers := backends.drivers.set id driver }

def setDatabase (backends : Backends) (index : Nat) (table : Table) : Backends :=
  { backends with databases := backends.databases.set index table }

def addDriver (backends : Backends) (driver : Driver) : DriverId × Backends :=
  (backends.drivers.length, { backends with drivers := backends.drivers ++ [driver] })

def addDatabase (backends : Backends) : Nat × Backends :=
  (backends.databases.length, { backends with databases := backends.databases ++ [{}] })

/-- Appends an event through a driver. The version is absent where nothing is kept. -/
def append (backends : Backends) (id : DriverId) (stream : String) (envelope : Envelope)
    (categories : List String) : Except StorageFault (Option Nat) × Backends :=
  match backends.driver id with
  | .memory store =>
    let (answer, store) := store.append stream envelope categories
    (answer.map some, backends.setDriver id (.memory store))
  | .null => (.ok none, backends)
  | .table index .full =>
    let (answer, table) := (backends.database index).append stream envelope categories
    (answer.map some, backends.setDatabase index table)
  | .table _ access =>
    -- Literals are checked before the database is needed.
    match Record.encode stream envelope categories with
    | .error fault => (.error fault, backends)
    | .ok _ =>
      (.error (.database (if access = .closed then .closed else .readOnly)), backends)

def read (backends : Backends) (types : TypeHierarchy) (id : DriverId) (selector : Selector) :
    Except StorageFault EventCursor :=
  match backends.driver id with
  | .memory store => store.read types selector
  | .null => .ok { name := selector.toText }
  | .table _ .closed => do
    selector.checkReadable
    .error (.database .closed)
  | .table index _ => (backends.database index).read types selector

def isReachable (backends : Backends) (id : DriverId) : Bool :=
  match backends.driver id with
  | .table _ access => access ≠ .closed
  | _ => true

/-- Everything a driver keeps, in the order it was inserted. -/
def records (backends : Backends) (id : DriverId) : Except StorageFault (List Record) :=
  match backends.driver id with
  | .memory store => .ok store.records
  | .null => .ok []
  | .table _ .closed => .error (.database .closed)
  | .table index _ => .ok (backends.database index).records

/-- Sets which operations of a memory store fail, each where it is given; other drivers have no
such setting. -/
def setRefusals (backends : Backends) (id : DriverId) (appends reads : Option Bool) : Backends :=
  match backends.driver id with
  | .memory store =>
    backends.setDriver id
      (.memory
        { store with
          refusesAppends := appends.getD store.refusesAppends
          refusesReads := reads.getD store.refusesReads })
  | _ => backends

/-- Creates the table where it is missing, which changes nothing where it exists. -/
def initialise (backends : Backends) (id : DriverId) : Except StorageFault Unit :=
  match backends.driver id with
  | .table _ .closed => .error (.database .closed)
  | _ => .ok ()

def close (backends : Backends) (id : DriverId) : Backends :=
  match backends.driver id with
  | .table index _ => backends.setDriver id (.table index .closed)
  | _ => backends

/-- Writes a record into the table of a driver as it is, if the constraints allow it. -/
def insertRaw (backends : Backends) (id : DriverId) (record : Record) : Option Backends :=
  match backends.driver id with
  | .table index .full =>
    match (backends.database index).insert (Row.ofRecord record) with
    | .ok table => some (backends.setDatabase index table)
    | .error _ => none
  | _ => none

end Backends
end EventStore
