import EventStore.Settings.Basic
import EventStore.Pool
import EventStore.Storage.Address
import EventStore.Storage.Directory

/-! A pool is built by opening the backend of each configured store in turn. Stores with equal
storage settings share a driver; different settings that name one file open it once each. -/

namespace EventStore

/-- What connections find each other by when they share a database they have open. -/
inductive SharedName
  | memory (system : String) (name : Bytes)
  | file (system : String) (place : Place)
  deriving DecidableEq, Repr

structure Handle where
  database : Nat
  access : Access
  deriving DecidableEq, Repr

/-- The drivers in use, the files they were opened on and the databases they share. -/
structure Installation where
  backends : Backends := {}
  directory : Directory := {}
  shared : List (SharedName × Handle) := []

namespace Installation

def addDriver (installation : Installation) (driver : Driver) : DriverId × Installation :=
  let (id, backends) := installation.backends.addDriver driver
  (id, { installation with backends })

def addDatabase (installation : Installation) : Handle × Installation :=
  let (database, backends) := installation.backends.addDatabase
  ({ database, access := .full }, { installation with backends })

/-- A driver on a database of its own, which no file holds. -/
def addPrivateDatabase (installation : Installation) : DriverId × Installation :=
  let (handle, installation) := installation.addDatabase
  installation.addDriver (.table handle.database handle.access)

abbrev Opened := Except DatabaseFault Handle × Installation

/-- What is shared under a name already, or else what opening gives, shared from then on. -/
def sharing (installation : Installation) (name : SharedName)
    (opening : Installation → Opened) : Opened :=
  match installation.shared.lookup name with
  | some handle => (.ok handle, installation)
  | none =>
    match opening installation with
    | (.ok handle, installation) =>
      (.ok handle, { installation with shared := (name, handle) :: installation.shared })
    | (.error fault, installation) => (.error fault, installation)

/-- A new database has to be written before it can be read. -/
def createDatabase (right : Right) (installation : Installation) : Opened :=
  if right = .readOnly then (.error .readOnly, installation)
  else
    let (handle, installation) := installation.addDatabase
    (.ok handle, installation)

/-- A file in memory, which everyone opens with a right of their own. -/
def openMemoryFile (installation : Installation) (right : Right) (name : SharedName) : Opened :=
  match installation.sharing name (createDatabase right) with
  | (.ok handle, installation) =>
    (.ok { handle with access := if right = .readOnly then .readOnly else .full }, installation)
  | refused => refused

/-- Makes a database of a file without content. -/
def fillFile (installation : Installation) (place : Place) (isReadOnly : Bool) : Opened :=
  if isReadOnly || !Directory.canHoldJournal place then (.error .readOnly, installation)
  else
    let (handle, installation) := installation.addDatabase
    let directory := installation.directory.add place (.database handle.database)
    (.ok handle, { installation with directory })

/-- Opens the file in a place. A missing file is created if that is asked for, and what is immutable
may still be created, but not be filled. -/
def openFile (address : Address) (place : Place) (installation : Installation) : Opened :=
  let isReadOnly := address.right = .readOnly || address.isImmutable
  let refused : Opened := (.error (.cannotOpen address.system), installation)
  match installation.directory.find? place with
  | some (.database database) =>
    (.ok { database, access := if isReadOnly then .readOnly else .full }, installation)
  | some .blank => installation.fillFile place isReadOnly
  | some .folder | some .foreign => refused
  | none =>
    if address.right = .create && installation.directory.find? place.parent = some .folder then
      let directory := installation.directory.add place .blank
      { installation with directory }.fillFile place isReadOnly
    else refused

/-- Opens the database at an address with up to so many connections. Where every connection makes a
database of its own, a second connection does not find what the first one wrote. -/
def openAddress (installation : Installation) (address : Address) (connections : Nat) : Opened :=
  match address.home with
  | .connection =>
    if connections = 1 then createDatabase address.right installation
    else (.error .noConnection, installation)
  | .driver => createDatabase address.right installation
  | .memory system name =>
    if system = Address.memorySystem then
      installation.openMemoryFile address.right (.memory system name)
    else installation.sharing (.memory system name) (createDatabase address.right)
  | .file path =>
    match installation.directory.locateDatabase path with
    | none => (.error (.cannotOpen address.system), installation)
    | some place =>
      if address.sharesCache then
        installation.sharing (.file address.system place) (openFile address place)
      else openFile address place installation

/-- The folders that the path names are created before anything is opened. -/
def openDatabase (installation : Installation) (path : String) (connections : Nat) :
    Except StorageFault DriverId × Installation :=
  match installation.directory.makeParents (Bytes.ofText path) with
  | none => (.error (.unavailable (.directory path)), installation)
  | some directory =>
    let installation := { installation with directory }
    match Location.ofText path >>= Address.ofLocation with
    | none => (.error (.database (.cannotOpen path)), installation)
    | some address =>
      if connections = 0 then (.error (.database .noConnection), installation)
      else
        match installation.openAddress address connections with
        | (.error fault, installation) => (.error (.database fault), installation)
        | (.ok handle, installation) =>
          let (id, installation) :=
            installation.addDriver (.table handle.database handle.access)
          (.ok id, installation)

def openDriver (installation : Installation) (storage : StorageSettings) :
    Except StorageFault DriverId × Installation :=
  match storage.kind with
  | .memory =>
    let (id, installation) := installation.addDriver (.memory {})
    (.ok id, installation)
  | .null =>
    let (id, installation) := installation.addDriver .null
    (.ok id, installation)
  | .sqlite => installation.openDatabase storage.sqlitePath storage.maxConnections
  | .postgres => (.error (.notEnabled storage.kind.label), installation)

/-- The driver for some storage settings: one opened for equal settings before, or a new one. -/
def driverFor (installation : Installation) (opened : List (StorageSettings × DriverId))
    (storage : StorageSettings) :
    Except StorageFault (DriverId × List (StorageSettings × DriverId)) × Installation :=
  match opened.lookup storage with
  | some id => (.ok (id, opened), installation)
  | none =>
    let (answer, installation) := installation.openDriver storage
    (answer.map fun id => (id, opened ++ [(storage, id)]), installation)

/-- Opens and enrols the stores in the order they are configured. The first failure ends it, and
what was opened by then stays open. -/
def enrolAll (settings : Settings) (opened : List (StorageSettings × DriverId)) :
    List StoreSettings → Pool → Installation → Except PoolFault Pool × Installation
  | [], pool, installation => (.ok pool, installation)
  | entry :: entries, pool, installation =>
    match installation.driverFor opened (settings.effectiveStorage entry) with
    | (.error fault, installation) => (.error (.storage fault), installation)
    | (.ok (driver, opened), installation) =>
      match pool.enrol entry.concerning { name := entry.name, driver } with
      | .error fault => (.error fault, installation)
      | .ok pool => enrolAll settings opened entries pool installation

def openPool (installation : Installation) (settings : Settings) :
    Except PoolFault Pool × Installation :=
  enrolAll settings [] settings.stores {} installation

end Installation
end EventStore
