import EventStore.Selector.Syntax

/-! What is configured: the storage of a whole installation and the stores that serve it. -/

namespace EventStore

inductive StorageKind
  | sqlite
  | postgres
  | memory
  | null
  deriving DecidableEq, Repr, Inhabited

namespace StorageKind

def all : List StorageKind := [.sqlite, .postgres, .memory, .null]

/-- The word for a kind in settings. -/
def name : StorageKind → String
  | .sqlite => "sqlite"
  | .postgres => "postgres"
  | .memory => "memory"
  | .null => "null"

/-- The word for a kind in messages. -/
def label : StorageKind → String
  | .sqlite => "Sqlite"
  | .postgres => "Postgres"
  | .memory => "Memory"
  | .null => "Null"

def ofName (name : String) : Option StorageKind := all.find? (·.name = name)

end StorageKind

/-- Equal settings describe the same backend. -/
structure StorageSettings where
  kind : StorageKind := .sqlite
  sqlitePath : String := "data/events.db"
  postgresUri : String := "postgres://localhost:5432/tidemark"
  maxConnections : Nat := 5
  deriving DecidableEq, Repr, Inhabited

structure StoreSettings where
  name : String
  concerning : Selector
  /-- The storage of this store alone, if it has one. -/
  storage : Option StorageSettings := none
  deriving DecidableEq, Repr

structure Settings where
  storage : StorageSettings := {}
  stores : List StoreSettings := [{ name := "sql", concerning := Selector.all }]
  deriving DecidableEq, Repr

inductive SettingsFault
  | load
  | duplicateStore (name : String)
  deriving DecidableEq, Repr

def SettingsFault.message : SettingsFault → String
  | .load => "Failed to load configuration"
  | .duplicateStore name => s!"Store configured more than once: {name}"

namespace Settings

def effectiveStorage (settings : Settings) (entry : StoreSettings) : StorageSettings :=
  entry.storage.getD settings.storage

/-- The first name, in the order of the entries, that an earlier entry has already. -/
def repeatedName (seen : List String) : List StoreSettings → Option String
  | [] => none
  | entry :: entries =>
    if seen.contains entry.name then some entry.name
    else repeatedName (seen ++ [entry.name]) entries

def checkNames (settings : Settings) : Except SettingsFault Unit :=
  match repeatedName [] settings.stores with
  | some name => .error (.duplicateStore name)
  | none => .ok ()

end Settings
end EventStore
