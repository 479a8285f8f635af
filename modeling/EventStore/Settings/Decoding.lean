import EventStore.Settings.Basic
import EventStore.Settings.Layers

/-! Settings decoded from a tree. Records are mappings, whose unknown names are ignored, or lists
of their fields in order; fields that are left out have their defaults. How words, counts and
kinds are taken is a convention: exact for values that come as JSON, lenient for layers. -/

namespace EventStore

/-- How the ends of a settings tree are taken. -/
structure Convention where
  text : Document → Option String
  count : Document → Option Nat
  kind : Document → Option StorageKind
  /-- Whether a record given as a list may hold more items than it has fields. -/
  allowsSurplus : Bool

namespace Convention

def countLimit : Nat := 4294967296

def withinLimit (count : Nat) : Option Nat := if count < countLimit then some count else none

def exactText : Document → Option String
  | .text value => some value
  | _ => none

def exactCount : Document → Option Nat
  | .integer (.ofNat count) => withinLimit count
  | _ => none

/-- A kind is its word, or a mapping of that word to null. -/
def exactKind : Document → Option StorageKind
  | .text name => StorageKind.ofName name
  | .mapping [(name, .null)] => StorageKind.ofName name
  | _ => none

def exact : Convention where
  text := exactText
  count := exactCount
  kind := exactKind
  allowsSurplus := false

/-- Truth values and numbers are taken by their text. -/
def lenientText : Document → Option String
  | .text value => some value
  | .bool value => some (if value then "true" else "false")
  | .integer value => some (String.ofList (signedDigits value))
  | .real value => some (String.ofList value.write)
  | _ => none

/-- A count in words: an affirmation is one, a denial zero, digits what they say. -/
def countOfText (word : String) : Option Nat :=
  let lower := Document.lowerCase word
  if ["true", "on", "yes"].contains lower then some 1
  else if ["false", "off", "no"].contains lower then some 0
  else
    match word.toList with
    | '+' :: digits => Real.readNatural digits
    | digits => Real.readNatural digits

def lenientCount (document : Document) : Option Nat :=
  let count :=
    match document with
    | .integer (.ofNat count) => some count
    | .bool value => some value.toNat
    | .real value => value.toCount
    | .text word => countOfText word
    | _ => none
  count.bind withinLimit

/-- The word in any case, alone or as the only name of a mapping. -/
def lenientKind : Document → Option StorageKind
  | .text name => StorageKind.ofName (Document.lowerCase name)
  | .mapping [(name, _)] => StorageKind.ofName (Document.lowerCase name)
  | _ => none

def lenient : Convention where
  text := lenientText
  count := lenientCount
  kind := lenientKind
  allowsSurplus := true

/-- The named fields of a record. -/
def fields (convention : Convention) (names : List String) :
    Document → Option (List (String × Document))
  | .mapping entries => some entries
  | .list items =>
    if items.length ≤ names.length || convention.allowsSurplus then some (names.zip items)
    else none
  | _ => none

/-- A field that has a default. -/
def field (fields : List (String × Document)) (name : String) (default : α)
    (decode : Document → Option α) : Option α :=
  match fields.lookup name with
  | none => some default
  | some document => decode document

/-- A record of a single text. -/
def textRecord (convention : Convention) (name default : String) (document : Document) :
    Option String := do
  let fields ← convention.fields [name] document
  field fields name default convention.text

def storage (convention : Convention) (document : Document) : Option StorageSettings := do
  let defaults : StorageSettings := {}
  let fields ← convention.fields ["type", "sqlite", "postgres", "max_connections"] document
  let kind ← field fields "type" defaults.kind convention.kind
  let sqlitePath ← field fields "sqlite" defaults.sqlitePath
    (convention.textRecord "path" defaults.sqlitePath)
  let postgresUri ← field fields "postgres" defaults.postgresUri
    (convention.textRecord "uri" defaults.postgresUri)
  let maxConnections ← field fields "max_connections" defaults.maxConnections convention.count
  return { kind, sqlitePath, postgresUri, maxConnections }

def selector (convention : Convention) (document : Document) : Option Selector := do
  let text ← convention.text document
  (Selector.parse text).toOption

def optionalStorage (convention : Convention) : Document → Option (Option StorageSettings)
  | .null => some none
  | document => (convention.storage document).map some

def entry (convention : Convention) (document : Document) : Option StoreSettings := do
  let fields ← convention.fields ["name", "concerning", "storage"] document
  let name ← (fields.lookup "name").bind convention.text
  let concerning ← (fields.lookup "concerning").bind convention.selector
  let storage ← field fields "storage" none convention.optionalStorage
  return { name, concerning, storage }

def stores (convention : Convention) : Document → Option (List StoreSettings)
  | .list items => items.mapM convention.entry
  | _ => none

def settings (convention : Convention) (document : Document) : Option Settings := do
  let defaults : Settings := {}
  let fields ← convention.fields ["storage", "stores"] document
  let storage ← field fields "storage" defaults.storage convention.storage
  let stores ← field fields "stores" defaults.stores convention.stores
  return { storage, stores }

end Convention
end EventStore
