import EventStore.Storage.Location

/-! What a location means to a connection. A name that starts like an address, `file:`, is read as
one: a path with escapes, and options that may narrow what the connection asks for. What comes out
is the place of the database and what may be done with it. -/

namespace EventStore

/-- What a connection asks for, each right including the ones before it. -/
inductive Right
  | readOnly
  | readWrite
  | create
  deriving DecidableEq, Repr

def Right.rank : Right → Nat
  | .readOnly => 0
  | .readWrite => 1
  | .create => 2

/-- Where a connection finds its database. -/
inductive Home
  /-- Every connection makes a database of its own. -/
  | connection
  /-- A database in memory for one driver only. -/
  | driver
  /-- A database in memory for everyone who knows its name. -/
  | memory (system : String) (name : Bytes)
  | file (path : Bytes)
  deriving DecidableEq, Repr

structure Address where
  home : Home
  right : Right
  isImmutable : Bool
  sharesCache : Bool
  system : String
  deriving DecidableEq, Repr

namespace Address

structure Parts where
  path : Bytes
  options : List (Bytes × Bytes) := []
  /-- Whether the name was an address at all and not just a path. -/
  isAddress : Bool := false
  deriving DecidableEq, Repr

def mark : Bytes := Bytes.ofText "file:"

/-- What stands between two slashes and the next one has to be empty or this machine. -/
def withoutHost (text : Bytes) : Option Bytes :=
  match text with
  | 0x2f :: 0x2f :: rest =>
    if [[], Bytes.ofText "localhost"].contains (rest.takeWhile (· ≠ 0x2f)) then
      some (rest.dropWhile (· ≠ 0x2f))
    else none
  | text => some text

def optionsOf (text : Bytes) : List (Bytes × Bytes) :=
  let option (piece : Bytes) : Bytes × Bytes :=
    (Bytes.unescapedToNull (piece.takeWhile (· ≠ 0x3d)),
      Bytes.unescapedToNull ((piece.dropWhile (· ≠ 0x3d)).drop 1))
  ((Text.pieces 0x26 text).map option).filter fun (name, _) => !name.isEmpty

/-- A number sign ends an address. -/
def parse (text : Bytes) : Option Parts :=
  if mark.isPrefixOf text then do
    let text ← withoutHost ((text.drop mark.length).takeWhile (· ≠ 0x23))
    return {
      path := Bytes.unescapedToNull (text.takeWhile (· ≠ 0x3f))
      options := optionsOf ((text.dropWhile (· ≠ 0x3f)).drop 1)
      isAddress := true }
  else some { path := text }

/-- What is asked for while the options are read. -/
structure Demand where
  right : Right
  inMemory : Bool
  sharesCache : Bool
  system : String
  deriving DecidableEq, Repr

namespace Demand

/-- A right cannot be extended, but a database in memory may be given up for a file. -/
def withRight (demand : Demand) (right : Right) : Option Demand :=
  if demand.inMemory || right.rank ≤ demand.right.rank then
    some { demand with right, inMemory := false }
  else none

def withMode (demand : Demand) : String → Option Demand
  | "ro" => demand.withRight .readOnly
  | "rw" => demand.withRight .readWrite
  | "rwc" => demand.withRight .create
  | "memory" => some { demand with right := .readWrite, inMemory := true }
  | _ => none

def withCache (demand : Demand) : String → Option Demand
  | "shared" => some { demand with sharesCache := true }
  | "private" => some { demand with sharesCache := false }
  | _ => none

def withOption (demand : Demand) (option : Bytes × Bytes) : Option Demand :=
  match option.1.toText? with
  | some "vfs" => option.2.toText?.map fun system => { demand with system }
  | some "mode" => option.2.toText?.bind demand.withMode
  | some "cache" => option.2.toText?.bind demand.withCache
  | _ => some demand

end Demand

/-- The file systems there are; they differ in how they lock, which no single process notices. -/
def fileSystems : List String := ["unix", "unix-none", "unix-dotfile", "unix-excl"]

def memorySystem : String := "memdb"

/-- Whether the value of an option affirms: a word in any case, or a number that is not zero in
its lowest eight bits. -/
def affirms (value : Bytes) : Bool :=
  match value.toText? with
  | none => false
  | some text =>
    let digits := text.toList.takeWhile Char.isDigit
    if digits.isEmpty then ["on", "yes", "true"].contains (text.map Char.toLower)
    else
      Text.ofDigits 10 (digits.map fun digit => digit.toNat - '0'.toNat) % 256 ≠ 0

def asksImmutable (options : List (Bytes × Bytes)) : Bool :=
  (options.lookup (Bytes.ofText "immutable")).any affirms

/-- Databases in memory are found by the name in an address, files in memory by an absolute
path. -/
def homeOf (parts : Parts) (demand : Demand) (isUnique : Bool) : Home :=
  if parts.path.isEmpty then .connection
  else if demand.inMemory || parts.path = Bytes.ofText Location.memoryName then
    if !(parts.isAddress && demand.sharesCache) || demand.system = memorySystem then .connection
    else if isUnique then .driver
    else .memory demand.system parts.path
  else if demand.system = memorySystem then
    if parts.path.head? = some 0x2f && parts.path ≠ [0x2f] then .memory demand.system parts.path
    else .connection
  else .file parts.path

/-- The options that a name alone cannot express make an address of it. -/
def spelled (location : Location) : Bytes :=
  let options :=
    (if location.isImmutable then ["immutable=true"] else []) ++
      (location.system.map ("vfs=" ++ ·)).toList
  if options.isEmpty then location.name
  else mark ++ location.name.escaped ++ Bytes.ofText ("?" ++ Text.joinTexts '&' options)

def demandOf (location : Location) : Demand where
  right := if location.isReadOnly then .readOnly else .create
  inMemory := location.inMemory
  sharesCache := location.sharesCache
  system := "unix"

/-- Nothing for a location that no connection can be made to. -/
def ofLocation (location : Location) : Option Address := do
  let text := spelled location
  if text.contains 0 then none
  else
    let parts ← parse text
    let demand ← parts.options.foldlM Demand.withOption (demandOf location)
    if demand.system = memorySystem || fileSystems.contains demand.system then
      return {
        home := homeOf parts demand location.isUnique
        right := demand.right
        isImmutable := asksImmutable parts.options
        sharesCache := demand.sharesCache
        system := demand.system }
    else none

end Address
end EventStore
