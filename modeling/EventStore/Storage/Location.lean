import EventStore.Text.Percent
import EventStore.Text.Pieces

/-! Where a database lies, as settings write it: a name with percent escapes and, after a question
mark, parameters that say how it is opened. -/

namespace EventStore

structure Location where
  name : Bytes
  /-- Whether the name is only a stand-in, so that no other location has it. -/
  isUnique : Bool := false
  inMemory : Bool := false
  /-- Whether connections to one name share what they hold in memory. -/
  sharesCache : Bool := false
  isReadOnly : Bool := false
  isImmutable : Bool := false
  /-- The name of the file system to go through, if not the usual one. -/
  system : Option String := none
  deriving DecidableEq, Repr

namespace Location

/-- The text without any number of repetitions of a mark at its start. The fuel is the length of
the text. -/
def withoutMark (mark : List Char) : Nat → List Char → List Char
  | 0, text => text
  | fuel + 1, text =>
    if !mark.isEmpty && mark.isPrefixOf text then withoutMark mark fuel (text.drop mark.length)
    else text

def mark : List Char := "sqlite:".toList

/-- A location may repeat the mark of its kind, with two slashes or without. -/
def unmarked (text : List Char) : List Char :=
  let marked := mark ++ text
  let rest := withoutMark (mark ++ ['/', '/']) marked.length marked
  withoutMark mark rest.length rest

def decoded (text : List Char) : Bytes := (Bytes.ofText (String.ofList text)).unescaped

def memoryName : String := ":memory:"

def ofName (name : List Char) : Option Location :=
  if String.ofList name = memoryName then
    some {
      name := Bytes.ofText "file:memory"
      isUnique := true
      inMemory := true
      sharesCache := true }
  else do
    let text ← (decoded name).toText?
    return { name := Bytes.ofText text }

/-- A part of a parameter, where a plus sign stands for a space. -/
def parameterText (text : List Char) : Option String :=
  (decoded (text.map fun char => if char = '+' then ' ' else char)).toText?

/-- The parameters between ampersands, each a name and what follows its first equals sign. -/
def parameters (text : List Char) : Option (List (String × String)) :=
  ((Text.pieces '&' text).filter (!·.isEmpty)).mapM fun piece => do
    let name ← parameterText (piece.takeWhile (· ≠ '='))
    let value ← parameterText ((piece.dropWhile (· ≠ '=')).drop 1)
    return (name, value)

/-- A later parameter adds to what earlier ones said. That a file may be written, or created, goes
without saying. -/
def withParameter (location : Location) : String × String → Option Location
  | ("mode", "ro") => some { location with isReadOnly := true }
  | ("mode", "rw") | ("mode", "rwc") => some location
  | ("mode", "memory") => some { location with inMemory := true, sharesCache := true }
  | ("cache", "shared") => some { location with sharesCache := true }
  | ("cache", "private") => some { location with sharesCache := false }
  | ("immutable", "true") | ("immutable", "1") => some { location with isImmutable := true }
  | ("immutable", "false") | ("immutable", "0") => some { location with isImmutable := false }
  | ("vfs", system) => some { location with system := some system }
  | _ => none

/-- Nothing for a text that is no location. -/
def ofText (text : String) : Option Location := do
  let text := unmarked text.toList
  let location ← ofName (text.takeWhile (· ≠ '?'))
  let parameters ← parameters ((text.dropWhile (· ≠ '?')).drop 1)
  parameters.foldlM withParameter location

end Location
end EventStore
