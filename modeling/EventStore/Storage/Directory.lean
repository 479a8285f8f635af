import EventStore.Text.Percent
import EventStore.Text.Pieces

/-! The working directory as far as databases are concerned: which names stand for folders, which
for files, and which file holds which database. -/

namespace EventStore

inductive Entry
  | folder
  /-- A file without content, which can become a database. -/
  | blank
  /-- A file with other content. -/
  | foreign
  | database (index : Nat)
  deriving DecidableEq, Repr

/-- The names on the way to an entry, the outermost first. Two points lead out of the working
directory, and a slash comes first in a place that does not depend on it. -/
abbrev Place := List Bytes

namespace Place

def root : Bytes := [0x2f]
def here : Bytes := [0x2e]
def above : Bytes := [0x2e, 0x2e]

def parent (place : Place) : Place :=
  match place.getLast? with
  | none => [above]
  | some name =>
    if name = above then place ++ [above] else if name = root then place else place.dropLast

/-- Whether a place lies on the way to the working directory, or above everything. -/
def isOutside (place : Place) : Bool := place = [root] || place.all (· = above)

/-- How many bytes the path of the working directory is taken to have. -/
def workingLength : Nat := 15

def pathLength (place : Place) : Nat :=
  let names := (place.filter (· ≠ root)).foldl (fun length name => length + name.length + 1) 0
  if place.head? = some root then names else workingLength + names

end Place

structure Directory where
  entries : List (Place × Entry) := []

namespace Directory

def find? (directory : Directory) (place : Place) : Option Entry :=
  if place.isOutside then some .folder else directory.entries.lookup place

def add (directory : Directory) (place : Place) (entry : Entry) : Directory :=
  { entries := (place, entry) :: directory.entries.filter (·.1 ≠ place) }

/-- The names in a path. Repeated slashes and single points say nothing. -/
def segments (path : Bytes) : List Bytes :=
  let names := (Text.pieces 0x2f path).filter fun name => !name.isEmpty && name ≠ Place.here
  if path.head? = some 0x2f then Place.root :: names else names

def nameLimit : Nat := 255

/-- The most bytes a path may have, one of them for its end. -/
def pathLimit : Nat := 4096

/-- What a database adds to the name of its file while it writes. -/
def journalSuffix : Bytes := Bytes.ofText "-journal"

/-- The most bytes the path of a database may have, together with its suffix. -/
def databasePathLimit : Nat := 512

/-- Whether a name can be looked up in a place, whether or not it is there: what lies there
must not be a file. -/
def canLookUp (directory : Directory) (place : Place) (name : Bytes) : Bool :=
  name.length ≤ nameLimit && ((directory.find? place).all (· = .folder))

/-- The place that names lead to from another one. Names need not exist, and two points take back
the name before them even if it is not a folder's. -/
def locate (directory : Directory) (place : Place) : List Bytes → Option Place
  | [] => some place
  | name :: names =>
    if name = Place.above then directory.locate place.parent names
    else
      let next : Place := place ++ [name]
      if directory.canLookUp place name && next.pathLength < databasePathLimit then
        directory.locate next names
      else none

/-- The place of a database file, if its path is not too long for the journal beside it. -/
def locateDatabase (directory : Directory) (path : Bytes) : Option Place := do
  let place ← directory.locate [] (segments path)
  if place.pathLength + journalSuffix.length ≤ databasePathLimit then some place else none

/-- Whether a file may be written next to its journal. -/
def canHoldJournal (place : Place) : Bool :=
  place.getLast?.all fun name => name.length + journalSuffix.length ≤ nameLimit

/-- Walks down the names from a place and creates the folders that are missing. A file on the way
blocks it. -/
def makeFolders (directory : Directory) (place : Place) : List Bytes → Option Directory
  | [] => some directory
  | name :: names =>
    if name = Place.above then directory.makeFolders place.parent names
    else
      let next : Place := place ++ [name]
      if nameLimit < name.length || name.contains 0 then none
      else
        match directory.find? next with
        | none => (directory.add next .folder).makeFolders next names
        | some .folder => directory.makeFolders next names
        | some _ => none

/-- The folders that a path names before its last name are created where they are missing. -/
def makeParents (directory : Directory) (path : Bytes) : Option Directory :=
  let names := (segments path).dropLast
  if pathLimit ≤ (Text.joined 0x2f names).length then none else directory.makeFolders [] names

end Directory
end EventStore
