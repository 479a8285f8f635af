import EventStore.Settings.Document

/-! Settings come in layers. A later layer is merged into the earlier ones mapping by mapping,
everything else it holds replaces what was there. Names are compared without regard to case. -/

namespace EventStore.Document

/-- The lower case of a letter. Of the letters beyond the first 128 characters only the kelvin sign
has one among them, and no other lower case makes a name equal to one that settings have. -/
def lowerLetter (letter : Char) : Char := if letter = '\u212a' then 'k' else letter.toLower

def lowerCase (name : String) : String := String.ofList (name.toList.map lowerLetter)

mutual
/-- Puts a value under a name. A mapping is merged with what is there, entry by entry, so an
empty one leaves even a scalar in its place. -/
def put (target : Document) (name : String) : Document → Document
  | .mapping incoming =>
    let name := lowerCase name
    let existing := (target.entries.lookup name).getD (.mapping [])
    .mapping (setEntry name (putAll existing incoming) target.entries)
  | value => .mapping (setEntry (lowerCase name) value target.entries)

def putAll (target : Document) : List (String × Document) → Document
  | [] => target
  | (name, value) :: rest => putAll (put target name value) rest
end

/-- One step from a setting to one below it. Items are counted from the start of a list, with a
sign from its end. -/
inductive Step
  | child (name : String)
  | item (index : Int)
  deriving DecidableEq, Repr

def isNameChar (char : Char) : Bool := char.isAlphanum || [' ', '_', '-'].contains char

def isSpace (char : Char) : Bool := char = ' ' || char = '\t'

/-- The index in brackets, which has to fit a signed word, with what follows it. -/
def readIndex (text : List Char) : Option (Int × List Char) :=
  let text := text.dropWhile isSpace
  let (negative, text) :=
    match text with
    | '-' :: text => (true, text)
    | text => (false, text)
  match Real.readNatural (text.takeWhile Char.isDigit),
    (text.dropWhile Char.isDigit).dropWhile isSpace with
  | some number, ']' :: rest =>
    let index : Int := if negative then -number else number
    if fitsSignedWord index then some (index, rest) else none
  | _, _ => none

/-- The steps after a first name: names after points and indices in brackets. The fuel is the
length of the text. -/
def readSteps : Nat → List Char → Option (List Step)
  | _, [] => some []
  | 0, _ => none
  | fuel + 1, '.' :: rest =>
    let name := rest.takeWhile isNameChar
    if name.isEmpty then none
    else (readSteps fuel (rest.dropWhile isNameChar)).map (.child (String.ofList name) :: ·)
  | fuel + 1, '[' :: rest => do
    let (index, rest) ← readIndex rest
    let steps ← readSteps fuel rest
    return .item index :: steps
  | _, _ => none

/-- The path that a name spells; a name that spells none is one step by itself. -/
def pathOf (name : String) : List Step :=
  let first := name.toList.takeWhile isNameChar
  let rest := name.toList.dropWhile isNameChar
  if first.isEmpty then [.child name]
  else
    match readSteps name.length rest with
    | some steps => .child (String.ofList first) :: steps
    | none => [.child name]

def items : Document → List Document
  | .list items => items
  | _ => []

/-- The position that an index stands for among so many items. -/
def position (index : Int) (count : Nat) : Nat :=
  if 0 ≤ index then index.toNat else count - index.natAbs

def setItem (position : Nat) (value : Document) (items : List Document) : List Document :=
  (items ++ List.replicate (position + 1 - items.length) Document.null).set position value

/-- Sets the value at the end of a path. Whatever stands in the way of a step gives place. -/
def setAt (value : Document) : List Step → Document → Document
  | [], _ => value
  | [.child name], target => put target name value
  | .child name :: steps, target =>
    let name := lowerCase name
    let below := (target.entries.lookup name).getD .null
    .mapping (setEntry name (setAt value steps below) target.entries)
  | .item index :: steps, target =>
    let position := position index target.items.length
    let below := target.items.getD position .null
    .list (setItem position (setAt value steps below) target.items)

/-- Merges a layer, whose outermost names may spell paths. -/
def mergeLayer (earlier : Document) (layer : List (String × Document)) : Document :=
  layer.foldl (fun merged (name, value) => setAt value (pathOf name) merged) earlier

def mergeLayers (layers : List (List (String × Document))) : Document :=
  layers.foldl mergeLayer (.mapping [])

end EventStore.Document
