import EventStore.Text.Percent
import EventStore.Yaml.Scalar

/-! The tokens of a settings file, and those of them that are names: anchors, tags and
directives. -/

namespace EventStore.Yaml

structure Tag where
  handle : List Char
  suffix : List Char
  deriving DecidableEq, Repr

inductive Token
  | versionDirective
  | tagDirective (handle start : List Char)
  | documentStart
  | documentEnd
  | blockSequenceStart
  | blockMappingStart
  | blockEnd
  | flowSequenceStart
  | flowSequenceEnd
  | flowMappingStart
  | flowMappingEnd
  | blockEntry
  | flowEntry
  | key
  | value
  | alias (name : List Char)
  | anchor (name : List Char)
  | tag (tag : Tag)
  | scalar (style : ScalarStyle) (text : List Char)
  deriving DecidableEq, Repr

/-- Anchors and tags come before the node they belong to. -/
def Token.isProperty : Token → Bool
  | .anchor _ | .tag _ => true
  | _ => false

namespace Input

def isAnchorChar (char : Char) : Bool :=
  !isBlank char && !isBreak char && !isFlow char && char ≠ '\ufeff'

/-- The name of an anchor or of the anchor that an alias means, after its mark. -/
def readAnchor (input : Input) : Option (List Char × Input) :=
  let (name, after) := (input.skip 1).takeWhile isAnchorChar
  if name.isEmpty then none else some (name, after)

def isAddressChar (char : Char) : Bool :=
  (isWordChar char && char ≠ '_') || "#;/?:@&=+$,_.!~*'()[]%".toList.contains char

def isTagChar (char : Char) : Bool := isAddressChar char && !isFlow char && char ≠ '!'

/-- Whether two digits follow every percent sign. -/
def hasWholeEscapes : List Char → Bool
  | [] => true
  | '%' :: first :: second :: rest =>
    (Text.hexValue first).isSome && (Text.hexValue second).isSome && hasWholeEscapes rest
  | char :: rest => char ≠ '%' && hasWholeEscapes rest

/-- The text that characters of an address stand for. -/
def decodeAddress (text : List Char) : Option (List Char) :=
  if hasWholeEscapes text then
    (Bytes.ofText (String.ofList text)).unescaped.toText?.map String.toList
  else none

def takeAddress (input : Input) (accepts : Char → Bool) : Option (List Char × Input) := do
  let (text, after) := input.takeWhile accepts
  return (← decodeAddress text, after)

/-- A handle with its marks: one mark, or a word between two. -/
def readHandle (input : Input) : Option (List Char × Input) :=
  match input.rest with
  | '!' :: _ =>
    let (word, after) := (input.skip 1).takeWhile isWordChar
    match after.rest with
    | '!' :: _ => some ('!' :: word ++ ['!'], after.skip 1)
    | _ => some ('!' :: word, after)
  | _ => none

def isWholeHandle (handle : List Char) : Bool := 2 ≤ handle.length && handle.getLast? = some '!'

def readVerbatimTag (input : Input) : Option (Tag × Input) := do
  let (suffix, after) ← (input.skip 2).takeAddress isAddressChar
  match after.rest with
  | '>' :: _ => some ({ handle := [], suffix }, after.skip 1)
  | _ => none

/-- A tag with a handle, or a local one. -/
def readShortTag (input : Input) : Option (Tag × Input) := do
  let (handle, after) ← input.readHandle
  let (suffix, rest) ← after.takeAddress isTagChar
  if isWholeHandle handle then
    if suffix.isEmpty then none else some ({ handle, suffix }, rest)
  else
    match handle.drop 1 ++ suffix with
    | [] => some ({ handle := [], suffix := ['!'] }, rest)
    | suffix => some ({ handle := ['!'], suffix }, rest)

/-- A tag has to stand apart from what follows. -/
def readTag (inFlow : Bool) (input : Input) : Option (Tag × Input) := do
  let (tag, after) ←
    if (input.rest.drop 1).head? = some '<' then input.readVerbatimTag
    else input.readShortTag
  if atGap after.rest || (inFlow && startsFlow after.rest) then some (tag, after) else none

/-! ## Directives -/

def skipAllBlanks (input : Input) : Input :=
  input.skipBlanks (input.rest.takeWhile isBlank).length

/-- The most digits that a number of a version may have. -/
def versionDigits : Nat := 9

def readVersionNumber (input : Input) : Option Input :=
  let (digits, after) := input.takeWhile Char.isDigit
  if digits.isEmpty || versionDigits < digits.length then none else some after

def readVersion (input : Input) : Option (Token × Input) := do
  let after ← input.skipAllBlanks.readVersionNumber
  match after.rest with
  | '.' :: _ => (after.skip 1).readVersionNumber.map (Token.versionDirective, ·)
  | _ => none

/-- What a handle stands for: a local tag, or the start of an address. -/
def readTagStart (input : Input) : Option (List Char × Input) :=
  match input.rest with
  | char :: _ =>
    if char = '!' || isTagChar char then do
      let (start, after) := input.takeWhile isAddressChar
      return (← decodeAddress start, after)
    else none
  | [] => none

def readTagDirective (input : Input) : Option (Token × Input) := do
  let (handle, after) ← input.skipAllBlanks.readHandle
  if handle.length = 1 || isWholeHandle handle then
    let (start, after) ← after.skipAllBlanks.readTagStart
    if atGap after.rest then some (.tagDirective handle start, after) else none
  else none

/-- A directive from its mark to the end of its line. One of an unknown name says nothing. -/
def readDirective (input : Input) : Option (Token × Input) := do
  let (name, after) := (input.skip 1).takeWhile isWordChar
  if name.isEmpty || !atGap after.rest then none
  else
    let (token, after) ←
      match String.ofList name with
      | "YAML" => after.readVersion
      | "TAG" => after.readTagDirective
      | _ => some (.tagDirective [] [], after.skipComment)
    let (_, after) ← after.skipGap true
    if atLineEnd after.rest then
      some (token, if after.rest.isEmpty then after else after.skipBreak)
    else none

end Input
end EventStore.Yaml
