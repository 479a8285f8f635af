import EventStore.Json.Number
import EventStore.Text.Characters

/-! Reading JSON text strictly: four blanks, no comments, no trailing commas, no lone surrogates.
Reading recurses on the levels of nesting still allowed, so no text exhausts it. -/

namespace EventStore.Json

/-- How deep a stored payload may nest. -/
def maximumDepth : Nat := 127

def isBlank (char : Char) : Bool := char = ' ' || char = '\t' || char = '\n' || char = '\r'

def skipBlanks (text : List Char) : List Char := text.dropWhile isBlank

def readHexFour : List Char → Option (Nat × List Char)
  | a :: b :: c :: d :: rest => do
    let digits ← [a, b, c, d].mapM Text.hexValue
    return (Text.ofDigits 16 digits, rest)
  | _ => none

def isLeadSurrogate (unit : Nat) : Bool := 0xD800 ≤ unit && unit ≤ 0xDBFF

def isTrailSurrogate (unit : Nat) : Bool := 0xDC00 ≤ unit && unit ≤ 0xDFFF

/-- The character after `\u`. A lead surrogate needs its trail in the next escape. -/
def readCodePoint (text : List Char) : Option (Char × List Char) := do
  let (unit, rest) ← readHexFour text
  if isTrailSurrogate unit then none
  else if isLeadSurrogate unit then
    match rest with
    | '\\' :: 'u' :: rest =>
      let (trail, rest) ← readHexFour rest
      if isTrailSurrogate trail then
        some (Char.ofNat (0x10000 + (unit - 0xD800) * 0x400 + (trail - 0xDC00)), rest)
      else none
    | _ => none
  else some (Char.ofNat unit, rest)

def readEscape : List Char → Option (Char × List Char)
  | '"' :: rest => some ('"', rest)
  | '\\' :: rest => some ('\\', rest)
  | '/' :: rest => some ('/', rest)
  | 'b' :: rest => some ('\x08', rest)
  | 'f' :: rest => some ('\x0c', rest)
  | 'n' :: rest => some ('\n', rest)
  | 'r' :: rest => some ('\r', rest)
  | 't' :: rest => some ('\t', rest)
  | 'u' :: rest => readCodePoint rest
  | _ => none

/-- The characters up to the closing quote. The fuel is the length of the text. -/
def readStringBody : Nat → List Char → Option (List Char × List Char)
  | _, [] => none
  | 0, _ => none
  | _ + 1, '"' :: rest => some ([], rest)
  | fuel + 1, '\\' :: rest => do
    let (char, rest) ← readEscape rest
    let (chars, rest) ← readStringBody fuel rest
    return (char :: chars, rest)
  | fuel + 1, char :: rest =>
    if char.toNat < 0x20 then none
    else do
      let (chars, rest) ← readStringBody fuel rest
      return (char :: chars, rest)

def readString : List Char → Option (String × List Char)
  | '"' :: rest => do
    let (chars, rest) ← readStringBody rest.length rest
    return (String.ofList chars, rest)
  | _ => none

/-- Items with commas between them up to the closing character. The fuel is the length of the
text, and every item takes at least one character of it. -/
def readItems (item : List Char → Option (α × List Char)) (close : Char) :
    Nat → List Char → Option (List α × List Char)
  | 0, _ => none
  | fuel + 1, text => do
    let (value, rest) ← item (skipBlanks text)
    match skipBlanks rest with
    | ',' :: rest => do
      let (values, rest) ← readItems item close fuel rest
      return (value :: values, rest)
    | char :: rest => if char = close then some ([value], rest) else none
    | [] => none

/-- A list that may be empty. -/
def readList (item : List Char → Option (α × List Char)) (close : Char) (text : List Char) :
    Option (List α × List Char) :=
  match skipBlanks text with
  | [] => none
  | char :: rest =>
    if char = close then some ([], rest) else readItems item close text.length (char :: rest)

def readMember (value : List Char → Option (Json × List Char)) (text : List Char) :
    Option ((String × Json) × List Char) := do
  let (name, rest) ← readString text
  match skipBlanks rest with
  | ':' :: rest =>
    let (value, rest) ← value (skipBlanks rest)
    return ((name, value), rest)
  | _ => none

/-- A value without blanks before it; `depth` levels of nesting may still be opened. -/
def readValue (depth : Nat) (text : List Char) : Option (Json × List Char) :=
  match text with
  | 'n' :: 'u' :: 'l' :: 'l' :: rest => some (.null, rest)
  | 't' :: 'r' :: 'u' :: 'e' :: rest => some (.bool true, rest)
  | 'f' :: 'a' :: 'l' :: 's' :: 'e' :: rest => some (.bool false, rest)
  | '"' :: _ => (readString text).map fun (chars, rest) => (.string chars, rest)
  | '[' :: rest =>
    match depth with
    | 0 => none
    | depth + 1 =>
      (readList (readValue depth) ']' rest).map fun (items, rest) => (.array items, rest)
  | '\x7b' :: rest =>
    match depth with
    | 0 => none
    | depth + 1 =>
      (readList (readMember (readValue depth)) '\x7d' rest).map fun (members, rest) =>
        (ofMembers members, rest)
  | _ => (readNumber text).map fun (value, rest) => (.number value, rest)

/-- The value a whole text stands for, nested at most `depth` levels. -/
def readNested (depth : Nat) (text : String) : Option Json := do
  let (value, rest) ← readValue depth (skipBlanks text.toList)
  if (skipBlanks rest).isEmpty then some value else none

def ofText (text : String) : Option Json := readNested maximumDepth text

end EventStore.Json
