/-! What is left of a text, with the position reached in it. Line feeds and carriage returns end
lines, the two together end only one; spaces and tabs are blank. -/

namespace EventStore.Yaml

def isBlank (char : Char) : Bool := char = ' ' || char = '\t'

def isBreak (char : Char) : Bool := char = '\n' || char = '\r'

def isFlow (char : Char) : Bool := [',', '[', ']', '\x7b', '\x7d'].contains char

/-- Letters and digits of the first 128 characters, and the two marks that may join them. -/
def isWordChar (char : Char) : Bool := char.isAlphanum || char = '_' || char = '-'

def atLineEnd : List Char → Bool
  | [] => true
  | char :: _ => isBreak char

def atGap : List Char → Bool
  | [] => true
  | char :: _ => isBlank char || isBreak char

def startsFlow : List Char → Bool
  | [] => false
  | char :: _ => isFlow char

/-- Three equal marks, alone at the start of a line, separate documents. -/
def atMarker (mark : Char) : List Char → Bool
  | first :: second :: third :: rest =>
    first = mark && second = mark && third = mark && atGap rest
  | _ => false

def atDocumentStart (text : List Char) : Bool := atMarker '-' text

def atDocumentEnd (text : List Char) : Bool := atMarker '.' text

structure Input where
  rest : List Char
  /-- How many characters were read. -/
  index : Nat := 0
  line : Nat := 0
  column : Nat := 0
  /-- Whether the line held nothing but blanks so far. -/
  isLeading : Bool := true
  deriving Repr

namespace Input

def atDocumentMark (input : Input) : Bool :=
  input.column = 0 && (atDocumentStart input.rest || atDocumentEnd input.rest)

/-- Moves past characters of the line that leave it as blank as it was. -/
def skipBlanks (input : Input) (count : Nat) : Input :=
  { input with
    rest := input.rest.drop count
    index := input.index + count
    column := input.column + count }

/-- Moves past characters of the line, of which at least one is visible. -/
def skip (input : Input) (count : Nat) : Input :=
  { input.skipBlanks count with isLeading := false }

def skipBreak (input : Input) : Input :=
  let count :=
    match input.rest with
    | '\r' :: '\n' :: _ => 2
    | _ => 1
  { rest := input.rest.drop count
    index := input.index + count
    line := input.line + 1
    column := 0
    isLeading := true }

def takeWhile (input : Input) (accepts : Char → Bool) : List Char × Input :=
  let taken := input.rest.takeWhile accepts
  (taken, if taken.isEmpty then input else input.skip taken.length)

/-- Moves to the end of the line, where a comment ends. -/
def skipComment (input : Input) : Input := (input.takeWhile (!isBreak ·)).2

/-- The kinds of blanks between two tokens of a line. -/
structure Gap where
  hasSpace : Bool
  hasTab : Bool
  deriving Repr

/-- Skips the blanks of a line and a comment after them. A comment that touches what stands before
it is refused. -/
def skipGap (input : Input) (tabs : Bool) : Option (Gap × Input) :=
  let blanks := input.rest.takeWhile fun char => char = ' ' || (tabs && char = '\t')
  let input := input.skipBlanks blanks.length
  let gap : Gap := { hasSpace := blanks.contains ' ', hasTab := blanks.contains '\t' }
  match input.rest with
  | '#' :: _ => if blanks.isEmpty then none else some (gap, input.skipComment)
  | _ => some (gap, input)

end Input
end EventStore.Yaml
