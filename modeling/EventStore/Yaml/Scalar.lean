import EventStore.Text.Characters
import EventStore.Yaml.Input

/-! Scalars: plain and quoted ones, whose lines are folded into one, and block scalars, which keep
their lines or fold them. All of them are read at an indentation that their lines have to keep to.
Fuel is the length of what is left to read. -/

namespace EventStore.Yaml

inductive ScalarStyle
  | plain
  | quoted
  | block
  deriving DecidableEq, Repr

/-- What was skipped since the last visible character of a scalar. -/
structure Fold where
  /-- The blanks before the end of the line. -/
  blanks : List Char := []
  /-- Whether the line ended, other than by an escape. -/
  hasBreak : Bool := false
  /-- Whether what comes next starts a line. -/
  isLeading : Bool := false
  /-- The empty lines after it. -/
  emptyLines : Nat := 0
  deriving Repr

namespace Fold

/-- A single line end becomes a space, further ones are kept. -/
def text (fold : Fold) : List Char :=
  if fold.isLeading then
    if fold.hasBreak && fold.emptyLines = 0 then [' '] else List.replicate fold.emptyLines '\n'
  else fold.blanks

def addBlank (fold : Fold) (blank : Char) : Fold :=
  if fold.isLeading then fold else { fold with blanks := fold.blanks ++ [blank] }

def addBreak (fold : Fold) : Fold :=
  if fold.isLeading then { fold with emptyLines := fold.emptyLines + 1 }
  else { fold with blanks := [], hasBreak := true, isLeading := true }

end Fold

/-! ## Plain scalars -/

/-- Whether a plain scalar goes on: a colon before a gap ends it, and in brackets their
punctuation. -/
def continuesPlain (inFlow : Bool) : List Char → Bool
  | [] => false
  | char :: rest =>
    !(isBlank char || isBreak char) &&
      !(char = ':' && (atGap rest || (inFlow && startsFlow rest))) && !(inFlow && isFlow char)

def plainLength (inFlow : Bool) : List Char → Nat
  | [] => 0
  | char :: rest =>
    if continuesPlain inFlow (char :: rest) then plainLength inFlow rest + 1 else 0

/-- Skips blanks and line ends. A tab within the indentation needs an empty line. -/
def skipPlainGap (indent : Int) : Nat → Fold → Input → Option (Fold × Input)
  | 0, fold, input => some (fold, input)
  | fuel + 1, fold, input =>
    match input.rest with
    | [] => some (fold, input)
    | char :: _ =>
      if isBlank char then
        if fold.isLeading && char = '\t' && input.column < indent then do
          let (_, input) ← input.skipGap true
          -- A comment counts as the content of its line.
          let fold := { fold with isLeading := input.isLeading }
          if atLineEnd input.rest then skipPlainGap indent fuel fold input else none
        else skipPlainGap indent fuel (fold.addBlank char) (input.skipBlanks 1)
      else if isBreak char then skipPlainGap indent fuel fold.addBreak input.skipBreak
      else some (fold, input)

def readPlainLines (inFlow : Bool) (indent : Int) :
    Nat → List Char → Fold → Input → Option (List Char × Input)
  | 0, word, _, input => some (word, input)
  | fuel + 1, word, fold, input =>
    if input.atDocumentMark || input.rest.head? = some '#' then some (word, input)
    else if inFlow && input.rest.head? = some '-' && startsFlow (input.rest.drop 1) then none
    else
      let length := plainLength inFlow input.rest
      let (word, fold, input) :=
        if length = 0 then (word, fold, input)
        else (word ++ fold.text ++ input.rest.take length, {}, input.skip length)
      if input.rest.isEmpty || !atGap input.rest then some (word, input)
      else do
        let (fold, input) ← skipPlainGap indent (input.rest.length + 1) fold input
        if !inFlow && input.column < indent then some (word, input)
        else readPlainLines inFlow indent fuel word fold input

def readPlain (inFlow : Bool) (parent : Int) (input : Input) : Option (List Char × Input) :=
  let indent := parent + 1
  if inFlow && input.column < indent then none
  else
    readPlainLines inFlow indent (input.rest.length + 1) [] { isLeading := input.isLeading } input

/-! ## Quoted scalars -/

/-- The characters that a single letter stands for after the escape character. -/
def escapes : List (Char × Char) :=
  [('0', '\x00'), ('a', '\x07'), ('b', '\x08'), ('t', '\t'), ('\t', '\t'), ('n', '\n'),
    ('v', '\x0b'), ('f', '\x0c'), ('r', '\r'), ('e', '\x1b'), (' ', ' '), ('"', '"'), ('/', '/'),
    ('\\', '\\'), ('N', '\x85'), ('_', '\xa0'), ('L', '\u2028'), ('P', '\u2029')]

/-- How many hexadecimal digits name a character after a letter. -/
def escapeLengths : List (Char × Nat) := [('x', 2), ('u', 4), ('U', 8)]

/-- The character that an escape stands for, and how many characters it has itself. -/
def readEscape (mark : Char) (text : List Char) : Option (Char × Nat) :=
  match escapes.lookup mark, escapeLengths.lookup mark with
  | some char, _ => some (char, 1)
  | none, some length => do
    let digits := text.take length
    let point := Text.ofDigits 16 (← digits.mapM Text.hexValue)
    if digits.length = length && point.isValidChar then some (Char.ofNat point, length + 1)
    else none
  | none, none => none

/-- The visible characters of a line up to the closing quote. The last part tells whether the line
ended by an escape. -/
def readQuotedWord (quote : Char) :
    Nat → List Char → Input → Option (List Char × Input × Bool)
  | 0, word, input => some (word.reverse, input, false)
  | fuel + 1, word, input =>
    match input.rest with
    | [] => some (word.reverse, input, false)
    | char :: rest =>
      if isBlank char || isBreak char then some (word.reverse, input, false)
      else if char = quote then
        if quote = '\'' && rest.head? = some quote then
          readQuotedWord quote fuel (quote :: word) (input.skip 2)
        else some (word.reverse, input, false)
      else if quote = '"' && char = '\\' then
        match rest with
        | [] => none
        | mark :: rest =>
          if isBreak mark then some (word.reverse, (input.skip 1).skipBreak, true)
          else do
            let (escaped, length) ← readEscape mark rest
            readQuotedWord quote fuel (escaped :: word) (input.skip (length + 1))
      else readQuotedWord quote fuel (char :: word) (input.skip 1)

/-- Skips blanks and line ends. No tab may stand within the indentation. -/
def skipQuotedGap (indent : Int) : Nat → Fold → Input → Option (Fold × Input)
  | 0, fold, input => some (fold, input)
  | fuel + 1, fold, input =>
    match input.rest with
    | [] => some (fold, input)
    | char :: _ =>
      if isBlank char then
        if fold.isLeading && char = '\t' && input.column < indent then none
        else skipQuotedGap indent fuel (fold.addBlank char) (input.skipBlanks 1)
      else if isBreak char then skipQuotedGap indent fuel fold.addBreak input.skipBreak
      else some (fold, input)

def readQuotedLines (quote : Char) (indent : Int) :
    Nat → List Char → Input → Option (List Char × Input)
  | 0, _, _ => none
  | fuel + 1, text, input =>
    if input.atDocumentMark || input.rest.isEmpty || input.column < indent then none
    else do
      let (word, input, escaped) ← readQuotedWord quote (input.rest.length + 1) [] input
      let text := text ++ word
      if input.rest.head? = some quote then some (text, input.skip 1)
      else
        let (fold, input) ←
          skipQuotedGap indent (input.rest.length + 1) { isLeading := escaped } input
        readQuotedLines quote indent fuel (text ++ fold.text) input

/-- Whether what follows a quoted scalar on its line may follow one: a line end, or a colon after
a single line, or in brackets their punctuation. -/
def mayFollowQuoted (inFlow sameLine : Bool) (text : List Char) : Bool :=
  atLineEnd text ||
    match text.head? with
    | some ':' => inFlow || sameLine
    | some char => inFlow && [',', ']', '\x7d'].contains char
    | none => true

def readQuoted (inFlow : Bool) (indent : Int) (quote : Char) (input : Input) :
    Option (List Char × Input) := do
  let (text, after) ← readQuotedLines quote indent (input.rest.length + 1) [] (input.skip 1)
  let (_, after) ← after.skipGap true
  if mayFollowQuoted inFlow (input.line = after.line) after.rest then some (text, after) else none

/-! ## Block scalars -/

/-- What becomes of the line ends after the last line. -/
inductive Chomping
  | clip
  | strip
  | keep
  deriving DecidableEq, Repr

def Chomping.ofChar : Char → Option Chomping
  | '+' => some .keep
  | '-' => some .strip
  | _ => none

/-- The indentation that a header asks for, from one to nine. -/
def readIndicator (input : Input) : Option (Nat × Input) :=
  match input.rest with
  | char :: _ =>
    if char = '0' then none
    else if char.isDigit then some (char.toNat - '0'.toNat, input.skip 1)
    else some (0, input)
  | [] => some (0, input)

def readChomping (input : Input) : Chomping × Input :=
  match input.rest.head?.bind Chomping.ofChar with
  | some chomping => (chomping, input.skip 1)
  | none => (.clip, input)

def readHeader (input : Input) : Option (Chomping × Nat × Input) := do
  let (chomping, after) := readChomping input
  let (indent, after) ← readIndicator after
  if chomping = .clip then
    let (chomping, after) := if indent = 0 then (.clip, after) else readChomping after
    return (chomping, indent, after)
  else return (chomping, indent, after)

def skipIndent (indent : Nat) : Nat → Nat → Input → Nat × Input
  | 0, lines, input => (lines, input)
  | fuel + 1, lines, input =>
    let spaces := ((input.rest.takeWhile (· = ' ')).take (indent - input.column)).length
    let input := input.skipBlanks spaces
    match input.rest with
    | [] => (lines, input)
    | char :: _ =>
      if isBreak char then skipIndent indent fuel (lines + 1) input.skipBreak else (lines, input)

/-- Skips empty lines and finds the widest indentation up to the first line with content. -/
def findIndent : Nat → Nat → Nat → Input → Nat × Nat × Input
  | 0, widest, lines, input => (widest, lines, input)
  | fuel + 1, widest, lines, input =>
    let input := input.skipBlanks (input.rest.takeWhile (· = ' ')).length
    let widest := max widest input.column
    match input.rest with
    | [] => (widest, lines, input)
    | char :: _ =>
      if isBreak char then findIndent fuel widest (lines + 1) input.skipBreak
      else (widest, lines, input)

structure BlockLines where
  text : List Char := []
  /-- Whether the line before has ended. -/
  hasBreak : Bool := false
  /-- Whether the line before starts with a blank. -/
  isIndented : Bool := false
  emptyLines : Nat

/-- The text of a line end and the empty lines after it. Lines that start with a blank are not
folded. -/
def BlockLines.between (lines : BlockLines) (literal : Bool) (next : List Char) : List Char :=
  let breaks := List.replicate lines.emptyLines '\n'
  if !literal && lines.hasBreak && !lines.isIndented && !(next.head?.any isBlank) then
    if lines.emptyLines = 0 then [' '] else breaks
  else if lines.hasBreak then '\n' :: breaks
  else breaks

def readBlockLines (literal : Bool) (indent : Nat) :
    Nat → BlockLines → Input → BlockLines × Input
  | 0, lines, input => (lines, input)
  | fuel + 1, lines, input =>
    if input.column ≠ indent || input.rest.isEmpty || (indent = 0 && atDocumentEnd input.rest) then
      (lines, input)
    else
      let (line, after) := input.takeWhile (!isBreak ·)
      let text := lines.text ++ lines.between literal input.rest ++ line
      let lines : BlockLines :=
        { text, isIndented := input.rest.head?.any isBlank, emptyLines := 0 }
      if after.rest.isEmpty then (lines, after)
      else
        let (emptyLines, after) := skipIndent indent (after.rest.length + 1) 0 after.skipBreak
        readBlockLines literal indent fuel { lines with hasBreak := true, emptyLines } after

def emptyBlock (chomping : Chomping) (hasLine : Bool) (emptyLines : Nat) : List Char :=
  if chomping = .strip || !hasLine then []
  else if chomping = .keep && 0 < emptyLines then List.replicate emptyLines '\n'
  else ['\n']

/-- The text of a block scalar with the line ends that its chomping leaves. -/
def chomp (chomping : Chomping) (indent : Nat) (lines : BlockLines) (input : Input) : List Char :=
  let lastBreak := if lines.hasBreak then ['\n'] else []
  let unended := input.rest.isEmpty && max indent 1 ≤ input.column
  match chomping with
  | .strip => lines.text
  | .clip => lines.text ++ lastBreak ++ (if unended then ['\n'] else [])
  | .keep =>
    lines.text ++ lastBreak ++ (if unended then ['\n'] else []) ++
      List.replicate lines.emptyLines '\n'

/-- The indentation of the lines, the empty lines before the first one, and the input there. -/
def startBlock (parent : Int) (asked : Nat) (input : Input) : Nat × Nat × Input :=
  let fuel := input.rest.length + 1
  if asked = 0 then
    let (widest, lines, input) := findIndent fuel 0 0 input
    let indent := max widest (parent + 1).toNat
    (if 0 < parent then max indent 1 else indent, lines, input)
  else
    let indent := if 0 ≤ parent then parent.toNat + asked else asked
    let (lines, input) := skipIndent indent fuel 0 input
    (indent, lines, input)

/-- A block scalar from its mark on, in a collection at an indentation. -/
def readBlock (literal : Bool) (parent : Int) (input : Input) : Option (List Char × Input) := do
  let (chomping, asked, after) ← readHeader (input.skip 1)
  let (_, after) ← after.skipGap true
  if !atLineEnd after.rest then none
  else
    let after := if after.rest.isEmpty then after else after.skipBreak
    if after.rest.head? = some '\t' then none
    else
      let (indent, emptyLines, start) := startBlock parent asked after
      if start.rest.isEmpty then
        some (emptyBlock chomping (start.line ≠ input.line) emptyLines, start)
      else if start.column < indent && parent < start.column then none
      else
        let (lines, after) :=
          readBlockLines literal indent (start.rest.length + 1) { emptyLines } start
        some (chomp chomping indent lines after, after)

end EventStore.Yaml
