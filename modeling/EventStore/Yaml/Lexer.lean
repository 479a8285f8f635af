import EventStore.Yaml.Token

/-! From text to tokens. Where a block begins and ends is a matter of indentation, and whether a
scalar is the name of an entry shows only at the colon after it: the tokens that say so are then
put in before it. -/

namespace EventStore.Yaml

/-- A place where the name of an entry may have started. -/
structure Candidate where
  /-- How many tokens came before it. -/
  position : Nat
  start : Input
  /-- Whether nothing but a name can stand there. -/
  isRequired : Bool

structure Level where
  indent : Int
  /-- Whether a block ends there. -/
  isBlock : Bool

structure Lexer where
  input : Input
  /-- The tokens with the columns they start in, the last one first. -/
  tokens : List (Nat × Token) := []
  indent : Int := -1
  levels : List Level := []
  /-- Whether the name of an entry may start here. -/
  allowsName : Bool := true
  /-- The candidate outside of brackets and one in each open bracket, the innermost first. -/
  candidates : List (Option Candidate) := [none]
  /-- How many brackets are open. -/
  depth : Nat := 0
  /-- Where a colon separates even without a gap after it. -/
  adjacentIndex : Nat := 0
  /-- Whether a mapping in brackets was announced by its bracket or its mark. -/
  isAnnounced : Bool := false
  /-- For each open list in brackets, whether a single entry without brackets is being read. -/
  singles : List Bool := []

namespace Lexer

def inFlow (lexer : Lexer) : Bool := 0 < lexer.depth

def add (lexer : Lexer) (column : Nat) (token : Token) : Lexer :=
  { lexer with tokens := (column, token) :: lexer.tokens }

def insert (lexer : Lexer) (position column : Nat) (token : Token) : Lexer :=
  let later := lexer.tokens.length - position
  { lexer with
    tokens := lexer.tokens.take later ++ (column, token) :: lexer.tokens.drop later }

def moveTo (lexer : Lexer) (input : Input) : Lexer := { lexer with input }

def setCandidate (lexer : Lexer) (candidate : Option Candidate) : Lexer :=
  { lexer with candidates := candidate :: lexer.candidates.drop 1 }

def candidate? (lexer : Lexer) : Option Candidate := lexer.candidates.head?.join

/-- Gives up the candidate, unless a name was required. -/
def dropCandidate (lexer : Lexer) : Option Lexer :=
  if lexer.candidate?.any (·.isRequired) then none else some (lexer.setCandidate none)

def noteCandidate (lexer : Lexer) : Lexer :=
  if lexer.allowsName then
    let isRequired :=
      !lexer.inFlow && lexer.indent = lexer.input.column && lexer.levels.head?.any (·.isBlock)
    lexer.setCandidate
      (some { position := lexer.tokens.length, start := lexer.input, isRequired })
  else lexer

/-- How far the colon may be from the start of a name. -/
def nameLimit : Nat := 1024

/-- A name outside of brackets ends on its line and within the limit. -/
def isStale (lexer : Lexer) (candidate : Candidate) : Bool :=
  candidate.start.line < lexer.input.line || candidate.start.index + nameLimit < lexer.input.index

def dropStale (lexer : Lexer) : Option Lexer :=
  if lexer.inFlow then some lexer
  else if lexer.candidates.any fun candidate =>
    candidate.any fun candidate => candidate.isRequired && lexer.isStale candidate then none
  else
    let candidates := lexer.candidates.map fun candidate =>
      candidate.filter fun candidate => !lexer.isStale candidate
    some { lexer with candidates }

/-! ## Indentation -/

def closeBlocks (lexer : Lexer) (column : Int) : Lexer :=
  if lexer.inFlow then lexer
  else
    let rec close (lexer : Lexer) : List Level → Lexer
      | [] => { lexer with levels := [] }
      | level :: levels =>
        if column < lexer.indent then
          let lexer := if level.isBlock then lexer.add lexer.input.column .blockEnd else lexer
          close { lexer with indent := level.indent } levels
        else { lexer with levels := level :: levels }
    close lexer lexer.levels

/-- Goes back from an indentation that was only a precaution. -/
def dropPrecaution (lexer : Lexer) : Lexer :=
  match lexer.levels with
  | level :: levels =>
    if level.isBlock then lexer else { lexer with indent := level.indent, levels }
  | [] => lexer

/-- Opens a block in a column, unless there is one already. -/
def openBlock (lexer : Lexer) (column : Nat) (token : Token) (position : Nat) : Lexer :=
  if lexer.inFlow then lexer
  else
    let lexer := if lexer.indent ≤ column then lexer.dropPrecaution else lexer
    if lexer.indent < column then
      { lexer.insert position column token with
        levels := { indent := lexer.indent, isBlock := true } :: lexer.levels
        indent := column }
    else lexer

/-- What follows belongs one column further in, as a precaution. -/
def indentByOne (lexer : Lexer) : Lexer :=
  if !lexer.inFlow && lexer.levels.head?.any (·.isBlock) then
    { lexer with
      levels := { indent := lexer.indent, isBlock := false } :: lexer.levels
      indent := lexer.indent + 1 }
  else lexer

/-! ## Blanks -/

/-- Skips blanks, line ends and comments up to the next token. A tab within the indentation of a
block needs an otherwise empty line. -/
def skipToToken : Nat → Lexer → Option Lexer
  | 0, lexer => some lexer
  | fuel + 1, lexer =>
    match lexer.input.rest with
    | [] => some lexer
    | char :: _ =>
      if char = '\t' && !lexer.levels.isEmpty && lexer.input.isLeading &&
          lexer.input.column < lexer.indent then do
        let (_, input) ← lexer.input.skipGap true
        if atLineEnd input.rest then skipToToken fuel (lexer.moveTo input) else none
      else if isBlank char then skipToToken fuel (lexer.moveTo (lexer.input.skipBlanks 1))
      else if isBreak char then
        skipToToken fuel
          { lexer with
            input := lexer.input.skipBreak, allowsName := lexer.allowsName || !lexer.inFlow }
      else if char = '#' then skipToToken fuel (lexer.moveTo lexer.input.skipComment)
      else some lexer

def skipAll (lexer : Lexer) : Option Lexer := lexer.skipToToken (lexer.input.rest.length + 1)

def skipLine (lexer : Lexer) : Option Lexer := do
  let (_, input) ← lexer.input.skipGap true
  return lexer.moveTo input

/-! ## Documents -/

def readDirective (lexer : Lexer) : Option Lexer := do
  let lexer ← (lexer.closeBlocks (-1)).dropCandidate
  let (token, input) ← lexer.input.readDirective
  return { lexer.add 0 token with input, allowsName := false }

def readMarker (lexer : Lexer) (token : Token) : Option Lexer := do
  let lexer ← (lexer.closeBlocks (-1)).dropCandidate
  return { lexer.add 0 token with input := lexer.input.skip 3, allowsName := false }

/-- Nothing but a comment may follow the mark that ends a document. -/
def readDocumentEnd (lexer : Lexer) : Option Lexer := do
  let lexer ← (← lexer.readMarker .documentEnd).skipLine
  if atLineEnd lexer.input.rest then some lexer else none

/-- Closes what is open at the end of the text. -/
def finish (lexer : Lexer) : Option Lexer :=
  if lexer.candidates.any (·.any (·.isRequired)) then none else some (lexer.closeBlocks (-1))

/-! ## Bracketed collections -/

/-- The deepest nesting of brackets. -/
def maximumDepth : Nat := 255

def openFlow (lexer : Lexer) (token : Token) : Option Lexer :=
  let column := lexer.input.column
  let lexer := lexer.noteCandidate.indentByOne
  if lexer.depth = maximumDepth then none
  else
    let isMapping := token = .flowMappingStart
    let lexer :=
      { lexer with
        candidates := none :: lexer.candidates
        depth := lexer.depth + 1
        allowsName := true
        input := lexer.input.skip 1
        isAnnounced := lexer.isAnnounced || isMapping
        singles := if isMapping then lexer.singles else false :: lexer.singles }
    lexer.skipLine.map (·.add column token)

/-- Ends the single entry that was read without brackets of its own. -/
def endSingle (lexer : Lexer) : Lexer :=
  match lexer.singles with
  | true :: singles =>
    { lexer.add lexer.input.column .flowMappingEnd with
      isAnnounced := false, singles := false :: singles }
  | _ => lexer

def closeFlow (lexer : Lexer) (token : Token) : Option Lexer := do
  let column := lexer.input.column
  let lexer ← lexer.dropCandidate
  let lexer :=
    if lexer.inFlow then
      { lexer with depth := lexer.depth - 1, candidates := lexer.candidates.drop 1 }
    else lexer
  let lexer :=
    if token = .flowSequenceEnd then
      let lexer := lexer.endSingle
      { lexer with singles := lexer.singles.drop 1 }
    else lexer
  let lexer ← { lexer with allowsName := false, input := lexer.input.skip 1 }.skipLine
  let lexer := if lexer.inFlow then { lexer with adjacentIndex := lexer.input.index } else lexer
  return lexer.add column token

def readFlowEntry (lexer : Lexer) : Option Lexer := do
  let column := lexer.input.column
  let lexer := { ← lexer.dropCandidate with allowsName := true }.endSingle
  let lexer ← (lexer.moveTo (lexer.input.skip 1)).skipLine
  return lexer.add column .flowEntry

/-! ## Block collections -/

/-- Whether the token before is an anchor or a tag at the start of its line. -/
def followsOuterProperty (lexer : Lexer) : Bool :=
  lexer.tokens.head?.any fun (column, token) => column = 0 && token.isProperty

/-- A dash that starts an item. Another dash may follow only after spaces. -/
def readBlockEntry (lexer : Lexer) : Option Lexer :=
  let column := lexer.input.column
  if lexer.inFlow || !lexer.allowsName then none
  else if column = 0 && -1 < lexer.indent && lexer.followsOuterProperty then none
  else do
    let lexer := lexer.moveTo (lexer.input.skip 1)
    let lexer := lexer.openBlock column .blockSequenceStart lexer.tokens.length
    let (gap, input) ← lexer.input.skipGap true
    if gap.hasTab && input.rest.head? = some '-' && atGap (input.rest.drop 1) then none
    else
      let (_, input) ← input.skipGap false
      let lexer := lexer.moveTo input
      let lexer :=
        if input.rest.head?.any isBreak || startsFlow input.rest then lexer.indentByOne else lexer
      let lexer ← lexer.dropCandidate
      return { lexer.add lexer.input.column .blockEntry with allowsName := true }

/-- Skips spaces, line ends and comments; the last part tells whether there were any of the first
two. -/
def skipSpaces : Nat → Lexer → Bool → Lexer × Bool
  | 0, lexer, found => (lexer, found)
  | fuel + 1, lexer, found =>
    match lexer.input.rest with
    | [] => (lexer, found)
    | char :: _ =>
      if char = ' ' then skipSpaces fuel (lexer.moveTo (lexer.input.skipBlanks 1)) true
      else if isBreak char then
        skipSpaces fuel
          { lexer with
            input := lexer.input.skipBreak, allowsName := lexer.allowsName || !lexer.inFlow }
          true
      else if char = '#' then skipSpaces fuel (lexer.moveTo lexer.input.skipComment) found
      else (lexer, found)

/-- A question mark that announces a name of any kind. -/
def readKey (lexer : Lexer) : Option Lexer := do
  let column := lexer.input.column
  let lexer ←
    if lexer.inFlow then some { lexer with isAnnounced := true }
    else if lexer.allowsName then
      some (lexer.openBlock column .blockMappingStart lexer.tokens.length)
    else none
  let lexer ← lexer.dropCandidate
  let lexer := { lexer with allowsName := !lexer.inFlow, input := lexer.input.skip 1 }
  let (lexer, found) := lexer.skipSpaces (lexer.input.rest.length + 1) false
  if !found || lexer.input.rest.head? = some '\t' then none else some (lexer.add column .key)

/-- Whether the colon is followed by a tab where a space has to be. -/
def hasTabbedValue (input : Input) : Option (Bool × Input) :=
  match input.rest with
  | '\t' :: _ => do
    let (gap, input) ← input.skipGap true
    return (!gap.hasSpace && input.rest.head?.any fun char => char = '-' || isWordChar char, input)
  | _ => some (false, input)

/-- A colon after the candidate, which is a name then. -/
def valueOf (lexer : Lexer) (candidate : Candidate) (isSingle : Bool) (line : Nat) :
    Option Lexer :=
  let column := candidate.start.column
  let lexer := lexer.insert candidate.position column .key
  if isSingle && candidate.start.line < line then none
  else
    let lexer :=
      if isSingle then lexer.insert candidate.position lexer.input.column .flowMappingStart
      else lexer
    let lexer := (lexer.openBlock column .blockMappingStart candidate.position).indentByOne
    some { lexer.setCandidate none with allowsName := false }

/-- A colon after an announced name, or after none. -/
def valueAlone (lexer : Lexer) (isSingle : Bool) (column : Nat) : Option Lexer :=
  let lexer := if isSingle then lexer.add lexer.input.column .flowMappingStart else lexer
  if lexer.inFlow then some { lexer.indentByOne with allowsName := false }
  else if lexer.allowsName then
    let lexer := lexer.openBlock column .blockMappingStart lexer.tokens.length
    some { lexer.indentByOne with allowsName := true }
  else none

def readValue (lexer : Lexer) : Option Lexer := do
  let start := lexer.input
  let isSingle := !lexer.singles.isEmpty && !lexer.isAnnounced
  let singles := if isSingle then true :: lexer.singles.drop 1 else lexer.singles
  let (tabbed, input) ← hasTabbedValue (lexer.input.skip 1)
  if tabbed then none
  else
    let lexer := { lexer with singles, input }
    let lexer ←
      match lexer.candidate? with
      | some candidate => lexer.valueOf candidate isSingle start.line
      | none => lexer.valueAlone isSingle start.column
    return lexer.add start.column .value

/-! ## Nodes -/

def readName (lexer : Lexer) (read : Input → Option (Token × Input)) : Option Lexer := do
  let lexer := { lexer.noteCandidate with allowsName := false }
  let (token, input) ← read lexer.input
  return (lexer.add lexer.input.column token).moveTo input

def readAnchor (lexer : Lexer) (token : List Char → Token) : Option Lexer :=
  lexer.readName fun input => input.readAnchor.map fun (name, input) => (token name, input)

def readTag (lexer : Lexer) : Option Lexer :=
  lexer.readName fun input =>
    (input.readTag lexer.inFlow).map fun (tag, input) => (.tag tag, input)

def readBlockScalar (lexer : Lexer) (literal : Bool) : Option Lexer := do
  let lexer := lexer.noteCandidate.dropPrecaution
  let (text, input) ← readBlock literal lexer.indent lexer.input
  return { lexer.add lexer.input.column (.scalar .block text) with input, allowsName := true }

/-- Right after a quoted scalar a colon separates even without a gap after it. -/
def readQuotedScalar (lexer : Lexer) (quote : Char) : Option Lexer := do
  let lexer := { lexer.noteCandidate with allowsName := false }
  let (text, input) ← readQuoted lexer.inFlow lexer.indent quote lexer.input
  let column := lexer.input.column
  let lexer ← (lexer.moveTo input).skipAll
  return { lexer.add column (.scalar .quoted text) with adjacentIndex := lexer.input.index }

/-- After a plain scalar that took in its line end, a name may start. -/
def readPlainScalar (lexer : Lexer) : Option Lexer := do
  let lexer := { lexer.noteCandidate.dropPrecaution with allowsName := false }
  let (text, input) ← readPlain lexer.inFlow lexer.indent lexer.input
  return {
    lexer.add lexer.input.column (.scalar .plain text) with
    input, allowsName := input.isLeading }

/-- Whether a colon separates here. -/
def isSeparator (lexer : Lexer) (rest : List Char) : Bool :=
  atGap rest ||
    (lexer.inFlow && (startsFlow rest || lexer.input.index = lexer.adjacentIndex))

/-- The next token from its first character on. -/
def readToken (lexer : Lexer) (char : Char) (rest : List Char) : Option Lexer :=
  match char with
  | '[' => lexer.openFlow .flowSequenceStart
  | '\x7b' => lexer.openFlow .flowMappingStart
  | ']' => lexer.closeFlow .flowSequenceEnd
  | '\x7d' => lexer.closeFlow .flowMappingEnd
  | ',' => lexer.readFlowEntry
  | '*' => lexer.readAnchor .alias
  | '&' => lexer.readAnchor .anchor
  | '!' => lexer.readTag
  | '\'' | '"' => lexer.readQuotedScalar char
  | '%' | '@' | '\x60' => none
  | '-' => if atGap rest then lexer.readBlockEntry else lexer.readPlainScalar
  | '?' => if atGap rest then lexer.readKey else lexer.readPlainScalar
  | ':' => if lexer.isSeparator rest then lexer.readValue else lexer.readPlainScalar
  | '|' => if lexer.inFlow then lexer.readPlainScalar else lexer.readBlockScalar true
  | '>' => if lexer.inFlow then lexer.readPlainScalar else lexer.readBlockScalar false
  | _ => lexer.readPlainScalar

/-- Reads on from the start of a token, if it does not lie too far out. -/
def step (lexer : Lexer) (char : Char) (rest : List Char) : Option Lexer :=
  let isFirst := lexer.input.column = 0
  if isFirst && char = '%' then lexer.readDirective
  else if isFirst && atDocumentStart lexer.input.rest then lexer.readMarker .documentStart
  else if isFirst && atDocumentEnd lexer.input.rest then lexer.readDocumentEnd
  else if lexer.input.column < lexer.indent then none
  else lexer.readToken char rest

/-- The fuel is the length of the text. -/
def run : Nat → Lexer → Option (List Token)
  | 0, _ => none
  | fuel + 1, lexer => do
    let lexer ← (← lexer.skipAll).dropStale
    let lexer := lexer.closeBlocks lexer.input.column
    match lexer.input.rest with
    | [] =>
      let lexer ← lexer.finish
      return (lexer.tokens.map (·.2)).reverse
    | char :: rest => run fuel (← lexer.step char rest)

end Lexer

/-- The tokens of a text, which ends at its first null character. -/
def Token.ofText (text : String) : Option (List Token) :=
  let rest := text.toList.takeWhile (· ≠ '\x00')
  Lexer.run (rest.length + 1) { input := { rest } }

end EventStore.Yaml
