import EventStore.Selector.Basic
import EventStore.Text.Pieces

/-! The textual form of selectors: `*`, or a stream after `$` or `~`, categories after points and
event types in brackets, each part left out where it is open.

To be read, the text is cut at the first point or bracket after each part; literals are only
looked at once the whole text is cut, so a fault of the cut is reported first. -/

namespace EventStore.Selector

def writeStream (selector : Selector) : List Char :=
  if selector.stream.isEmpty then []
  else (if selector.relative then '~' else '$') :: selector.stream.toList

def writeCategories (categories : List String) : List Char :=
  categories.flatMap fun category => '.' :: category.toList

def writeEvents (events : List String) : List Char :=
  if events.isEmpty then []
  else '[' :: Text.joined ',' (events.map String.toList) ++ [']']

def write (selector : Selector) : List Char :=
  if selector.everything then [wildcard]
  else selector.writeStream ++ writeCategories selector.categories ++ writeEvents selector.events

def toText (selector : Selector) : String := String.ofList selector.write

/-- Ends a stream name or a category. -/
def endsPart (char : Char) : Bool := char = '.' || char = '['

def takePart (text : List Char) : List Char × List Char :=
  (text.takeWhile fun char => !endsPart char, text.dropWhile fun char => !endsPart char)

/-- The stream name and whether it is relative; no name where none is marked. -/
def cutStream : List Char → Except SyntaxFault ((String × Bool) × List Char)
  | [] => .ok (("", false), [])
  | mark :: rest =>
    if mark = '$' ∨ mark = '~' then
      let (name, rest) := takePart rest
      if name.isEmpty then .error .missingStreamName
      else .ok ((String.ofList name, mark = '~'), rest)
    else .ok (("", false), mark :: rest)

def cutCategories (text : List Char) : Except SyntaxFault (List String × List Char) :=
  match text with
  | '.' :: rest =>
    let category := rest.takeWhile fun char => !endsPart char
    if category.isEmpty then .error .emptyCategory
    else do
      let (categories, rest) ← cutCategories (rest.dropWhile fun char => !endsPart char)
      return (String.ofList category :: categories, rest)
  | _ => .ok ([], text)
termination_by text.length
decreasing_by
  have shorter := (List.dropWhile_suffix (fun char => !endsPart char) (l := rest)).length_le
  simp only [List.length_cons]
  omega

/-- The bracketed list has to close the text. -/
def cutEvents : List Char → Except SyntaxFault (List String)
  | [] => .ok []
  | '[' :: rest =>
    if rest.getLast? = some ']' then
      let events := Text.pieces ',' rest.dropLast
      if events.any List.isEmpty then .error .emptyEvent else .ok (events.map String.ofList)
    else .error .unterminatedEvents
  | _ => .error .strayInput

/-- The parts of a text that is neither empty nor starts with the wildcard. -/
def cut (text : List Char) : Except SyntaxFault Selector := do
  let ((stream, relative), text) ← cutStream text
  let (categories, text) ← cutCategories text
  let events ← cutEvents text
  return { stream, relative, categories, events }

def parse (text : String) : Except SelectorFault Selector :=
  match text.toList with
  | [] => .error .empty
  | first :: rest =>
    if first = wildcard then if rest.isEmpty then .ok all else .error .exclusiveAll
    else
      match cut (first :: rest) with
      | .error fault => .error (.invalidSyntax text fault)
      | .ok selector => selector.check

end EventStore.Selector
