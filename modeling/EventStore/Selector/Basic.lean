import EventStore.Text.Quoted

/-! Selectors name a scope of events by stream, by category and by event type. Each part has
characters of its own that its literals must not hold, because the textual form cuts there. -/

namespace EventStore

/-- What a rejected literal was meant to be. -/
inductive LiteralRole
  | stream
  | category
  | event
  | base
  deriving DecidableEq, Repr

def LiteralRole.label : LiteralRole → String
  | .stream => "stream"
  | .category => "category"
  | .event => "event"
  | .base => "prefix"

/-- Why a text cannot be cut into the parts of a selector. -/
inductive SyntaxFault
  | missingStreamName
  | emptyCategory
  | unterminatedEvents
  | emptyEvent
  | strayInput
  deriving DecidableEq, Repr

def SyntaxFault.reason : SyntaxFault → String
  | .missingStreamName => "stream prefix without stream name"
  | .emptyCategory => "empty category"
  | .unterminatedEvents => "unterminated event list"
  | .emptyEvent => "empty event type"
  | .strayInput => "unexpected input, stream names need a '$' or '~' prefix"

inductive SelectorFault
  | empty
  | invalidSyntax (text : String) (fault : SyntaxFault)
  | invalidLiteral (kind : LiteralRole) (literal : String)
  | exclusiveAll
  | relativeWithoutStream
  deriving DecidableEq, Repr

def SelectorFault.message : SelectorFault → String
  | .empty => "Selector selects nothing"
  | .invalidSyntax text fault =>
    s!"Invalid selector syntax in {Text.quoted text}: {fault.reason}"
  | .invalidLiteral kind literal => s!"Invalid {kind.label} literal {Text.quoted literal}"
  | .exclusiveAll => "Wildcard selector cannot be combined with other components"
  | .relativeWithoutStream => "Relative selector requires a stream name"

/-- The character that ends a stream literal matching by its beginning. -/
def wildcard : Char := '*'

def isStreamReserved (char : Char) : Bool := ['$', '~', '.', '[', ']', ','].contains char

def isCategoryReserved (char : Char) : Bool := isStreamReserved char || char = wildcard

/-- Event types may hold points, since brackets delimit their list. -/
def isEventReserved (char : Char) : Bool := ['$', '~', '[', ']', ',', '*'].contains char

def LiteralRole.isReserved : LiteralRole → Char → Bool
  | .stream | .base => isStreamReserved
  | .category => isCategoryReserved
  | .event => isEventReserved

def LiteralRole.admits (kind : LiteralRole) (literal : String) : Bool :=
  !literal.isEmpty && !literal.toList.any kind.isReserved

def checkLiteral (kind : LiteralRole) (literal : String) : Except SelectorFault Unit :=
  if kind.admits literal then .ok () else .error (.invalidLiteral kind literal)

def checkCategory (category : String) : Except SelectorFault Unit :=
  checkLiteral .category category

def isOpenEnded (literal : String) : Bool := literal.toList.getLast? = some wildcard

/-- The literal without a wildcard at its end. -/
def stem (literal : String) : String :=
  if isOpenEnded literal then String.ofList literal.toList.dropLast else literal

/-- Checks the name of a stream that events are appended to, which is always a single one. -/
def checkStreamName (name : String) : Except SelectorFault Unit := do
  checkLiteral .stream name
  if isOpenEnded name then .error (.invalidLiteral .stream name) else .ok ()

/-- A scope of events. An empty part leaves its dimension open. -/
structure Selector where
  everything : Bool := false
  stream : String := ""
  relative : Bool := false
  categories : List String := []
  events : List String := []
  deriving DecidableEq, Repr, Inhabited

namespace Selector

/-- The selector that admits every event. -/
def all : Selector := { everything := true }

def blank : Selector := {}

def isBare (selector : Selector) : Bool :=
  selector.stream.isEmpty && !selector.relative && selector.categories.isEmpty &&
    selector.events.isEmpty

/-- Accepts the selectors that name a scope and hold only literals of their kind. Of several
faults the first part in the order stream, categories, events is blamed. -/
def check (selector : Selector) : Except SelectorFault Selector := do
  if selector.everything then
    if selector.isBare then .ok selector else .error .exclusiveAll
  else
    if selector.stream.isEmpty then
      if selector.relative then .error .relativeWithoutStream
      else if selector.categories.isEmpty && selector.events.isEmpty then .error .empty
    else checkLiteral .stream selector.stream
    selector.categories.forM (checkLiteral .category)
    selector.events.forM (checkLiteral .event)
    .ok selector

def setEverything (selector : Selector) (everything : Bool) : Except SelectorFault Selector :=
  { selector with everything }.check

def setStream (selector : Selector) (stream : String) : Except SelectorFault Selector :=
  { selector with stream }.check

def setRelative (selector : Selector) (relative : Bool) : Except SelectorFault Selector :=
  { selector with relative }.check

def setCategories (selector : Selector) (categories : List String) :
    Except SelectorFault Selector :=
  { selector with categories }.check

def setEvents (selector : Selector) (events : List String) : Except SelectorFault Selector :=
  { selector with events }.check

def onStream (stream : String) : Except SelectorFault Selector := blank.setStream stream

def inCategories (categories : List String) : Except SelectorFault Selector :=
  blank.setCategories categories

def onEvents (events : List String) : Except SelectorFault Selector := blank.setEvents events

end Selector
end EventStore
