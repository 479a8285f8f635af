import EventStore.Selector.Basic
import EventStore.TypeHierarchy

/-! What selectors stand for once they are absolute. Relative ones are resolved below a base path
before anything is read through them. A selector admits an event by the stream it was appended to,
the categories it carries and its type, and its scope may cover that of another selector: open
dimensions cover everything, and a closed one never covers an open one. -/

namespace EventStore.Selector

def trimSlashes (path : List Char) : List Char :=
  (path.reverse.dropWhile (· = '/')).reverse

/-- A path of slashes alone leaves the stream where it is. -/
def below (path stream : String) : String :=
  match trimSlashes path.toList with
  | [] => stream
  | trimmed => String.ofList (trimmed ++ '/' :: stream.toList)

def resolve (selector : Selector) (path : String) : Except SelectorFault Selector :=
  if selector.relative then do
    checkLiteral .base path
    { selector with
      everything := false, stream := below path selector.stream, relative := false }.check
  else .ok selector

def admitsStream (selector : Selector) (stream : String) : Bool :=
  selector.stream.isEmpty ||
    if isOpenEnded selector.stream then
      (stem selector.stream).toList.isPrefixOf stream.toList
    else stream = stem selector.stream

def admitsCategories (selector : Selector) (categories : List String) : Bool :=
  selector.categories.isEmpty || selector.categories.any categories.contains

def admitsType (types : TypeHierarchy) (selector : Selector) (type : String) : Bool :=
  selector.events.isEmpty || selector.events.any (types.derives type)

def admits (types : TypeHierarchy) (selector : Selector) (stream : String)
    (categories : List String) (type : String) : Bool :=
  selector.everything ||
    (selector.admitsStream stream && selector.admitsCategories categories &&
      selector.admitsType types type)

def coversStream (selector other : Selector) : Bool :=
  if selector.stream.isEmpty then true
  else if other.stream.isEmpty then false
  else if isOpenEnded selector.stream then
    (stem selector.stream).toList.isPrefixOf (stem other.stream).toList
  else selector.stream = other.stream

/-- One shared category is enough. -/
def coversCategories (selector other : Selector) : Bool :=
  if selector.categories.isEmpty then true
  else if other.categories.isEmpty then false
  else selector.categories.any other.categories.contains

/-- Every event type asked for has to derive from one that is covered. -/
def coversEvents (types : TypeHierarchy) (selector other : Selector) : Bool :=
  if selector.events.isEmpty then true
  else if other.events.isEmpty then false
  else other.events.all fun candidate => selector.events.any (types.derives candidate)

def covers (types : TypeHierarchy) (selector other : Selector) : Bool :=
  selector.everything ||
    (selector.coversStream other && selector.coversCategories other &&
      selector.coversEvents types other)

end EventStore.Selector
