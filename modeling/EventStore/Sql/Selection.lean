import EventStore.TypeHierarchy
import EventStore.Selector.Basic
import EventStore.Sql.Condition

/-! The condition that selects the records a selector admits. Categories lie in one column with
commas between them, so each is looked for alone, at the start, at the end and in the middle. -/

namespace EventStore.Sql

/-- Equality with the name of a stream, the beginning of one that ends in a wildcard. -/
def streamCondition (stream : String) : Condition :=
  let comparable := stem stream
  if isOpenEnded stream then
    .matching .eventStream (String.ofList (literalPattern comparable.toList ++ ['%']))
  else .equals .eventStream comparable

def categoryCondition (category : String) : Condition :=
  let escaped := literalPattern category.toList
  let matching pattern := Condition.matching .eventCategories (String.ofList pattern)
  .either
    (.either
      (.either (.equals .eventCategories category) (matching (escaped ++ [',', '%'])))
      (matching (['%', ','] ++ escaped)))
    (matching (['%', ','] ++ escaped ++ [',', '%']))

def categoriesCondition (categories : List String) : Option Condition :=
  Condition.anyOf (categories.map categoryCondition)

/-- The stored type names that some event types admit, each once, in the order they come up. -/
def admittedNames (types : TypeHierarchy) (events : List String) : List String :=
  events.foldl
    (fun names event =>
      (types.family event).foldl
        (fun names name => if names.contains name then names else names ++ [name]) names)
    []

def eventsCondition (types : TypeHierarchy) (events : List String) : Option Condition :=
  if events.isEmpty then none else some (.among .eventName (admittedNames types events))

/-- The condition for a selector; none is needed where it admits everything. -/
def conditionFor (types : TypeHierarchy) (selector : Selector) : Option Condition :=
  if selector.everything then none
  else
    let stream := if selector.stream.isEmpty then none else some (streamCondition selector.stream)
    Condition.allOf
      (stream.toList ++ (categoriesCondition selector.categories).toList ++
        (eventsCondition types selector.events).toList)

end EventStore.Sql
