import EventStore.Decimal.Real
import EventStore.Json.Value

/-! Settings as a tree, before anything is known about what they configure. -/

namespace EventStore

inductive Document
  | null
  | bool (value : Bool)
  | integer (value : Int)
  | real (value : Real)
  | text (value : String)
  | list (items : List Document)
  | mapping (entries : List (String × Document))
  deriving Repr, Inhabited

namespace Document

-- Equality of nested trees is not derived, so it is decided along the tree.
mutual
def same : Document → Document → Bool
  | .null, .null => true
  | .bool value, .bool other => value = other
  | .integer value, .integer other => value = other
  | .real value, .real other => value = other
  | .text value, .text other => value = other
  | .list items, .list others => sameItems items others
  | .mapping entries, .mapping others => sameEntries entries others
  | _, _ => false

def sameItems : List Document → List Document → Bool
  | [], [] => true
  | item :: items, other :: others => item.same other && sameItems items others
  | _, _ => false

def sameEntries : List (String × Document) → List (String × Document) → Bool
  | [], [] => true
  | (name, value) :: entries, (otherName, other) :: others =>
    name = otherName && value.same other && sameEntries entries others
  | _, _ => false
end

mutual
theorem same_iff (document other : Document) : document.same other = true ↔ document = other := by
  cases document with
  | list items => cases other <;> simp [same, sameItems_iff items]
  | mapping entries => cases other <;> simp [same, sameEntries_iff entries]
  | _ => cases other <;> simp [same]

theorem sameItems_iff (items others : List Document) :
    sameItems items others = true ↔ items = others := by
  cases items with
  | nil => cases others <;> simp [sameItems]
  | cons item items => cases others <;> simp [sameItems, same_iff item, sameItems_iff items]

theorem sameEntries_iff (entries others : List (String × Document)) :
    sameEntries entries others = true ↔ entries = others := by
  cases entries with
  | nil => cases others <;> simp [sameEntries]
  | cons entry entries =>
    cases others with
    | nil => simp [sameEntries]
    | cons other others =>
      simp [sameEntries, same_iff entry.2, sameEntries_iff entries, Prod.ext_iff]
end

instance : DecidableEq Document :=
  fun document other => decidable_of_iff _ (same_iff document other)

mutual
def ofJson : Json → Document
  | .null => .null
  | .bool value => .bool value
  | .number (.integer value) => .integer value
  | .number (.decimal negative magnitude) => .real (.finite negative magnitude)
  | .string value => .text value
  | .array items => .list (ofJsonItems items)
  | .object members => .mapping (ofJsonMembers members)

def ofJsonItems : List Json → List Document
  | [] => []
  | item :: items => ofJson item :: ofJsonItems items

def ofJsonMembers : List (String × Json) → List (String × Document)
  | [] => []
  | (name, value) :: members => (name, ofJson value) :: ofJsonMembers members
end

/-- The entries of a mapping; anything else has none. -/
def entries : Document → List (String × Document)
  | .mapping entries => entries
  | _ => []

/-- Replaces the value under a name, or adds it. -/
def setEntry (name : String) (value : Document) :
    List (String × Document) → List (String × Document)
  | [] => [(name, value)]
  | (other, kept) :: rest =>
    if other = name then (name, value) :: rest else (other, kept) :: setEntry name value rest

def fitsSignedWord (value : Int) : Bool :=
  -9223372036854775808 ≤ value && value ≤ 9223372036854775807

/-- The value of an environment variable: a truth value in any case, a number, or text. -/
def ofVariable (value : String) : Document :=
  match String.ofList (value.toList.map Char.toLower) with
  | "true" => .bool true
  | "false" => .bool false
  | _ =>
    match (Real.readInteger value.toList).filter fitsSignedWord, Real.read value.toList with
    | some number, _ => .integer number
    | none, some number => .real number
    | none, none => .text value

end Document
end EventStore
