import EventStore.Selector.Absolute
import EventStore.Proofs.TypeDerivation

/-! What a selector admits, said without the way it is computed: a stream by name or by the
beginning of its name, a shared category, and a type with all that derives from it. -/

namespace EventStore.Selector

/-- A stream is named, or begins with everything that stands before a final wildcard. -/
def CoversStream (literal stream : String) : Prop :=
  (isOpenEnded literal = false ∧ stream = literal) ∨
    ∃ beginning, literal.toList = beginning ++ [wildcard] ∧ beginning <+: stream.toList

/-- An event that was appended with these values is in the scope of the selector. -/
def Admits (types : TypeHierarchy) (selector : Selector) (stream : String)
    (categories : List String) (type : String) : Prop :=
  selector.everything = true ∨
    (selector.stream = "" ∨ CoversStream selector.stream stream) ∧
      (selector.categories = [] ∨ ∃ category ∈ selector.categories, category ∈ categories) ∧
        (selector.events = [] ∨ ∃ event ∈ selector.events, types.Derives type event)

theorem toList_of_openEnded {literal : String} (wild : isOpenEnded literal = true) :
    literal.toList = (stem literal).toList ++ [wildcard] := by
  have last : literal.toList.getLast? = some wildcard := by simpa [isOpenEnded] using wild
  obtain ⟨beginning, shape⟩ := List.getLast?_eq_some_iff.mp last
  rw [stem, if_pos wild, String.toList_ofList, shape, List.dropLast_concat]

theorem stem_of_closed {literal : String} (closed : isOpenEnded literal = false) :
    stem literal = literal := by
  rw [stem, if_neg (by simp [closed])]

theorem coversStream_iff {literal stream : String} :
    CoversStream literal stream ↔
      (if isOpenEnded literal then (stem literal).toList.isPrefixOf stream.toList
        else stream = stem literal : Bool) = true := by
  by_cases wild : isOpenEnded literal = true
  · have ending := toList_of_openEnded wild
    rw [if_pos wild, List.isPrefixOf_iff_prefix]
    constructor
    · rintro (⟨plain, _⟩ | ⟨beginning, shape, inside⟩)
      · rw [plain] at wild
        cases wild
      · rw [ending] at shape
        rwa [(List.append_inj' shape rfl).1]
    · exact fun inside => .inr ⟨_, ending, inside⟩
  · have same : stem literal = literal := stem_of_closed (by simpa using wild)
    rw [if_neg wild, decide_eq_true_eq, same]
    constructor
    · rintro (⟨_, named⟩ | ⟨beginning, shape, _⟩)
      · exact named
      · exact absurd (by simp [isOpenEnded, shape]) wild
    · exact fun named => .inl ⟨by simpa using wild, named⟩

theorem admits_iff {types : TypeHierarchy} {selector : Selector} {stream type : String}
    {categories : List String} :
    selector.admits types stream categories type = true ↔
      selector.Admits types stream categories type := by
  rw [admits, admitsStream, admitsCategories, admitsType, Admits, coversStream_iff]
  simp only [Bool.or_eq_true, Bool.and_eq_true, List.isEmpty_iff, List.any_eq_true,
    List.contains_iff_mem, TypeHierarchy.derives_iff, String.isEmpty_iff, and_assoc]

instance (types : TypeHierarchy) (selector : Selector) (stream : String)
    (categories : List String) (type : String) :
    Decidable (selector.Admits types stream categories type) :=
  decidable_of_iff _ admits_iff

end EventStore.Selector
