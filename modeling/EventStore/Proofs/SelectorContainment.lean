import EventStore.Selector.Absolute
import EventStore.Storage.Memory
import EventStore.Proofs.RecordEncoding
import EventStore.Proofs.SelectorAdmission
import Mathlib.Data.Fintype.EquivFin
import Mathlib.Data.List.Infix

/-! One selector covers another when it admits all that the other admits. Each of the three
dimensions is compared by its literals alone; that this is enough is shown with the records that
tell two selectors apart wherever the comparison fails. -/

namespace EventStore

/-- What an append may leave behind: a single stream by name, and categories that come apart. -/
def Record.Appendable (record : Record) : Prop :=
  ∃ categories, Record.Acceptable record.stream categories ∧
    record.categories = Record.joinCategories categories

namespace Selector

/-- No two different categories are named, though one may be repeated. -/
def OneCategory (selector : Selector) : Prop :=
  ∀ first ∈ selector.categories, ∀ second ∈ selector.categories, first = second

def Contains (types : TypeHierarchy) (wide narrow : Selector) : Prop :=
  ∀ record : Record, record.Appendable → Memory.selects types narrow record = true →
    Memory.selects types wide record = true

section Soundness

variable {types : TypeHierarchy} {wide narrow : Selector}

theorem admitsStream_of_covers {stream : String} (covered : wide.coversStream narrow = true)
    (admitted : narrow.admitsStream stream = true) : wide.admitsStream stream = true := by
  by_cases free : wide.stream = ""
  · simp [admitsStream, free]
  by_cases unnamed : narrow.stream = ""
  · simp [coversStream, free, unnamed] at covered
  cases wild : isOpenEnded wide.stream with
  | false =>
    have same : wide.stream = narrow.stream := by
      simpa [coversStream, free, unnamed, wild] using covered
    rw [admitsStream, same]
    exact admitted
  | true =>
    have longer : (stem wide.stream).toList <+: (stem narrow.stream).toList := by
      simpa [coversStream, free, unnamed, wild] using covered
    have inside : (stem narrow.stream).toList <+: stream.toList := by
      cases narrowWild : isOpenEnded narrow.stream with
      | true => simpa [admitsStream, unnamed, narrowWild] using admitted
      | false =>
        have named : stream = stem narrow.stream := by
          simpa [admitsStream, unnamed, narrowWild] using admitted
        rw [named]
    simpa [admitsStream, free, wild] using longer.trans inside

/-- One shared category settles this dimension only where the narrow selector has no other one. -/
theorem admitsCategories_of_covers {categories : List String}
    (covered : wide.coversCategories narrow = true)
    (sided : narrow.OneCategory ∨ wide.categories = [] ∨
      ∀ category ∈ narrow.categories, category ∈ wide.categories)
    (admitted : narrow.admitsCategories categories = true) :
    wide.admitsCategories categories = true := by
  by_cases free : wide.categories = []
  · simp [admitsCategories, free]
  by_cases uncategorised : narrow.categories = []
  · simp [coversCategories, free, uncategorised] at covered
  obtain ⟨shared, inWide, inNarrow⟩ : ∃ category ∈ wide.categories, category ∈ narrow.categories := by
    simpa [coversCategories, free, uncategorised] using covered
  obtain ⟨carried, asked, present⟩ : ∃ category ∈ narrow.categories, category ∈ categories := by
    simpa [admitsCategories, uncategorised] using admitted
  have held : carried ∈ wide.categories := by
    rcases sided with single | none | all
    · exact single shared inNarrow carried asked ▸ inWide
    · exact absurd none free
    · exact all carried asked
  simpa [admitsCategories, free] using ⟨carried, held, present⟩

theorem coversEvents_iff : wide.coversEvents types narrow = true ↔
    wide.events = [] ∨ narrow.events ≠ [] ∧ ∀ candidate ∈ narrow.events,
      ∃ event ∈ wide.events, types.Derives candidate event := by
  by_cases free : wide.events = []
  · simp [coversEvents, free]
  by_cases untyped : narrow.events = []
  · simp [coversEvents, free, untyped]
  · simp [coversEvents, free, untyped, TypeHierarchy.derives_iff]

theorem admitsType_of_covers {type : String} (covered : wide.coversEvents types narrow = true)
    (admitted : narrow.admitsType types type = true) : wide.admitsType types type = true := by
  rcases coversEvents_iff.mp covered with free | ⟨typed, each⟩
  · simp [admitsType, free]
  obtain ⟨candidate, asked, derived⟩ : ∃ event ∈ narrow.events, types.derives type event = true := by
    simpa [admitsType, typed] using admitted
  obtain ⟨supervisor, inside, above⟩ := each candidate asked
  have chain : types.derives type supervisor = true :=
    TypeHierarchy.derives_iff.mpr ((TypeHierarchy.derives_iff.mp derived).trans above)
  have found := List.any_eq_true.mpr ⟨supervisor, inside, chain⟩
  rw [admitsType, found, Bool.or_true]

theorem admits_of_covers {stream type : String} {categories : List String} (valid : narrow.Valid)
    (covered : wide.covers types narrow = true)
    (sided : narrow.OneCategory ∨ wide.categories = [] ∨
      ∀ category ∈ narrow.categories, category ∈ wide.categories)
    (admitted : narrow.admits types stream categories type = true) :
    wide.admits types stream categories type = true := by
  rw [covers, Bool.or_eq_true, Bool.and_eq_true, Bool.and_eq_true] at covered
  rw [admits, Bool.or_eq_true, Bool.and_eq_true, Bool.and_eq_true]
  rcases covered with everything | ⟨⟨streams, shared⟩, events⟩
  · exact .inl everything
  refine .inr ?_
  have parts : (narrow.admitsStream stream = true ∧ narrow.admitsCategories categories = true) ∧
      narrow.admitsType types type = true := by
    rw [admits, Bool.or_eq_true, Bool.and_eq_true, Bool.and_eq_true] at admitted
    rcases admitted with everything | parts
    · -- A valid selector that admits everything has no closed part.
      rw [valid.alone everything]
      exact ⟨⟨rfl, rfl⟩, rfl⟩
    · exact parts
  exact ⟨⟨admitsStream_of_covers streams parts.1.1,
    admitsCategories_of_covers shared sided parts.1.2⟩, admitsType_of_covers events parts.2⟩

end Soundness

section Completeness

variable {types : TypeHierarchy} {wide narrow : Selector}

def streamUnder (literal : String) (char : Char) : String :=
  String.ofList ((stem literal).toList ++ [char])

theorem stem_subset (literal : String) : (stem literal).toList ⊆ literal.toList := by
  cases wild : isOpenEnded literal with
  | true =>
    rw [toList_of_openEnded wild]
    exact List.subset_append_left _ _
  | false => rw [stem_of_closed wild]; exact List.Subset.refl _

theorem checkStreamName_streamUnder {literal : String} {char : Char}
    (free : ∀ char ∈ literal.toList, isStreamReserved char = false)
    (unreserved : isStreamReserved char = false) (plain : char ≠ wildcard) :
    checkStreamName (streamUnder literal char) = .ok () := by
  rw [checkStreamName_eq_ok_iff]
  refine ⟨⟨by simp [streamUnder], ?_⟩, by simp [streamUnder, isOpenEnded, plain]⟩
  intro other member
  rw [streamUnder, String.toList_ofList] at member
  rcases List.mem_append.mp member with inside | last
  · exact free other (stem_subset literal inside)
  · rw [List.mem_singleton.mp last]
    exact unreserved

theorem single_or_loose (valid : narrow.Valid) :
    (narrow.stream ≠ "" ∧ isOpenEnded narrow.stream = false ∧
      checkStreamName narrow.stream = .ok () ∧ narrow.admitsStream narrow.stream = true) ∨
    ∀ char, isStreamReserved char = false → char ≠ wildcard →
      checkStreamName (streamUnder narrow.stream char) = .ok () ∧
        narrow.admitsStream (streamUnder narrow.stream char) = true := by
  by_cases unnamed : narrow.stream = ""
  · refine .inr fun char unreserved plain => ⟨?_, by simp [admitsStream, unnamed]⟩
    exact checkStreamName_streamUnder (by simp [unnamed]) unreserved plain
  cases wild : isOpenEnded narrow.stream with
  | true =>
    refine .inr fun char unreserved plain => ⟨?_, ?_⟩
    · exact checkStreamName_streamUnder (valid.stream unnamed).free unreserved plain
    · simp [admitsStream, wild, streamUnder]
  | false =>
    have named := checkStreamName_eq_ok_iff.mpr ⟨valid.stream unnamed, wild⟩
    exact .inl ⟨unnamed, rfl, named, by simp [admitsStream, wild, stem_of_closed wild]⟩

/-- Of two streams that differ in their last character only, a literal admits both just if it
admits all that they have in common. -/
theorem stem_prefix_of_admits (first second : Char) (different : first ≠ second)
    (closed : wide.stream ≠ "")
    (one : wide.admitsStream (streamUnder narrow.stream first) = true)
    (other : wide.admitsStream (streamUnder narrow.stream second) = true) :
    isOpenEnded wide.stream = true ∧
      (stem wide.stream).toList <+: (stem narrow.stream).toList := by
  cases wild : isOpenEnded wide.stream with
  | false =>
    have firstNamed : streamUnder narrow.stream first = stem wide.stream := by
      simpa [admitsStream, closed, wild] using one
    have secondNamed : streamUnder narrow.stream second = stem wide.stream := by
      simpa [admitsStream, closed, wild] using other
    have same : first = second := by
      simpa [streamUnder] using firstNamed.trans secondNamed.symm
    exact absurd same different
  | true =>
    refine ⟨rfl, ?_⟩
    have inFirst : (stem wide.stream).toList <+: (stem narrow.stream).toList ++ [first] := by
      simpa [admitsStream, closed, wild, streamUnder] using one
    have inSecond : (stem wide.stream).toList <+: (stem narrow.stream).toList ++ [second] := by
      simpa [admitsStream, closed, wild, streamUnder] using other
    rcases List.prefix_concat_iff.mp inFirst with whole | shorter
    · rw [whole] at inSecond
      have same : first = second := by
        simpa using inSecond.eq_of_length (by simp)
      exact absurd same different
    · exact shorter

/-- The streams that the narrow selector admits settle the comparison of the two literals. Only
a bare wildcard admits the streams of a selector that names none without covering it. -/
theorem coversStream_of_contains (valid : narrow.Valid)
    (contained : ∀ stream, checkStreamName stream = .ok () → narrow.admitsStream stream = true →
      wide.admitsStream stream = true)
    (named : ¬ (wide.stream = "*" ∧ narrow.stream = "")) : wide.coversStream narrow = true := by
  by_cases closed : wide.stream = ""
  · simp [coversStream, closed]
  rcases single_or_loose valid with ⟨some, plain, single, admits⟩ | streams
  · have admitted := contained narrow.stream single admits
    cases wild : isOpenEnded wide.stream with
    | true =>
      have inside : (stem wide.stream).toList <+: narrow.stream.toList := by
        simpa [admitsStream, closed, wild] using admitted
      simpa [coversStream, closed, some, wild, stem_of_closed plain] using inside
    | false =>
      have same : narrow.stream = wide.stream := by
        simpa [admitsStream, closed, wild, stem_of_closed wild] using admitted
      simp [coversStream, closed, wild, same]
  · have admitted (char : Char) (unreserved : isStreamReserved char = false)
        (plain : char ≠ wildcard) : wide.admitsStream (streamUnder narrow.stream char) = true :=
      contained _ (streams char unreserved plain).1 (streams char unreserved plain).2
    obtain ⟨wild, inside⟩ := stem_prefix_of_admits 'x' 'y' (by decide) closed
      (admitted 'x' (by decide) (by decide)) (admitted 'y' (by decide) (by decide))
    have some : narrow.stream ≠ "" := by
      intro unnamed
      apply named
      refine ⟨?_, unnamed⟩
      have empty : (stem narrow.stream).toList = [] := by rw [unnamed]; rfl
      rw [empty, List.prefix_nil] at inside
      have bare : wide.stream.toList = ['*'] := by rw [toList_of_openEnded wild, inside]; rfl
      exact String.toList_injective bare
    simpa [coversStream, closed, some, wild] using inside

theorem coversCategories_of_contains (valid : narrow.Valid)
    (contained : ∀ categories : List String,
      (∀ category ∈ categories, LiteralRole.category.Allows category) →
      narrow.admitsCategories categories = true → wide.admitsCategories categories = true) :
    wide.coversCategories narrow = true := by
  by_cases closed : wide.categories = []
  · simp [coversCategories, closed]
  cases asked : narrow.categories with
  | nil =>
    have admitted := contained [] (by simp) (by simp [admitsCategories, asked])
    simp [admitsCategories, closed] at admitted
  | cons first others =>
    have allowed : ∀ category ∈ [first], LiteralRole.category.Allows category := by
      intro category member
      apply valid.categories
      rw [asked, List.mem_singleton.mp member]
      exact List.mem_cons_self
    have admitted := contained [first] allowed (by simp [admitsCategories, asked])
    have shared : first ∈ wide.categories := by
      simpa [admitsCategories, closed] using admitted
    simpa [coversCategories, closed, asked] using ⟨first, shared, .inl rfl⟩

theorem coversEvents_of_contains
    (contained : ∀ type, narrow.admitsType types type = true → wide.admitsType types type = true) :
    wide.coversEvents types narrow = true := by
  by_cases closed : wide.events = []
  · simp [coversEvents, closed]
  by_cases untyped : narrow.events = []
  · -- A type that nobody declared derives from nothing that a selector could name instead.
    obtain ⟨type, fresh⟩ := Infinite.exists_notMem_finset (types.names ++ wide.events).toFinset
    rw [List.mem_toFinset, List.mem_append, not_or] at fresh
    have admitted := contained type (by simp [admitsType, untyped])
    obtain ⟨event, inside, derived⟩ : ∃ event ∈ wide.events, types.derives type event = true := by
      simpa [admitsType, closed] using admitted
    have same := (TypeHierarchy.derives_iff.mp derived).eq_of_not_declared fresh.1
    rw [same] at fresh
    exact absurd inside fresh.2
  · have each : ∀ candidate ∈ narrow.events, ∃ event ∈ wide.events,
        types.derives candidate event = true := by
      intro candidate asked
      have self : types.derives candidate candidate = true := TypeHierarchy.derives_iff.mpr .refl
      have admitted := contained candidate
        (by simpa [admitsType, untyped] using ⟨candidate, asked, self⟩)
      simpa [admitsType, closed] using admitted
    simpa [coversEvents, closed, untyped] using each

theorem exists_admitted (types : TypeHierarchy) (valid : narrow.Valid) :
    ∃ stream categories type, Record.Acceptable stream categories ∧
      narrow.admitsStream stream = true ∧ narrow.admitsCategories categories = true ∧
        narrow.admitsType types type = true := by
  obtain ⟨stream, single, streamAdmitted⟩ : ∃ stream, checkStreamName stream = .ok () ∧
      narrow.admitsStream stream = true := by
    rcases single_or_loose valid with ⟨_, _, single, admits⟩ | streams
    · exact ⟨narrow.stream, single, admits⟩
    · exact ⟨_, streams 'x' (by decide) (by decide)⟩
  have categoriesAdmitted : narrow.admitsCategories narrow.categories = true := by
    cases asked : narrow.categories <;> simp [admitsCategories, asked]
  obtain ⟨type, typeAdmitted⟩ : ∃ type, narrow.admitsType types type = true := by
    cases asked : narrow.events with
    | nil => exact ⟨"", by simp [admitsType, asked]⟩
    | cons first others =>
      have self : types.derives first first = true := TypeHierarchy.derives_iff.mpr .refl
      exact ⟨first, by simp [admitsType, asked, self]⟩
  exact ⟨stream, narrow.categories, type, ⟨single, valid.categories⟩, streamAdmitted,
    categoriesAdmitted, typeAdmitted⟩

theorem covers_of_contained (narrowValid : narrow.Valid)
    (contained : ∀ stream categories type, Record.Acceptable stream categories →
      narrow.admits types stream categories type = true →
        wide.admits types stream categories type = true)
    (named : ¬ (wide.stream = "*" ∧ narrow.stream = "")) : wide.covers types narrow = true := by
  rw [covers, Bool.or_eq_true, Bool.and_eq_true, Bool.and_eq_true]
  by_cases everything : wide.everything = true
  · exact .inl everything
  -- Each dimension is varied alone; the others are held at values that the narrow selector admits.
  have parts : ∀ stream categories type, Record.Acceptable stream categories →
      narrow.admitsStream stream = true → narrow.admitsCategories categories = true →
        narrow.admitsType types type = true → wide.admitsStream stream = true ∧
          wide.admitsCategories categories = true ∧ wide.admitsType types type = true := by
    intro stream categories type acceptable streams shared typed
    have admitted := contained stream categories type acceptable
      (by simp [admits, streams, shared, typed])
    simpa [admits, everything, and_assoc] using admitted
  obtain ⟨stream, categories, type, acceptable, streams, shared, typed⟩ :=
    exists_admitted types narrowValid
  refine .inr ⟨⟨?_, ?_⟩, ?_⟩
  · apply coversStream_of_contains narrowValid _ named
    intro other single admitted
    exact (parts other categories type ⟨single, acceptable.categories⟩ admitted shared typed).1
  · apply coversCategories_of_contains narrowValid
    intro others allowed admitted
    exact (parts stream others type ⟨acceptable.stream, allowed⟩ streams admitted typed).2.1
  · apply coversEvents_of_contains
    intro other admitted
    exact (parts stream categories other acceptable streams shared admitted).2.2

end Completeness

section Records

variable {types : TypeHierarchy} {wide narrow : Selector}

theorem contains_iff :
    Contains types wide narrow ↔ ∀ stream categories type, Record.Acceptable stream categories →
      narrow.admits types stream categories type = true →
        wide.admits types stream categories type = true := by
  constructor
  · intro contained stream categories type acceptable admitted
    let record := Record.prepared stream { type, id := "" } categories
    have carried : record.categoryList = categories := Record.categoryList_prepared _ acceptable
    have selected : Memory.selects types wide record = true := by
      apply contained record ⟨categories, acceptable, rfl⟩
      rw [Memory.selects, carried]
      exact admitted
    rw [Memory.selects, carried] at selected
    exact selected
  · rintro contained record ⟨categories, acceptable, packed⟩ selected
    have carried : record.categoryList = categories := by
      rw [Record.categoryList, packed, Record.cutCategories_joinCategories acceptable.categories]
    rw [Memory.selects, carried] at selected ⊢
    exact contained record.stream categories record.name acceptable selected

theorem not_covers_unnamed (valid : wide.Valid) (bare : wide.stream = "*")
    (unnamed : narrow.stream = "") : wide.covers types narrow = false := by
  have part : wide.everything = false := by
    cases everything : wide.everything with
    | false => rfl
    | true =>
      rw [valid.alone everything] at bare
      exact absurd bare (by decide)
  simp [covers, part, coversStream, bare, unnamed]

end Records

end Selector

namespace Proofs.SelectorContainment
open Selector

/-- Comparing two selectors by their literals decides whether one contains the other. A cover
contains what it covers, unless the narrow selector names several categories of which the wide
one lacks some. What is contained is covered, unless the wide selector is open to every stream by
a bare wildcard where the narrow one names no stream at all. -/
theorem covers_decides_containment (types : TypeHierarchy) (wide narrow : Selector)
    (wideValid : wide.Valid) (narrowValid : narrow.Valid) :
    (wide.covers types narrow = true →
      narrow.OneCategory ∨ wide.categories = [] ∨
        (∀ category ∈ narrow.categories, category ∈ wide.categories) →
      Contains types wide narrow) ∧
    (Contains types wide narrow →
      (wide.covers types narrow = true ↔ ¬ (wide.stream = "*" ∧ narrow.stream = ""))) := by
  rw [contains_iff]
  constructor
  · intro covered sided stream categories type _ admitted
    exact admits_of_covers narrowValid covered sided admitted
  · intro contained
    refine ⟨?_, covers_of_contained narrowValid contained⟩
    rintro covered ⟨bare, unnamed⟩
    rw [not_covers_unnamed wideValid bare unnamed] at covered
    cases covered

/-- Two scopes of one category in which names, beginnings and derived types meet, and the one pair
of scopes that the literals do not decide. -/
theorem covers_decides_containment_nested :
    let types : TypeHierarchy := ⟨[⟨"Placed", ["Order"]⟩, ⟨"Order", []⟩], by simp [Layered]⟩
    let wide : Selector := { stream := "a**", categories := ["x", "y"], events := ["Order"] }
    let narrow : Selector :=
      { stream := "a*b*", categories := ["y", "y"], events := ["Placed", "Order"] }
    let streams : Selector := { stream := "*" }
    let category : Selector := { categories := ["y"] }
    (wide.Valid ∧ narrow.Valid ∧ narrow.OneCategory ∧ wide.covers types narrow = true ∧
      Contains types wide narrow) ∧
    (streams.Valid ∧ category.Valid ∧ Contains types streams category ∧
      streams.covers types category = false) := by
  intro types wide narrow streams category
  have accepted {selector : Selector} (checked : selector.check = .ok selector) : selector.Valid :=
    (check_eq_ok_iff.mp checked).2
  have wideValid : wide.Valid := accepted (by decide +kernel)
  have narrowValid : narrow.Valid := accepted (by decide +kernel)
  have streamsValid : streams.Valid := accepted (by decide +kernel)
  have categoryValid : category.Valid := accepted (by decide +kernel)
  have covered : wide.covers types narrow = true := by decide +kernel
  have single : narrow.OneCategory := by simp [OneCategory, narrow]
  have contained : Contains types streams category := by
    intro record _ _
    have stemmed : stem "*" = "" := by decide +kernel
    have wild : isOpenEnded "*" = true := by decide +kernel
    simp [Memory.selects, admits, admitsStream, admitsCategories, admitsType, streams, stemmed, wild]
  have decided := (covers_decides_containment types streams category streamsValid categoryValid).2
    contained
  refine ⟨⟨wideValid, narrowValid, single, covered, ?_⟩, streamsValid, categoryValid, contained, ?_⟩
  · exact (covers_decides_containment types wide narrow wideValid narrowValid).1 covered (.inl single)
  · simpa [streams, category] using decided

end Proofs.SelectorContainment
end EventStore
