import EventStore.Proofs.SelectorContainment

/-! Covering as an order of scopes. Each dimension is compared in its own way, by beginnings, by a
shared member and by derivation; chains go through a selector only if all of its categories are
one, because a shared category does not say which. -/

namespace EventStore.Selector

variable {types : TypeHierarchy} {wide middle narrow : Selector}

theorem coversStream_iff_stem : wide.coversStream narrow = true ↔
    wide.stream = "" ∨ narrow.stream ≠ "" ∧
      if isOpenEnded wide.stream then (stem wide.stream).toList <+: (stem narrow.stream).toList
      else wide.stream = narrow.stream := by
  by_cases free : wide.stream = ""
  · simp [coversStream, free]
  by_cases unnamed : narrow.stream = ""
  · simp [coversStream, free, unnamed]
  · cases wild : isOpenEnded wide.stream <;> simp [coversStream, free, unnamed, wild]

theorem coversCategories_iff : wide.coversCategories narrow = true ↔
    wide.categories = [] ∨ ∃ shared ∈ wide.categories, shared ∈ narrow.categories := by
  by_cases free : wide.categories = []
  · simp [coversCategories, free]
  cases asked : narrow.categories with
  | nil => simp [coversCategories, free, asked]
  | cons first others => simp [coversCategories, free, asked]

theorem coversStream_refl (selector : Selector) : selector.coversStream selector = true := by
  apply coversStream_iff_stem.mpr
  by_cases free : selector.stream = ""
  · exact .inl free
  · refine .inr ⟨free, ?_⟩
    split
    · exact List.prefix_refl _
    · rfl

theorem coversCategories_refl (selector : Selector) :
    selector.coversCategories selector = true := by
  apply coversCategories_iff.mpr
  cases selector.categories with
  | nil => exact .inl rfl
  | cons first others => exact .inr ⟨first, List.mem_cons_self, List.mem_cons_self⟩

theorem coversEvents_refl (types : TypeHierarchy) (selector : Selector) :
    selector.coversEvents types selector = true := by
  apply coversEvents_iff.mpr
  by_cases free : selector.events = []
  · exact .inl free
  · exact .inr ⟨free, fun event member => ⟨event, member, .refl⟩⟩

theorem coversStream_trans (first : wide.coversStream middle = true)
    (second : middle.coversStream narrow = true) : wide.coversStream narrow = true := by
  rcases coversStream_iff_stem.mp first with free | ⟨named, above⟩
  · exact coversStream_iff_stem.mpr (.inl free)
  rcases coversStream_iff_stem.mp second with free | ⟨narrowNamed, below⟩
  · exact absurd free named
  apply coversStream_iff_stem.mpr
  refine .inr ⟨narrowNamed, ?_⟩
  split at above
  next wild =>
    rw [if_pos wild]
    split at below
    · exact above.trans below
    · exact below ▸ above
  next closed =>
    rw [above] at closed
    rw [if_neg closed] at below
    rw [above, if_neg closed]
    exact below

/-- The category shared with the one and the category shared with the other are the same here. -/
theorem coversCategories_trans (single : middle.OneCategory)
    (first : wide.coversCategories middle = true)
    (second : middle.coversCategories narrow = true) : wide.coversCategories narrow = true := by
  rcases coversCategories_iff.mp first with free | ⟨shared, inWide, inMiddle⟩
  · exact coversCategories_iff.mpr (.inl free)
  rcases coversCategories_iff.mp second with free | ⟨other, asked, inNarrow⟩
  · rw [free] at inMiddle
    cases inMiddle
  apply coversCategories_iff.mpr
  exact .inr ⟨shared, inWide, single other asked shared inMiddle ▸ inNarrow⟩

theorem coversEvents_trans (first : wide.coversEvents types middle = true)
    (second : middle.coversEvents types narrow = true) :
    wide.coversEvents types narrow = true := by
  rcases coversEvents_iff.mp first with free | ⟨typed, above⟩
  · exact coversEvents_iff.mpr (.inl free)
  rcases coversEvents_iff.mp second with free | ⟨narrowTyped, below⟩
  · exact absurd free typed
  apply coversEvents_iff.mpr
  refine .inr ⟨narrowTyped, ?_⟩
  intro candidate asked
  obtain ⟨event, inMiddle, derived⟩ := below candidate asked
  obtain ⟨supertype, inWide, derivedAbove⟩ := above event inMiddle
  exact ⟨supertype, inWide, derived.trans derivedAbove⟩

theorem covers_refl (types : TypeHierarchy) (selector : Selector) :
    selector.covers types selector = true := by
  rw [covers, coversStream_refl, coversCategories_refl, coversEvents_refl]
  simp

/-- A valid selector has a closed dimension, and a closed dimension never covers an open one. -/
theorem covers_all_iff (valid : wide.Valid) : wide.covers types all = true ↔ wide = all := by
  constructor
  · intro covered
    cases everything : wide.everything with
    | true => exact valid.alone everything
    | false =>
      simp only [covers, everything, Bool.false_or, Bool.and_eq_true] at covered
      obtain ⟨⟨streams, shared⟩, events⟩ := covered
      rcases valid.narrowed everything with named | categorised | typed
      · simp [coversStream, named, all] at streams
      · simp [coversCategories, categorised, all] at shared
      · simp [coversEvents, typed, all] at events
  · rintro rfl
    rfl

theorem covers_trans (wideValid : wide.Valid) (middleValid : middle.Valid)
    (single : middle.OneCategory) (first : wide.covers types middle = true)
    (second : middle.covers types narrow = true) : wide.covers types narrow = true := by
  cases everything : middle.everything with
  | true =>
    rw [middleValid.alone everything] at first
    rw [(covers_all_iff wideValid).mp first]
    rfl
  | false =>
    rw [covers, Bool.or_eq_true] at first
    rcases first with whole | above
    · rw [covers, whole, Bool.true_or]
    · simp only [Bool.and_eq_true] at above
      simp only [covers, everything, Bool.false_or, Bool.and_eq_true] at second
      rw [covers, coversStream_trans above.1.1 second.1.1,
        coversCategories_trans single above.1.2 second.1.2,
        coversEvents_trans above.2 second.2]
      simp

end EventStore.Selector

namespace EventStore.Proofs.SelectorOrder
open Selector

/-- Every selector covers itself, and the selector of everything covers every selector and is
covered by no other. What covers a selector of one category covers all that this one covers. -/
theorem covers_orders_through_one_category (types : TypeHierarchy)
    (wide middle narrow : Selector) (wideValid : wide.Valid) (middleValid : middle.Valid) :
    wide.covers types wide = true ∧
    all.covers types wide = true ∧
    (wide.covers types all = true ↔ wide = all) ∧
    (wide.covers types middle = true → middle.covers types narrow = true → middle.OneCategory →
      wide.covers types narrow = true) := by
  refine ⟨covers_refl types wide, rfl, covers_all_iff wideValid, ?_⟩
  intro first second single
  exact covers_trans wideValid middleValid single first second

/-- A chain through one category named twice, and one that breaks where the category shared with
the wide selector is another than the one shared with the narrow selector. -/
theorem covers_orders_through_one_category_repeated :
    let types : TypeHierarchy :=
      ⟨[⟨"Placed", ["Order"]⟩, ⟨"Order", ["Sale"]⟩, ⟨"Sale", []⟩], by simp [Layered]⟩
    let wide : Selector := { stream := "a*", categories := ["x", "y"], events := ["Sale"] }
    let middle : Selector := { stream := "a/*", categories := ["y", "y"], events := ["Order"] }
    let narrow : Selector := { stream := "a/*b", categories := ["z", "y"], events := ["Placed"] }
    let split : Selector := { stream := "a/*", categories := ["y", "z"], events := ["Order"] }
    let apart : Selector := { stream := "a/*b", categories := ["z"], events := ["Placed"] }
    (wide.Valid ∧ middle.Valid ∧ middle.OneCategory ∧ wide.covers types narrow = true) ∧
      wide.covers types split = true ∧ split.covers types apart = true ∧
        wide.covers types apart = false := by
  intro types wide middle narrow split apart
  have wideChecked : wide.check = .ok wide := by decide +kernel
  have middleChecked : middle.check = .ok middle := by decide +kernel
  have wideValid := (check_eq_ok_iff.mp wideChecked).2
  have middleValid := (check_eq_ok_iff.mp middleChecked).2
  have single : middle.OneCategory := by simp [OneCategory, middle]
  obtain ⟨_, _, _, chained⟩ :=
    covers_orders_through_one_category types wide middle narrow wideValid middleValid
  refine ⟨⟨wideValid, middleValid, single, ?_⟩, by decide +kernel, by decide +kernel,
    by decide +kernel⟩
  exact chained (by decide +kernel) (by decide +kernel) single

end EventStore.Proofs.SelectorOrder
