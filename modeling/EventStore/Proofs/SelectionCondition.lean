import EventStore.Storage.Memory
import EventStore.Storage.Table
import EventStore.Proofs.LikePatterns
import EventStore.Proofs.SelectorValidity
import EventStore.Proofs.TypeDerivation

/-! The condition written for a selector selects the records that the selector admits. Under three
truth values a condition counts only where it is true, so connectives act like the plain ones. -/

namespace EventStore.Proofs.SelectionCondition
open Sql LikePatterns

variable {row : Column → Option String}

/-- A query without a condition selects every row. -/
def Selects (row : Column → Option String) (condition : Option Condition) : Prop :=
  ∀ demanded ∈ condition, demanded.selects row = true

@[simp] theorem selects_equals {column : Column} {value : String} :
    (Condition.equals column value).selects row = true ↔ row column = some value := by
  cases held : row column <;> simp [Condition.selects, Condition.eval, Condition.evalBy, held]

@[simp] theorem selects_matching {column : Column} {pattern : String} :
    (Condition.matching column pattern).selects row = true ↔
      ∃ text, row column = some text ∧ like pattern.toList text.toList = true := by
  cases held : row column <;> simp [Condition.selects, Condition.eval, Condition.evalBy, held]

@[simp] theorem selects_among {column : Column} {values : List String} :
    (Condition.among column values).selects row = true ↔
      ∃ text ∈ values, row column = some text := by
  cases held : row column <;> simp [Condition.selects, Condition.eval, Condition.evalBy, held]

theorem selects_iff {condition : Condition} :
    condition.selects row = true ↔ condition.eval row = some true := decide_eq_true_iff

theorem conjunction_eq_true {left right : Option Bool} :
    conjunction left right = some true ↔ left = some true ∧ right = some true := by
  rcases left with _ | _ | _ <;> rcases right with _ | _ | _ <;> simp [conjunction]

theorem disjunction_eq_true {left right : Option Bool} :
    disjunction left right = some true ↔ left = some true ∨ right = some true := by
  rcases left with _ | _ | _ <;> rcases right with _ | _ | _ <;> simp [disjunction]

@[simp] theorem selects_both {left right : Condition} :
    (Condition.both left right).selects row = true ↔
      left.selects row = true ∧ right.selects row = true := by
  simp only [selects_iff]
  exact conjunction_eq_true

@[simp] theorem selects_either {left right : Condition} :
    (Condition.either left right).selects row = true ↔
      left.selects row = true ∨ right.selects row = true := by
  simp only [selects_iff]
  exact disjunction_eq_true

private theorem selects_foldl_both {first : Condition} {others : List Condition} :
    (others.foldl Condition.both first).selects row = true ↔
      first.selects row = true ∧ ∀ other ∈ others, other.selects row = true := by
  induction others generalizing first with
  | nil => simp
  | cons next others ih => simp [ih, and_assoc]

private theorem selects_foldl_either {first : Condition} {others : List Condition} :
    (others.foldl Condition.either first).selects row = true ↔
      first.selects row = true ∨ ∃ other ∈ others, other.selects row = true := by
  induction others generalizing first with
  | nil => simp
  | cons next others ih => simp [ih, or_assoc]

theorem selects_allOf {conditions : List Condition} :
    Selects row (Condition.allOf conditions) ↔
      ∀ condition ∈ conditions, condition.selects row = true := by
  cases conditions with
  | nil => simp [Condition.allOf, Selects]
  | cons first others => simp [Condition.allOf, Selects, selects_foldl_both]

theorem selects_anyOf {conditions : List Condition} :
    Selects row (Condition.anyOf conditions) ↔
      conditions = [] ∨ ∃ condition ∈ conditions, condition.selects row = true := by
  cases conditions with
  | nil => simp [Condition.anyOf, Selects]
  | cons first others => simp [Condition.anyOf, Selects, selects_foldl_either]

/-- The stem of a stream that ends in the wildcard is what stands before it. -/
theorem selects_streamCondition {stream name : String} (held : row .eventStream = some name) :
    (streamCondition stream).selects row = true ↔
      if isOpenEnded stream then (stem stream).toList <+: name.toList else name = stem stream := by
  rw [streamCondition]
  split
  · simp [held, like_beginning]
  · simp [held]

/-- A category is looked for alone, at the beginning, at the end and between two separators, which
are all the places it can have among the packed ones. -/
theorem selects_categoryCondition {category : String} {packed : Option String}
    (held : row .eventCategories = packed) (allowed : LiteralRole.category.Allows category) :
    (categoryCondition category).selects row = true ↔ category ∈ Record.cutCategories packed := by
  cases packed with
  | none => simp [categoryCondition, held, Record.cutCategories]
  | some text =>
    have cut : category ∈ Record.cutCategories (some text) ↔
        category.toList ∈ Text.pieces ',' text.toList := by
      rw [Record.cutCategories, Text.splitText, List.mem_map]
      constructor
      · rintro ⟨piece, member, rfl⟩
        simpa using member
      · exact fun member => ⟨category.toList, member, by simp⟩
    rw [cut, Text.mem_pieces_iff ',' allowed.comma_not_mem, String.toList_inj, categoryCondition]
    simp only [selects_either, selects_equals, selects_matching, held, Option.some.injEq,
      exists_eq_left', String.toList_ofList, like_leading, like_trailing, like_between, or_assoc]

private theorem mem_foldl_distinct {found names : List String} {name : String} :
    name ∈ names.foldl
        (fun found name => if found.contains name then found else found ++ [name]) found ↔
      name ∈ found ∨ name ∈ names := by
  induction names generalizing found with
  | nil => simp
  | cons next names ih =>
    rw [List.foldl_cons, ih, List.mem_cons]
    split
    next known =>
      have member : next ∈ found := by simpa using known
      constructor
      · exact fun held => held.imp_right .inr
      · rintro (held | rfl | held)
        · exact .inl held
        · exact .inl member
        · exact .inr held
    next => simp [or_assoc]

/-- The names a condition lists are those that derive from one of its event types. -/
theorem mem_admittedNames {types : TypeHierarchy} {events : List String} {name : String} :
    name ∈ admittedNames types events ↔ ∃ event ∈ events, types.derives name event = true := by
  have general : ∀ found, name ∈ events.foldl (fun names event => (types.family event).foldl
      (fun names name => if names.contains name then names else names ++ [name]) names) found ↔
      name ∈ found ∨ ∃ event ∈ events, types.derives name event = true := by
    intro found
    induction events generalizing found with
    | nil => simp
    | cons event events ih =>
      rw [List.foldl_cons, ih, mem_foldl_distinct, TypeHierarchy.mem_family, or_assoc]
      simp
  simpa [admittedNames] using general []

theorem selects_categoriesCondition {categories : List String} {packed : Option String}
    (held : row .eventCategories = packed)
    (allowed : ∀ category ∈ categories, LiteralRole.category.Allows category) :
    Selects row (categoriesCondition categories) ↔
      categories = [] ∨ ∃ category ∈ categories, category ∈ Record.cutCategories packed := by
  rw [categoriesCondition, selects_anyOf, List.map_eq_nil_iff]
  apply or_congr_right
  constructor
  · rintro ⟨_, member, selected⟩
    obtain ⟨category, inside, rfl⟩ := List.mem_map.mp member
    exact ⟨category, inside, (selects_categoryCondition held (allowed category inside)).mp selected⟩
  · rintro ⟨category, inside, found⟩
    exact ⟨categoryCondition category, List.mem_map_of_mem inside,
      (selects_categoryCondition held (allowed category inside)).mpr found⟩

theorem selects_eventsCondition {types : TypeHierarchy} {events : List String} {name : String}
    (held : row .eventName = some name) :
    Selects row (eventsCondition types events) ↔
      events = [] ∨ ∃ event ∈ events, types.derives name event = true := by
  rw [eventsCondition]
  split
  next closed => simp [Selects, List.isEmpty_iff.mp closed]
  next closed =>
    rw [List.isEmpty_iff] at closed
    simp [Selects, closed, held, mem_admittedNames]

/-- A condition selects a row exactly if its selector admits what the row holds. -/
theorem selects_conditionFor {types : TypeHierarchy} {selector : Selector} {stream name : String}
    {packed : Option String} (valid : selector.Valid) (streamHeld : row .eventStream = some stream)
    (categoriesHeld : row .eventCategories = packed) (nameHeld : row .eventName = some name) :
    Selects row (conditionFor types selector) ↔
      selector.admits types stream (Record.cutCategories packed) name = true := by
  have streamPart : Selects row (if selector.stream.isEmpty then none
      else some (streamCondition selector.stream)) ↔ selector.admitsStream stream = true := by
    rw [Selector.admitsStream]
    by_cases named : selector.stream = ""
    · simp [Selects, named]
    · by_cases wild : isOpenEnded selector.stream = true <;>
        simp [Selects, named, wild, selects_streamCondition streamHeld]
  have categoriesPart : Selects row (categoriesCondition selector.categories) ↔
      selector.admitsCategories (Record.cutCategories packed) = true := by
    rw [selects_categoriesCondition categoriesHeld valid.categories]
    simp [Selector.admitsCategories]
  have eventsPart : Selects row (eventsCondition types selector.events) ↔
      selector.admitsType types name = true := by
    rw [selects_eventsCondition nameHeld]
    simp [Selector.admitsType]
  rw [Selector.admits, conditionFor]
  cases everything : selector.everything with
  | true => simp [Selects]
  | false =>
    rw [if_neg (by simp), selects_allOf]
    simp only [List.forall_mem_append, Option.mem_toList]
    change (Selects row _ ∧ Selects row _) ∧ Selects row _ ↔ _
    rw [streamPart, categoriesPart, eventsPart]
    simp [and_assoc]

/-- Reading through the relational table and through the list of records selects alike: whatever a
record holds, the condition of a selector is true of its row exactly if the selector admits it. -/
theorem selects_ofRecord_iff (types : TypeHierarchy) (selector : Selector) (record : Record)
    (valid : selector.Valid) :
    Selects (Row.ofRecord record).text (conditionFor types selector) ↔
      Memory.selects types selector record = true :=
  selects_conditionFor valid rfl rfl rfl

/-- Special characters of patterns stand in every literal here, and the type is a derived one. -/
theorem selects_ofRecord_iff_escaped :
    let types : TypeHierarchy := ⟨[⟨"Placed", ["Order"]⟩, ⟨"Order", []⟩], by simp [Layered]⟩
    let selector : Selector := { stream := "a_%/*", categories := ["b!"], events := ["Order"] }
    let record : Record :=
      { stream := "a_%/1", categories := some "x,b!", id := "e", name := "Placed", date := "" }
    selector.Valid ∧ Selects (Row.ofRecord record).text (conditionFor types selector) := by
  intro types selector record
  have checked : selector.check = .ok selector := by decide +kernel
  have valid := (Selector.check_eq_ok_iff.mp checked).2
  exact ⟨valid, (selects_ofRecord_iff types selector record valid).mpr (by decide +kernel)⟩

end EventStore.Proofs.SelectionCondition
