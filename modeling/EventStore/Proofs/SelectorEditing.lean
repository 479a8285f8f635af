import EventStore.Selector.Absolute
import EventStore.Proofs.SelectorText

/-! The selectors that callers come to hold. Whatever calls they make, one after the other, every
call checks what it hands out, so they never hold anything but valid selectors; and three calls on
top of the first one are enough for any of these. -/

namespace EventStore.Selector
open Proofs.Outcomes Proofs.SelectorText

inductive Origin
  | everything
  | stream (name : String)
  | categories (names : List String)
  | events (names : List String)
  | text (written : String)

def Origin.build : Origin → Except SelectorFault Selector
  | .everything => .ok all
  | .stream name => onStream name
  | .categories names => inCategories names
  | .events names => onEvents names
  | .text written => parse written

inductive Setting
  | everything (value : Bool)
  | stream (name : String)
  | relative (value : Bool)
  | categories (names : List String)
  | events (names : List String)

namespace Setting

def apply : Setting → Selector → Except SelectorFault Selector
  | everything value, selector => selector.setEverything value
  | stream name, selector => selector.setStream name
  | relative value, selector => selector.setRelative value
  | categories names, selector => selector.setCategories names
  | events names, selector => selector.setEvents names

/-- The fields with the new value among them, whether they go together or not. -/
def replace : Setting → Selector → Selector
  | everything value, selector => { selector with everything := value }
  | stream name, selector => { selector with stream := name }
  | relative value, selector => { selector with relative := value }
  | categories names, selector => { selector with categories := names }
  | events names, selector => { selector with events := names }

theorem apply_eq_check (setting : Setting) (selector : Selector) :
    setting.apply selector = (setting.replace selector).check := by
  cases setting <;> rfl

theorem apply_eq_ok_iff {setting : Setting} {selector changed : Selector} :
    setting.apply selector = .ok changed ↔ changed = setting.replace selector ∧ changed.Valid := by
  rw [apply_eq_check, check_eq_ok_iff]
  constructor
  · rintro ⟨rfl, valid⟩
    exact ⟨rfl, valid⟩
  · rintro ⟨rfl, valid⟩
    exact ⟨rfl, valid⟩

end Setting

inductive Edit
  | set (setting : Setting)
  | resolve (path : String)

def Edit.apply : Edit → Selector → Except SelectorFault Selector
  | .set setting, selector => setting.apply selector
  | .resolve path, selector => selector.resolve path

def edited (selector : Selector) (edit : Edit) : Selector :=
  match edit.apply selector with
  | .ok changed => changed
  | .error _ => selector

/-- Some sequence of calls ends with the selector. -/
def Obtained (selector : Selector) : Prop :=
  ∃ (origin : Origin) (start : Selector) (edits : List Edit),
    origin.build = .ok start ∧ edits.foldl edited start = selector

/-- Some sequence of calls that neither reads a text nor resolves a path ends with the selector. -/
def Assembled (selector : Selector) : Prop :=
  ∃ (origin : Origin) (start : Selector) (settings : List Setting),
    (∀ written, origin ≠ .text written) ∧ origin.build = .ok start ∧
      (settings.map Edit.set).foldl edited start = selector

variable {selector start changed : Selector}

theorem Assembled.obtained (assembled : Assembled selector) : Obtained selector := by
  obtain ⟨origin, start, settings, _, built, reached⟩ := assembled
  exact ⟨origin, start, settings.map .set, built, reached⟩

theorem Origin.valid {origin : Origin} (built : origin.build = .ok start) : start.Valid := by
  cases origin with
  | everything =>
    cases built
    exact valid_all
  | stream name =>
    have applied : (Setting.stream name).apply blank = .ok start := built
    exact (Setting.apply_eq_ok_iff.mp applied).2
  | categories names =>
    have applied : (Setting.categories names).apply blank = .ok start := built
    exact (Setting.apply_eq_ok_iff.mp applied).2
  | events names =>
    have applied : (Setting.events names).apply blank = .ok start := built
    exact (Setting.apply_eq_ok_iff.mp applied).2
  | text written => exact (toText_of_parse built).2

theorem Valid.resolve {path : String} (valid : selector.Valid)
    (resolved : selector.resolve path = .ok changed) : changed.Valid := by
  rw [Selector.resolve] at resolved
  split at resolved
  · obtain ⟨rfl, checked⟩ := check_eq_ok_iff.mp (then_eq_ok_iff.mp resolved).2
    exact checked
  · cases resolved
    exact valid

theorem Valid.edited (valid : selector.Valid) (edit : Edit) : (selector.edited edit).Valid := by
  rw [Selector.edited]
  split
  next changed applied =>
    cases edit with
    | set setting => exact (Setting.apply_eq_ok_iff.mp applied).2
    | resolve path => exact valid.resolve applied
  next => exact valid

theorem Valid.foldl_edited (valid : start.Valid) (edits : List Edit) :
    (edits.foldl Selector.edited start).Valid := by
  induction edits generalizing start with
  | nil => exact valid
  | cons edit edits ih => exact ih (valid.edited edit)

theorem edited_set {setting : Setting} (valid : (setting.replace selector).Valid) :
    selector.edited (.set setting) = setting.replace selector := by
  have applied : setting.apply selector = .ok (setting.replace selector) :=
    Setting.apply_eq_ok_iff.mpr ⟨rfl, valid⟩
  rw [edited, Edit.apply, applied]

/-- Less of a valid selector is valid as long as some part of it is left. -/
theorem Valid.of_parts {part : Selector} (valid : selector.Valid)
    (everything : part.everything = false)
    (stream : part.stream = selector.stream)
    (relative : part.relative = true → selector.relative = true)
    (categories : part.categories ⊆ selector.categories) (events : part.events ⊆ selector.events)
    (narrowed : part.stream ≠ "" ∨ part.categories ≠ [] ∨ part.events ≠ []) : part.Valid where
  alone impossible := by
    rw [everything] at impossible
    cases impossible
  narrowed _ := narrowed
  marked marked := stream ▸ valid.marked (relative marked)
  stream := stream ▸ valid.stream
  categories category member := valid.categories category (categories member)
  events event member := valid.events event (events member)

theorem Origin.assembled (origin : Origin) (unread : ∀ written, origin ≠ .text written)
    (built : origin.build = .ok start) : Assembled start :=
  ⟨origin, start, [], unread, built, rfl⟩

theorem Assembled.set (assembled : Assembled selector) (setting : Setting)
    (valid : (setting.replace selector).Valid) : Assembled (setting.replace selector) := by
  obtain ⟨origin, start, settings, unread, built, reached⟩ := assembled
  refine ⟨origin, start, settings ++ [setting], unread, built, ?_⟩
  rw [List.map_append, List.foldl_append, reached]
  exact edited_set valid

theorem assembled_of_unnamed (valid : selector.Valid) (limited : selector.everything = false)
    (unnamed : selector.stream = "") : Assembled selector := by
  have absolute : selector.relative = false := by simpa [unnamed] using valid.marked
  by_cases uncategorised : selector.categories = []
  · have typed : selector.events ≠ [] := by
      simpa [unnamed, uncategorised] using valid.narrowed limited
    have whole : selector = (Setting.events selector.events).replace blank := by
      cases selector
      simp_all [Setting.replace, blank]
    exact Origin.assembled (.events selector.events) nofun
      (Setting.apply_eq_ok_iff.mpr ⟨whole, valid⟩)
  · let start := (Setting.categories selector.categories).replace blank
    have startValid : start.Valid := valid.of_parts rfl unnamed.symm nofun
      (List.Subset.refl _) (List.nil_subset _) (.inr (.inl uncategorised))
    have assembled : Assembled start := Origin.assembled (.categories selector.categories) nofun
      (Setting.apply_eq_ok_iff.mpr ⟨rfl, startValid⟩)
    have whole : (Setting.events selector.events).replace start = selector := by
      cases selector
      simp_all [Setting.replace, blank, start]
    rw [← whole]
    exact assembled.set _ (whole ▸ valid)

theorem assembled_of_named (valid : selector.Valid) (limited : selector.everything = false)
    (named : selector.stream ≠ "") : Assembled selector := by
  let start := (Setting.stream selector.stream).replace blank
  let marked := (Setting.relative selector.relative).replace start
  let shared := (Setting.categories selector.categories).replace marked
  have startValid : start.Valid := valid.of_parts rfl rfl nofun
    (List.nil_subset _) (List.nil_subset _) (.inl named)
  have markedValid : marked.Valid := valid.of_parts rfl rfl id
    (List.nil_subset _) (List.nil_subset _) (.inl named)
  have sharedValid : shared.Valid := valid.of_parts rfl rfl id
    (List.Subset.refl _) (List.nil_subset _) (.inl named)
  have assembled : Assembled start := Origin.assembled (.stream selector.stream) nofun
    (Setting.apply_eq_ok_iff.mpr ⟨rfl, startValid⟩)
  have whole : (Setting.events selector.events).replace shared = selector := by
    cases selector
    simp_all [Setting.replace, blank, start, marked, shared]
  rw [← whole]
  exact ((assembled.set _ markedValid).set _ sharedValid).set _ (whole ▸ valid)

/-- A constructor and the setters lead to every valid selector, one part after the other. -/
theorem assembled_of_valid (valid : selector.Valid) : Assembled selector := by
  cases limited : selector.everything with
  | true =>
    rw [valid.alone limited]
    exact Origin.assembled .everything nofun rfl
  | false =>
    by_cases named : selector.stream = ""
    · exact assembled_of_unnamed valid limited named
    · exact assembled_of_named valid limited named

end EventStore.Selector

namespace EventStore.Proofs.SelectorEditing
open Selector

/-- The selectors that calls lead to are the valid ones, which the last part says field by field. A
setter succeeds exactly if the fields with the new value in place are valid, and these are what it
gives. No text has to be read to come to a valid selector: the constructors and setters do. -/
theorem calls_give_exactly_valid_selectors :
    (∀ selector : Selector, Obtained selector ↔ selector.Valid) ∧
    (∀ (setting : Setting) (selector changed : Selector), setting.apply selector = .ok changed ↔
      changed = setting.replace selector ∧ changed.Valid) ∧
    (∀ selector : Selector, selector.Valid → Assembled selector) ∧
    ∀ selector : Selector, selector.Valid ↔
      (selector.everything = true ∧ selector.stream = "" ∧ selector.relative = false ∧
        selector.categories = [] ∧ selector.events = []) ∨
      (selector.everything = false ∧
        (selector.stream ≠ "" ∨ selector.categories ≠ [] ∨ selector.events ≠ []) ∧
        (selector.relative = true → selector.stream ≠ "") ∧
        (∀ char ∈ selector.stream.toList, char ∉ ['$', '~', '.', '[', ']', ',']) ∧
        (∀ category ∈ selector.categories, category ≠ "" ∧
          ∀ char ∈ category.toList, char ∉ ['$', '~', '.', '[', ']', ',', '*']) ∧
        ∀ event ∈ selector.events, event ≠ "" ∧
          ∀ char ∈ event.toList, char ∉ ['$', '~', '[', ']', ',', '*']) := by
  refine ⟨?_, fun setting selector changed => Setting.apply_eq_ok_iff,
    fun selector => assembled_of_valid, fun selector => valid_iff⟩
  intro selector
  constructor
  · rintro ⟨origin, start, edits, built, rfl⟩
    exact (Origin.valid built).foldl_edited edits
  · exact fun valid => (assembled_of_valid valid).obtained

/-- Four of the calls are refused: one before there is a stream, one that would take it away again,
one for a character, and the one that asks for everything. -/
theorem calls_give_exactly_valid_selectors_refused :
    let edits : List Edit :=
      [.set (.relative true), .set (.stream "orders/*"), .set (.relative true), .set (.stream ""),
        .set (.categories ["paid*"]), .set (.everything true), .resolve "shop//"]
    let selector : Selector := { stream := "shop/orders/*", events := ["Placed"] }
    edits.foldl edited { events := ["Placed"] } = selector ∧ selector.Valid ∧
      Assembled selector := by
  intro edits selector
  obtain ⟨obtained, _, assembled, _⟩ := calls_give_exactly_valid_selectors
  have reached : edits.foldl edited { events := ["Placed"] } = selector := by decide +kernel
  have valid := (obtained selector).mp
    ⟨.events ["Placed"], { events := ["Placed"] }, edits, by decide +kernel, reached⟩
  exact ⟨reached, valid, assembled selector valid⟩

end EventStore.Proofs.SelectorEditing
