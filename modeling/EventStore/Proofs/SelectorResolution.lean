import EventStore.Selector.Absolute
import EventStore.Proofs.SelectorContainment
import Mathlib.Data.List.DropRight

/-! Resolving below a path puts the same beginning before every relative stream. The beginning ends
in a slash, so nothing beside the path is admitted, and comparisons of selectors do not notice it. -/

namespace EventStore.Selector
open Proofs.Outcomes

structure Base (path : String) (base : List Char) : Prop where
  slashes : ∃ count, path.toList = base ++ List.replicate count '/'
  trimmed : base.getLast? ≠ some '/'

theorem base_trimSlashes (path : String) : Base path (trimSlashes path.toList) := by
  constructor
  · have slash : ∀ char ∈ path.toList.rtakeWhile (· = '/'), char = '/' := by
      intro char member
      simpa using List.mem_rtakeWhile_imp member
    refine ⟨(path.toList.rtakeWhile (· = '/')).length, ?_⟩
    rw [← List.eq_replicate_of_mem slash]
    exact List.rdropWhile_append_rtakeWhile.symm
  · intro last
    obtain ⟨front, shape⟩ := List.getLast?_eq_some_iff.mp last
    have stripped : path.toList.rdropWhile (· = '/') = front ++ ['/'] := shape
    have left := List.rdropWhile_last_not (p := (· = '/')) (l := path.toList) (by simp [stripped])
    simp [stripped] at left

def lead (path : String) : List Char :=
  match trimSlashes path.toList with
  | [] => []
  | base => base ++ ['/']

theorem toList_below (path stream : String) :
    (below path stream).toList = lead path ++ stream.toList := by
  unfold below lead
  cases trimSlashes path.toList <;> simp

theorem lead_of_named {path : String} (named : ∃ char ∈ path.toList, char ≠ '/') :
    lead path = trimSlashes path.toList ++ ['/'] := by
  unfold lead
  split
  next empty =>
    obtain ⟨char, member, other⟩ := named
    have slashes : path.toList.rdropWhile (· = '/') = [] := empty
    exact absurd (by simpa using List.rdropWhile_eq_nil_iff.mp slashes char member) other
  next => rfl

theorem allows_base_iff {path : String} : LiteralRole.base.Allows path ↔
    path ≠ "" ∧ ∀ char ∈ path.toList, char ∉ ['$', '~', '.', '[', ']', ','] := by
  rw [LiteralRole.allows_iff]
  simp [LiteralRole.isReserved, isStreamReserved]

theorem lead_free {path : String} (allowed : LiteralRole.base.Allows path) :
    ∀ char ∈ lead path, isStreamReserved char = false := by
  intro char member
  have inside : ∀ char ∈ trimSlashes path.toList, isStreamReserved char = false := by
    intro char member
    exact allowed.free char ((List.rdropWhile_prefix (· = '/') path.toList).subset member)
  unfold lead at member
  split at member
  · cases member
  · rcases List.mem_append.mp member with before | slash
    · exact inside char before
    · rw [List.mem_singleton.mp slash]
      rfl

section Streams

variable {path stream other : String}

theorem below_ne_empty (named : stream ≠ "") : below path stream ≠ "" := by
  intro empty
  have whole := toList_below path stream
  rw [empty, eq_comm] at whole
  exact named (String.toList_eq_nil_iff.mp (List.append_eq_nil_iff.mp whole).2)

theorem isOpenEnded_below (named : stream ≠ "") :
    isOpenEnded (below path stream) = isOpenEnded stream := by
  have some : stream.toList ≠ [] := by simpa using named
  rw [isOpenEnded, isOpenEnded, toList_below, List.getLast?_append_of_ne_nil _ some]

theorem stem_below (named : stream ≠ "") :
    (stem (below path stream)).toList = lead path ++ (stem stream).toList := by
  have same : isOpenEnded (below path stream) = isOpenEnded stream := isOpenEnded_below named
  cases wild : isOpenEnded stream with
  | false => rw [stem_of_closed (same.trans wild), stem_of_closed wild, toList_below]
  | true =>
    have longer := toList_of_openEnded (same.trans wild)
    rw [toList_below, toList_of_openEnded wild, ← List.append_assoc] at longer
    exact (List.append_cancel_right longer).symm

theorem below_inj : below path stream = below path other ↔ stream = other := by
  rw [← String.toList_inj, toList_below, toList_below, List.append_cancel_left_eq,
    String.toList_inj]

end Streams

def relocated (selector : Selector) (path : String) : Selector :=
  { selector with
    everything := false, stream := below path selector.stream, relative := false }

variable {types : TypeHierarchy} {selector other : Selector} {path : String}

theorem Valid.limited (valid : selector.Valid) (relative : selector.relative = true) :
    selector.everything = false := by
  cases everything : selector.everything with
  | false => rfl
  | true =>
    rw [valid.alone everything] at relative
    cases relative

theorem Valid.relocated (valid : selector.Valid) (relative : selector.relative = true)
    (allowed : LiteralRole.base.Allows path) : (selector.relocated path).Valid where
  alone := nofun
  narrowed _ := .inl (below_ne_empty (valid.marked relative))
  marked := nofun
  stream _ := by
    have named := valid.marked relative
    have closed : below path selector.stream ≠ "" := below_ne_empty named
    refine ⟨by simpa [Selector.relocated] using closed, ?_⟩
    intro char member
    rw [Selector.relocated, toList_below] at member
    rcases List.mem_append.mp member with before | inside
    · exact lead_free allowed char before
    · exact (valid.stream named).free char inside
  categories := valid.categories
  events := valid.events

/-- The checks after the path's own never fail. -/
theorem resolve_eq_ok_iff {resolved : Selector} (valid : selector.Valid)
    (relative : selector.relative = true) :
    selector.resolve path = .ok resolved ↔
      LiteralRole.base.Allows path ∧ resolved = selector.relocated path := by
  rw [resolve, if_pos relative, then_eq_ok_iff, checkLiteral_eq_ok_iff]
  change _ ∧ (selector.relocated path).check = .ok resolved ↔ _
  constructor
  · rintro ⟨allowed, checked⟩
    exact ⟨allowed, (check_eq_ok_iff.mp checked).1⟩
  · rintro ⟨allowed, rfl⟩
    exact ⟨allowed, check_eq_ok_iff.mpr ⟨rfl, valid.relocated relative allowed⟩⟩

/-- Whatever is admitted after resolving begins with what was put before the stream. -/
theorem lead_prefix_of_selects {record : Record} (named : selector.stream ≠ "")
    (selected : Memory.selects types (selector.relocated path) record = true) :
    lead path <+: record.stream.toList := by
  have whole : (selector.relocated path).stream.toList = lead path ++ selector.stream.toList :=
    toList_below path selector.stream
  rcases admits_iff.mp selected with everything | ⟨unnamed | covered, _⟩
  · cases everything
  · exact absurd unnamed (below_ne_empty named)
  · rcases covered with ⟨_, same⟩ | ⟨beginning, shape, inside⟩
    · rw [same, whole]
      exact List.prefix_append _ _
    · have before : lead path <+: beginning ++ [wildcard] := by
        rw [← shape, whole]
        exact List.prefix_append _ _
      rcases List.prefix_concat_iff.mp before with all | shorter
      · rw [whole, ← all] at shape
        exact absurd (by simpa using shape) named
      · exact shorter.trans inside

/-- Streams compare behind one beginning as they do without it. -/
theorem coversStream_relocated (named : selector.stream ≠ "") (otherNamed : other.stream ≠ "") :
    (selector.relocated path).coversStream (other.relocated path) =
      selector.coversStream other := by
  have closed : below path selector.stream ≠ "" := below_ne_empty named
  have otherClosed : below path other.stream ≠ "" := below_ne_empty otherNamed
  have ending := @isOpenEnded_below path _ named
  cases wild : isOpenEnded selector.stream with
  | true =>
    have same : (stem (below path selector.stream)).toList <+:
        (stem (below path other.stream)).toList ↔
        (stem selector.stream).toList <+: (stem other.stream).toList := by
      rw [stem_below named, stem_below otherNamed, List.prefix_append_right_inj]
    rw [Bool.eq_iff_iff]
    simpa [coversStream, relocated, closed, otherClosed, named, otherNamed, ending, wild] using same
  | false =>
    simp [coversStream, relocated, closed, otherClosed, named, otherNamed, ending, wild, below_inj]

theorem covers_relocated (valid : selector.Valid) (relative : selector.relative = true)
    (otherValid : other.Valid) (otherRelative : other.relative = true) :
    (selector.relocated path).covers types (other.relocated path) = selector.covers types other := by
  have streams : (selector.relocated path).coversStream (other.relocated path) =
      selector.coversStream other :=
    coversStream_relocated (valid.marked relative) (otherValid.marked otherRelative)
  rw [covers, covers, streams, valid.limited relative]
  rfl

/-- What resolving below a path makes of a relative selector. -/
structure Resolved (selector : Selector) (path : String) (resolved : Selector) : Prop where
  valid : resolved.Valid
  absolute : resolved.relative = false
  categories : resolved.categories = selector.categories
  events : resolved.events = selector.events
  readable : resolved.checkReadable = .ok ()
  settled : ∀ again, resolved.resolve again = .ok resolved
  confined : (∃ char ∈ path.toList, char ≠ '/') → ∃ base, Base path base ∧
    ∀ types record, Memory.selects types resolved record = true →
      base ++ ['/'] <+: record.stream.toList

theorem resolved_relocated (valid : selector.Valid) (relative : selector.relative = true)
    (allowed : LiteralRole.base.Allows path) : Resolved selector path (selector.relocated path) where
  valid := valid.relocated relative allowed
  absolute := rfl
  categories := rfl
  events := rfl
  readable := by
    have closed : below path selector.stream ≠ "" := below_ne_empty (valid.marked relative)
    simp [checkReadable, relocated, closed]
  settled _ := rfl
  confined named := by
    refine ⟨_, base_trimSlashes path, ?_⟩
    intro types record selected
    rw [← lead_of_named named]
    exact lead_prefix_of_selects (valid.marked relative) selected

end EventStore.Selector

namespace EventStore.Proofs.SelectorResolution
open Selector

/-- A relative selector can be resolved below every path that holds none of the characters streams
are cut at. What it becomes admits nothing outside the path, unless that is all slashes, and two
selectors resolved below one path cover each other as they did before. -/
theorem resolving_confines_and_keeps_covers (types : TypeHierarchy) (selector other : Selector)
    (path : String) (valid : selector.Valid) (relative : selector.relative = true)
    (otherValid : other.Valid) (otherRelative : other.relative = true) :
    ((∃ resolved, selector.resolve path = .ok resolved) ↔
      path ≠ "" ∧ ∀ char ∈ path.toList, char ∉ ['$', '~', '.', '[', ']', ',']) ∧
    (∀ resolved, selector.resolve path = .ok resolved → Resolved selector path resolved) ∧
    ∀ resolved otherResolved, selector.resolve path = .ok resolved →
      other.resolve path = .ok otherResolved →
        (resolved.covers types otherResolved = true ↔ selector.covers types other = true) := by
  refine ⟨?_, ?_, ?_⟩
  · rw [← allows_base_iff]
    constructor
    · rintro ⟨resolved, done⟩
      exact ((resolve_eq_ok_iff valid relative).mp done).1
    · intro allowed
      exact ⟨_, (resolve_eq_ok_iff valid relative).mpr ⟨allowed, rfl⟩⟩
  · intro resolved done
    obtain ⟨allowed, rfl⟩ := (resolve_eq_ok_iff valid relative).mp done
    exact resolved_relocated valid relative allowed
  · intro resolved otherResolved done otherDone
    obtain ⟨_, rfl⟩ := (resolve_eq_ok_iff valid relative).mp done
    obtain ⟨_, rfl⟩ := (resolve_eq_ok_iff otherValid otherRelative).mp otherDone
    rw [covers_relocated valid relative otherValid otherRelative]

/-- The path ends in more slashes than one and holds a wildcard, one stream is nothing but the
wildcard, and the other begins with a slash. -/
theorem resolving_confines_and_keeps_covers_starred :
    let types : TypeHierarchy := ⟨[⟨"Placed", ["Order"]⟩, ⟨"Order", []⟩], by simp [Layered]⟩
    let selector : Selector := { stream := "*", relative := true, events := ["Order"] }
    let other : Selector :=
      { stream := "/b*", relative := true, categories := ["x"], events := ["Placed"] }
    let path := "shop*//"
    let resolved : Selector := { stream := "shop*/*", events := ["Order"] }
    let otherResolved : Selector :=
      { stream := "shop*//b*", categories := ["x"], events := ["Placed"] }
    (selector.Valid ∧ selector.relative = true) ∧ (other.Valid ∧ other.relative = true) ∧
      selector.resolve path = .ok resolved ∧ other.resolve path = .ok otherResolved ∧
        Resolved selector path resolved ∧ resolved.covers types otherResolved = true := by
  intro types selector other path resolved otherResolved
  have checked : selector.check = .ok selector := by decide +kernel
  have otherChecked : other.check = .ok other := by decide +kernel
  have valid := (check_eq_ok_iff.mp checked).2
  have otherValid := (check_eq_ok_iff.mp otherChecked).2
  have done : selector.resolve path = .ok resolved := by decide +kernel
  have otherDone : other.resolve path = .ok otherResolved := by decide +kernel
  have covered : selector.covers types other = true := by decide +kernel
  obtain ⟨_, becomes, compares⟩ :=
    resolving_confines_and_keeps_covers types selector other path valid rfl otherValid rfl
  exact ⟨⟨valid, rfl⟩, ⟨otherValid, rfl⟩, done, otherDone, becomes resolved done,
    (compares resolved otherResolved done otherDone).mpr covered⟩

end EventStore.Proofs.SelectorResolution
