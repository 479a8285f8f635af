import EventStore.Selector.Basic
import EventStore.Proofs.Outcomes

/-! The fields that a selector may hold together, said apart from the checks that enforce it.
Everything that reads, writes or compares selectors is judged on these. -/

namespace EventStore
open Proofs.Outcomes

namespace LiteralRole

/-- A literal of its kind is not empty and free of the characters its part is cut at. -/
structure Allows (kind : LiteralRole) (literal : String) : Prop where
  some : literal.toList ≠ []
  free : ∀ char ∈ literal.toList, kind.isReserved char = false

theorem admits_iff {kind : LiteralRole} {literal : String} :
    kind.admits literal = true ↔ kind.Allows literal := by
  rw [admits, Bool.and_eq_true, Bool.not_eq_true', Bool.not_eq_true', List.any_eq_false]
  constructor
  · rintro ⟨some, free⟩
    refine ⟨?_, fun char member => by simpa using free char member⟩
    intro empty
    simp [String.toList_eq_nil_iff.mp empty] at some
  · rintro ⟨some, free⟩
    refine ⟨?_, fun char member => by simp [free char member]⟩
    rw [String.isEmpty_eq_false_iff]
    intro empty
    exact some (by simp [empty])

theorem allows_iff {kind : LiteralRole} {literal : String} :
    kind.Allows literal ↔ literal ≠ "" ∧ ∀ char ∈ literal.toList, kind.isReserved char = false :=
  ⟨fun allowed => ⟨by simpa using allowed.some, allowed.free⟩,
    fun ⟨named, free⟩ => ⟨by simpa using named, free⟩⟩

theorem Allows.isEmpty_eq_false {kind : LiteralRole} {literal : String}
    (allowed : kind.Allows literal) : literal.isEmpty = false := by
  rw [String.isEmpty_eq_false_iff]
  intro empty
  exact allowed.some (by rw [empty]; rfl)

/-- Lists of literals are separated by commas, which no literal holds. -/
theorem Allows.comma_not_mem {kind : LiteralRole} {literal : String}
    (allowed : kind.Allows literal) : ',' ∉ literal.toList := by
  intro member
  have reserved := allowed.free ',' member
  revert reserved
  cases kind <;> decide

end LiteralRole

theorem checkLiteral_eq_ok_iff {kind : LiteralRole} {literal : String} :
    checkLiteral kind literal = .ok () ↔ kind.Allows literal := by
  rw [← LiteralRole.admits_iff, checkLiteral]
  split <;> simp_all

/-- Events are appended to streams with names that no wildcard ends. -/
theorem checkStreamName_eq_ok_iff {name : String} :
    checkStreamName name = .ok () ↔ LiteralRole.stream.Allows name ∧ isOpenEnded name = false := by
  rw [checkStreamName, then_eq_ok_iff, checkLiteral_eq_ok_iff]
  cases isOpenEnded name <;> simp

theorem forM_checkLiteral_eq_ok_iff {kind : LiteralRole} {literals : List String} :
    literals.forM (checkLiteral kind) = .ok () ↔ ∀ literal ∈ literals, kind.Allows literal := by
  induction literals with
  | nil => simp [pure, Except.pure]
  | cons literal literals ih =>
    rw [List.forM, List.forall_mem_cons, ← ih, ← checkLiteral_eq_ok_iff]
    cases checkLiteral kind literal <;> simp [bind, Except.bind]

namespace Selector

/-- The selectors that callers can hold: everything and nothing else, or some closed part, each
part with literals of its kind. -/
structure Valid (selector : Selector) : Prop where
  alone : selector.everything = true → selector = all
  narrowed : selector.everything = false →
    selector.stream ≠ "" ∨ selector.categories ≠ [] ∨ selector.events ≠ []
  marked : selector.relative = true → selector.stream ≠ ""
  stream : selector.stream ≠ "" → LiteralRole.stream.Allows selector.stream
  categories : ∀ category ∈ selector.categories, LiteralRole.category.Allows category
  events : ∀ event ∈ selector.events, LiteralRole.event.Allows event

theorem valid_all : all.Valid where
  alone _ := rfl
  narrowed impossible := by cases impossible
  marked impossible := by cases impossible
  stream closed := absurd rfl closed
  categories := by simp [all]
  events := by simp [all]

/-- The fields in full: everything with nothing beside it, or some part, relative only below a
stream, and each literal without the characters that its part is cut at. -/
theorem valid_iff {selector : Selector} : selector.Valid ↔
    (selector.everything = true ∧ selector.stream = "" ∧ selector.relative = false ∧
      selector.categories = [] ∧ selector.events = []) ∨
    (selector.everything = false ∧
      (selector.stream ≠ "" ∨ selector.categories ≠ [] ∨ selector.events ≠ []) ∧
      (selector.relative = true → selector.stream ≠ "") ∧
      (∀ char ∈ selector.stream.toList, char ∉ ['$', '~', '.', '[', ']', ',']) ∧
      (∀ category ∈ selector.categories, category ≠ "" ∧
        ∀ char ∈ category.toList, char ∉ ['$', '~', '.', '[', ']', ',', '*']) ∧
      ∀ event ∈ selector.events, event ≠ "" ∧
        ∀ char ∈ event.toList, char ∉ ['$', '~', '[', ']', ',', '*']) := by
  have stream (char : Char) : LiteralRole.stream.isReserved char = false ↔
      char ∉ ['$', '~', '.', '[', ']', ','] := by
    simp [LiteralRole.isReserved, isStreamReserved]
  have category (char : Char) : LiteralRole.category.isReserved char = false ↔
      char ∉ ['$', '~', '.', '[', ']', ',', '*'] := by
    rw [LiteralRole.isReserved, isCategoryReserved, Bool.or_eq_false_iff, decide_eq_false_iff_not]
    simp [isStreamReserved, wildcard, and_assoc]
  have event (char : Char) : LiteralRole.event.isReserved char = false ↔
      char ∉ ['$', '~', '[', ']', ',', '*'] := by
    simp [LiteralRole.isReserved, isEventReserved]
  simp only [← stream, ← category, ← event, ← LiteralRole.allows_iff]
  constructor
  · intro valid
    cases everything : selector.everything with
    | true =>
      rw [valid.alone everything]
      exact .inl ⟨rfl, rfl, rfl, rfl, rfl⟩
    | false =>
      refine .inr ⟨rfl, valid.narrowed everything, valid.marked, ?_, valid.categories, valid.events⟩
      by_cases named : selector.stream = ""
      · simp [named]
      · exact (valid.stream named).free
  · rintro (⟨everything, named, absolute, uncategorised, untyped⟩ |
      ⟨everything, narrowed, marked, free, categories, events⟩)
    · have same : selector = all := by
        cases selector
        simp_all [all]
      exact same ▸ valid_all
    · exact ⟨by simp [everything], fun _ => narrowed, marked,
        fun named => LiteralRole.allows_iff.mpr ⟨named, free⟩, categories, events⟩

private theorem check_all_eq_ok_iff {selector checked : Selector}
    (everything : selector.everything = true) :
    selector.check = .ok checked ↔ checked = selector ∧ selector.Valid := by
  rw [check, if_pos everything]
  constructor
  · intro accepted
    split at accepted
    next bare =>
      cases accepted
      obtain ⟨⟨⟨named, absolute⟩, uncategorised⟩, untyped⟩ : ((selector.stream.isEmpty = true ∧
          selector.relative = false) ∧ selector.categories.isEmpty = true) ∧
          selector.events.isEmpty = true := by simpa [isBare] using bare
      have same : selector = all := by
        cases selector
        simp_all [all]
      exact ⟨rfl, same ▸ valid_all⟩
    next => cases accepted
  · rintro ⟨rfl, valid⟩
    rw [valid.alone everything]
    rfl

private theorem checkParts_eq_ok_iff {selector checked : Selector} :
    (do
      selector.categories.forM (checkLiteral .category)
      selector.events.forM (checkLiteral .event)
      .ok selector : Except SelectorFault Selector) = .ok checked ↔
      checked = selector ∧ (∀ category ∈ selector.categories, LiteralRole.category.Allows category) ∧
        ∀ event ∈ selector.events, LiteralRole.event.Allows event := by
  rw [then_eq_ok_iff, then_eq_ok_iff, forM_checkLiteral_eq_ok_iff, forM_checkLiteral_eq_ok_iff,
    Except.ok.injEq]
  exact ⟨fun ⟨categories, events, same⟩ => ⟨same.symm, categories, events⟩,
    fun ⟨same, categories, events⟩ => ⟨categories, events, same.symm⟩⟩

private theorem check_part_eq_ok_iff {selector checked : Selector}
    (everything : selector.everything = false) :
    selector.check = .ok checked ↔ checked = selector ∧ selector.Valid := by
  rw [check, if_neg (by simp [everything])]
  by_cases named : selector.stream = ""
  -- Without a stream the checks want no relative one, and some category or type.
  · rw [if_pos (by simpa using named)]
    split
    next relative =>
      constructor
      · intro impossible
        cases impossible
      · rintro ⟨_, valid⟩
        exact absurd named (valid.marked relative)
    next absolute =>
      split
      next unbounded =>
        simp only [Bool.and_eq_true, List.isEmpty_iff] at unbounded
        constructor
        · intro impossible
          cases impossible
        · rintro ⟨_, valid⟩
          obtain stream | categories | events := valid.narrowed everything
          · exact absurd named stream
          · exact absurd unbounded.1 categories
          · exact absurd unbounded.2 events
      next closed =>
        rw [checkParts_eq_ok_iff]
        simp only [Bool.and_eq_true, List.isEmpty_iff, Classical.not_and_iff_not_or_not] at closed
        constructor
        · rintro ⟨same, categories, events⟩
          refine ⟨same, ?_, fun _ => .inr closed, ?_, absurd named, categories, events⟩
          · simp [everything]
          · exact fun relative => absurd relative absolute
        · exact fun ⟨same, valid⟩ => ⟨same, valid.categories, valid.events⟩
  · rw [if_neg (by simpa using named), then_eq_ok_iff, checkParts_eq_ok_iff,
      checkLiteral_eq_ok_iff]
    constructor
    · rintro ⟨stream, same, categories, events⟩
      refine ⟨same, ?_, fun _ => .inl named, fun _ => named, fun _ => stream, categories, events⟩
      simp [everything]
    · exact fun ⟨same, valid⟩ => ⟨valid.stream named, same, valid.categories, valid.events⟩

theorem check_eq_ok_iff {selector checked : Selector} :
    selector.check = .ok checked ↔ checked = selector ∧ selector.Valid := by
  cases everything : selector.everything with
  | true => exact check_all_eq_ok_iff everything
  | false => exact check_part_eq_ok_iff everything

end Selector
end EventStore
