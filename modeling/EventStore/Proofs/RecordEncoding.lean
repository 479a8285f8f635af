import EventStore.Storage.Record
import EventStore.Proofs.SelectorValidity
import EventStore.Proofs.StoredTexts

/-! The record of an append. Whether there is one depends on the literals alone; what it holds are
the appended values in their textual forms, and the categories can be taken apart again. -/

namespace EventStore.Record
open Proofs.Outcomes Proofs.StoredTexts

def prepared (stream : String) (envelope : Envelope) (categories : List String) : Record where
  stream
  categories := joinCategories categories
  id := envelope.id
  name := envelope.type
  date := Timestamp.format envelope.createdAt
  aggregateId := envelope.aggregateId.map Uuid.format
  data := encodePayload envelope.data
  metadata := encodePayload envelope.metadata

structure Acceptable (stream : String) (categories : List String) : Prop where
  stream : checkStreamName stream = .ok ()
  categories : ∀ category ∈ categories, LiteralRole.category.Allows category

theorem not_acceptable_iff {stream : String} {categories : List String} :
    ¬ Acceptable stream categories ↔ (∃ fault, checkStreamName stream = .error fault) ∨
      ∃ category ∈ categories, ∃ fault, checkCategory category = .error fault := by
  simp only [← ne_ok_iff, checkCategory, checkLiteral_eq_ok_iff, ne_eq]
  constructor
  · intro refused
    by_cases named : checkStreamName stream = .ok ()
    · refine .inr (Classical.byContradiction fun none => refused ⟨named, ?_⟩)
      simpa using none
    · exact .inl named
  · rintro (unnamed | ⟨category, member, refused⟩) acceptable
    · exact unnamed acceptable.stream
    · exact refused (acceptable.categories category member)

/-- The checks that every append passes: its stream first, then its categories in their order. -/
def checkAppend (stream : String) (categories : List String) : Except SelectorFault Unit := do
  checkStreamName stream
  categories.forM checkCategory

theorem checkAppend_eq_ok_iff {stream : String} {categories : List String} :
    checkAppend stream categories = .ok () ↔ Acceptable stream categories := by
  have literals : categories.forM checkCategory = .ok () ↔
      ∀ category ∈ categories, LiteralRole.category.Allows category := forM_checkLiteral_eq_ok_iff
  rw [checkAppend, then_eq_ok_iff, literals]
  constructor
  · rintro ⟨named, allowed⟩
    exact ⟨named, allowed⟩
  · intro acceptable
    exact ⟨acceptable.stream, acceptable.categories⟩

/-- An append is refused for its literals or packed; nothing else is looked at. -/
theorem encode_eq (stream : String) (envelope : Envelope) (categories : List String) :
    encode stream envelope categories =
      match checkAppend stream categories with
      | .ok _ => .ok (prepared stream envelope categories)
      | .error fault => .error (.invalidLiteral fault) := by
  rw [encode, checkAppend]
  cases checkStreamName stream with
  | error fault => rfl
  | ok _ =>
    cases categories.forM checkCategory with
    | error fault => rfl
    | ok _ => rfl

theorem encode_eq_ok_iff {stream : String} {envelope : Envelope} {categories : List String}
    {record : Record} :
    encode stream envelope categories = .ok record ↔
      Acceptable stream categories ∧ record = prepared stream envelope categories := by
  rw [encode_eq, ← checkAppend_eq_ok_iff]
  cases checkAppend stream categories with
  | error fault => simp
  | ok _ => simp [eq_comm]

theorem not_acceptable_of_encode {stream : String} {envelope : Envelope}
    {categories : List String} {fault : StorageFault}
    (refused : encode stream envelope categories = .error fault) :
    ¬ Acceptable stream categories := by
  intro acceptable
  rw [encode_eq_ok_iff.mpr ⟨acceptable, rfl⟩] at refused
  cases refused

theorem encode_eq_error {stream : String} {envelope : Envelope} {categories : List String}
    {fault : StorageFault} (refused : encode stream envelope categories = .error fault) :
    ∃ selectorFault, fault = .invalidLiteral selectorFault := by
  rw [encode_eq] at refused
  split at refused
  next => cases refused
  next literal _ => exact ⟨literal, (Except.error.inj refused).symm⟩

/-- Joined categories come apart at the same places, in their order and with their repetitions. -/
theorem cutCategories_joinCategories {categories : List String}
    (allowed : ∀ category ∈ categories, LiteralRole.category.Allows category) :
    cutCategories (joinCategories categories) = categories := by
  rw [joinCategories]
  split
  next none => exact (List.isEmpty_iff.mp none).symm
  next some =>
    rw [cutCategories, Text.splitText, Text.joinTexts, String.toList_ofList, Text.pieces_joined]
    · simp
    · simpa using some
    · intro text member
      obtain ⟨category, inside, rfl⟩ := List.mem_map.mp member
      exact (allowed category inside).comma_not_mem

theorem categoryList_prepared {stream : String} (envelope : Envelope) {categories : List String}
    (acceptable : Acceptable stream categories) :
    (prepared stream envelope categories).categoryList = categories :=
  cutCategories_joinCategories acceptable.categories

end EventStore.Record
