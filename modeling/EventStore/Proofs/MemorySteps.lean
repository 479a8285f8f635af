import EventStore.Storage.Memory
import EventStore.Proofs.RecordEncoding

/-! What one append does to the store that keeps its records in a list. It is refused, judged by
its literals, judged by its identifier, or kept under the next version of its stream. -/

namespace EventStore.Memory
open Record

def keeping (memory : Memory) (stream : String) (envelope : Envelope) (categories : List String) :
    Record :=
  { prepared stream envelope categories with version := memory.freshVersion stream }

/-- The four outcomes of an append, each with the answer and the store it leaves behind. -/
theorem append_cases (memory : Memory) (stream : String) (envelope : Envelope)
    (categories : List String) :
    (memory.refusesAppends = true ∧
      memory.append stream envelope categories =
        (.error (.unavailable .refusingAppends), memory)) ∨
    (memory.refusesAppends = false ∧ ∃ fault,
      encode stream envelope categories = .error (.invalidLiteral fault) ∧
        memory.append stream envelope categories = (.error (.invalidLiteral fault), memory)) ∨
    (memory.refusesAppends = false ∧ Acceptable stream categories ∧
      (∃ record ∈ memory.records, record.id = envelope.id) ∧
        memory.append stream envelope categories =
          (.error (.duplicateEvent envelope.id), memory)) ∨
    (memory.refusesAppends = false ∧ Acceptable stream categories ∧
      (∀ record ∈ memory.records, record.id ≠ envelope.id) ∧
        memory.append stream envelope categories =
          (.ok (memory.freshVersion stream),
            { memory with
              records := memory.records ++ [memory.keeping stream envelope categories] })) := by
  unfold append
  cases refusing : memory.refusesAppends with
  | true => exact .inl ⟨rfl, rfl⟩
  | false =>
    refine .inr ?_
    cases encoded : encode stream envelope categories with
    | error fault =>
      obtain ⟨literal, rfl⟩ := encode_eq_error encoded
      exact .inl ⟨rfl, literal, rfl, rfl⟩
    | ok record =>
      obtain ⟨acceptable, rfl⟩ := encode_eq_ok_iff.mp encoded
      refine .inr ?_
      simp only [Bool.false_eq_true, if_false]
      split
      next known =>
        simp only [List.any_eq_true, decide_eq_true_eq] at known
        exact .inl ⟨trivial, acceptable, known, rfl⟩
      next unknown =>
        simp only [List.any_eq_true, decide_eq_true_eq, not_exists, not_and] at unknown
        exact .inr ⟨trivial, acceptable, unknown, rfl⟩

theorem records_append_cases (memory : Memory) (stream : String) (envelope : Envelope)
    (categories : List String) :
    (memory.append stream envelope categories).2.records = memory.records ∨
      (memory.append stream envelope categories).2.records =
        memory.records ++ [memory.keeping stream envelope categories] := by
  rcases memory.append_cases stream envelope categories with
    ⟨_, outcome⟩ | ⟨_, _, _, outcome⟩ | ⟨_, _, _, outcome⟩ | ⟨_, _, _, outcome⟩
  · exact .inl (by rw [outcome])
  · exact .inl (by rw [outcome])
  · exact .inl (by rw [outcome])
  · exact .inr (by rw [outcome])

section Append

variable {memory : Memory} {stream : String} {envelope : Envelope} {categories : List String}

theorem length_append_le :
    (memory.append stream envelope categories).2.records.length ≤ memory.records.length + 1 := by
  rcases memory.records_append_cases stream envelope categories with same | grown
  · rw [same]
    omega
  · simp [grown]

theorem records_prefix_append :
    memory.records <+: (memory.append stream envelope categories).2.records := by
  rcases memory.records_append_cases stream envelope categories with same | grown
  · exact same ▸ List.prefix_refl _
  · rw [grown]
    exact List.prefix_append _ _

theorem refusesReads_append :
    (memory.append stream envelope categories).2.refusesReads = memory.refusesReads := by
  rcases memory.append_cases stream envelope categories with
    ⟨_, outcome⟩ | ⟨_, _, _, outcome⟩ | ⟨_, _, _, outcome⟩ | ⟨_, _, _, outcome⟩
  all_goals rw [outcome]

theorem mem_records_append {record : Record}
    (member : record ∈ (memory.append stream envelope categories).2.records) :
    record ∈ memory.records ∨ record.id = envelope.id := by
  rcases memory.records_append_cases stream envelope categories with same | grown
  · exact .inl (same ▸ member)
  · rw [grown] at member
    rcases List.mem_append.mp member with old | new
    · exact .inl old
    · exact .inr (congrArg Record.id (List.mem_singleton.mp new))

theorem filter_append_of_ne {held : String} (different : envelope.id ≠ held) :
    (memory.append stream envelope categories).2.records.filter (·.id = held) =
      memory.records.filter (·.id = held) := by
  rcases memory.records_append_cases stream envelope categories with same | grown
  · rw [same]
  · simp [grown, keeping, prepared, different]

theorem known_of_append_ok {version : Nat}
    (took : (memory.append stream envelope categories).1 = .ok version) :
    ∃ record ∈ (memory.append stream envelope categories).2.records,
      record.id = envelope.id := by
  rcases memory.append_cases stream envelope categories with
    ⟨_, outcome⟩ | ⟨_, _, _, outcome⟩ | ⟨_, _, _, outcome⟩ | ⟨_, _, _, outcome⟩
  all_goals rw [outcome] at took ⊢
  all_goals cases took
  exact ⟨_, List.mem_append_right _ List.mem_cons_self, rfl⟩

/-- An event that the list has is refused, by its literals first. -/
theorem append_of_known (known : ∃ record ∈ memory.records, record.id = envelope.id) :
    ∃ fault, memory.append stream envelope categories = (.error fault, memory) ∧
      (memory.refusesAppends = false →
        (Acceptable stream categories → fault = .duplicateEvent envelope.id) ∧
        (¬ Acceptable stream categories → ∃ literal, fault = .invalidLiteral literal)) := by
  rcases memory.append_cases stream envelope categories with
    ⟨refusing, outcome⟩ | ⟨_, literal, refused, outcome⟩ |
      ⟨_, acceptable, _, outcome⟩ | ⟨_, _, unknown, _⟩
  · exact ⟨_, outcome, by simp [refusing]⟩
  · exact ⟨_, outcome, fun _ =>
      ⟨fun acceptable => absurd acceptable (not_acceptable_of_encode refused),
        fun _ => ⟨literal, rfl⟩⟩⟩
  · exact ⟨_, outcome, fun _ => ⟨fun _ => rfl, absurd acceptable⟩⟩
  · obtain ⟨record, member, same⟩ := known
    exact absurd same (unknown record member)

end Append

/-- Versions are assigned under the same lock that keeps the record, so they never collide. -/
theorem append_ne_versionConflict (memory : Memory) (stream : String) (envelope : Envelope)
    (categories : List String) (other : String) (version : Nat) :
    (memory.append stream envelope categories).1 ≠ .error (.versionConflict other version) := by
  rcases memory.append_cases stream envelope categories with
    ⟨_, outcome⟩ | ⟨_, _, _, outcome⟩ | ⟨_, _, _, outcome⟩ | ⟨_, _, _, outcome⟩
  all_goals simp [outcome]

def versions (memory : Memory) (stream : String) : List Nat :=
  (memory.records.filter (·.stream = stream)).map (·.version)

theorem freshVersion_of_nil {memory : Memory} {stream : String}
    (none : memory.versions stream = []) : memory.freshVersion stream = 0 := by
  rw [versions] at none
  rw [freshVersion, none]
  rfl

theorem freshVersion_of_cons {memory : Memory} {stream : String} {first : Nat} {others : List Nat}
    (some : memory.versions stream = first :: others) :
    memory.freshVersion stream = others.foldl max first + 1 := by
  rw [versions] at some
  rw [freshVersion, some, List.max?_cons']

theorem lt_freshVersion {memory : Memory} {record : Record} (member : record ∈ memory.records) :
    record.version < memory.freshVersion record.stream := by
  have among : record.version ∈
      (memory.records.filter (·.stream = record.stream)).map (·.version) :=
    List.mem_map_of_mem (by simp [member])
  rw [freshVersion]
  split
  next greatest found => exact Nat.lt_succ_of_le ((List.max?_eq_some_iff.mp found).2 _ among)
  next none => simp [List.max?_eq_none_iff.mp none] at among

/-- Versions never run ahead of the number of records. -/
theorem freshVersion_le_length {memory : Memory} (stream : String)
    (bounded : ∀ record ∈ memory.records, record.version < memory.records.length) :
    memory.freshVersion stream ≤ memory.records.length := by
  rw [freshVersion]
  split
  next greatest found =>
    obtain ⟨record, kept, rfl⟩ := List.mem_map.mp (List.max?_eq_some_iff.mp found).1
    exact bounded record (List.mem_filter.mp kept).1
  next => exact Nat.zero_le _

end EventStore.Memory
