import EventStore.Proofs.DriverStates
import EventStore.Proofs.MemorySteps

/-! What holds of a store that keeps its records in a list, whatever was asked of it before.
Versions of a stream count its records, identifiers are never used twice and literals are valid.
Together with the outcomes of one append this says what every later append answers. -/

namespace EventStore

namespace Memory
open Record (Acceptable)

/-- Each stream is numbered from zero without gap or repetition, in the order of its appends. -/
structure Consistent (memory : Memory) : Prop where
  numbered : ∀ stream, memory.versions stream = List.range (memory.versions stream).length
  distinct : (memory.records.map (·.id)).Nodup
  literal : ∀ record ∈ memory.records, Acceptable record.stream record.categoryList

theorem consistent_empty : Consistent {} where
  numbered _ := rfl
  distinct := List.nodup_nil
  literal := by simp

theorem length_versions (memory : Memory) (stream : String) :
    (memory.versions stream).length = memory.records.countP (·.stream = stream) := by
  rw [versions, List.length_map, List.countP_eq_length_filter]

/-- The next version is looked for as the greatest one, and found to be the number of records. -/
theorem Consistent.freshVersion_eq {memory : Memory} (consistent : memory.Consistent)
    (stream : String) : memory.freshVersion stream = (memory.versions stream).length := by
  have numbered := consistent.numbered stream
  cases count : (memory.versions stream).length with
  | zero => exact freshVersion_of_nil (List.eq_nil_of_length_eq_zero count)
  | succ last =>
    rw [count] at numbered
    have greatest : (memory.versions stream).max? = some last := by
      rw [numbered, List.max?_eq_some_iff]
      constructor
      · exact List.mem_range.mpr (Nat.lt_succ_self last)
      · intro version member
        exact Nat.le_of_lt_succ (List.mem_range.mp member)
    rw [versions] at greatest
    rw [freshVersion, greatest]

section Append

variable {memory : Memory} {stream : String} {envelope : Envelope} {categories : List String}

def grown (memory : Memory) (stream : String) (envelope : Envelope) (categories : List String) :
    Memory :=
  { memory with records := memory.records ++ [memory.keeping stream envelope categories] }

theorem versions_grown (memory : Memory) (stream : String) (envelope : Envelope)
    (categories : List String) (other : String) :
    (memory.grown stream envelope categories).versions other =
      memory.versions other ++ if stream = other then [memory.freshVersion stream] else [] := by
  rw [versions, grown, List.filter_append, List.map_append, ← versions]
  by_cases same : stream = other
  · simp [keeping, Record.prepared, same]
  · simp [keeping, Record.prepared, same]

theorem Consistent.grown (consistent : memory.Consistent) (acceptable : Acceptable stream categories)
    (unknown : ∀ record ∈ memory.records, record.id ≠ envelope.id) :
    (memory.grown stream envelope categories).Consistent where
  numbered := by
    intro other
    rw [versions_grown]
    by_cases same : stream = other
    · subst same
      rw [if_pos rfl, consistent.freshVersion_eq, List.length_append, List.length_singleton,
        List.range_succ, ← consistent.numbered]
    · rw [if_neg same, List.append_nil]
      exact consistent.numbered other
  distinct := by
    rw [Memory.grown, List.map_append, List.nodup_append]
    refine ⟨consistent.distinct, by simp, ?_⟩
    intro known member id new
    obtain ⟨record, inside, rfl⟩ := List.mem_map.mp member
    rw [List.mem_singleton.mp new]
    exact unknown record inside
  literal := by
    intro record member
    rcases List.mem_append.mp member with old | new
    · exact consistent.literal record old
    · rw [List.mem_singleton.mp new]
      have carried : (memory.keeping stream envelope categories).categoryList = categories :=
        Record.categoryList_prepared envelope acceptable
      rw [carried]
      exact acceptable

theorem Consistent.append (consistent : memory.Consistent) (stream : String) (envelope : Envelope)
    (categories : List String) : (memory.append stream envelope categories).2.Consistent := by
  rcases memory.append_cases stream envelope categories with
    ⟨_, outcome⟩ | ⟨_, _, _, outcome⟩ | ⟨_, _, _, outcome⟩ | ⟨_, acceptable, unknown, outcome⟩
  · rw [outcome]; exact consistent
  · rw [outcome]; exact consistent
  · rw [outcome]; exact consistent
  · rw [outcome]; exact consistent.grown acceptable unknown

/-- What an append answers to whoever holds the driver, and the store it leaves. -/
structure Answers (memory : Memory) (stream : String) (envelope : Envelope)
    (categories : List String) (answer : Except StorageFault (Option Nat)) (after : Memory) : Prop where
  unavailable : (∃ outage, answer = .error (.unavailable outage)) ↔ memory.refusesAppends = true
  invalid : memory.refusesAppends = false →
    ((∃ fault, answer = .error (.invalidLiteral fault)) ↔
      (∃ fault, checkStreamName stream = .error fault) ∨
        ∃ category ∈ categories, ∃ fault, checkCategory category = .error fault)
  duplicate : memory.refusesAppends = false → Acceptable stream categories →
    (answer = .error (.duplicateEvent envelope.id) ↔
      ∃ record ∈ memory.records, record.id = envelope.id)
  assigned : memory.refusesAppends = false → Acceptable stream categories →
    (∀ record ∈ memory.records, record.id ≠ envelope.id) →
      answer = .ok (some (memory.records.countP (·.stream = stream)))
  unchanged : (∃ fault, answer = .error fault) → after = memory
  added : ∀ version, answer = .ok version → ∃ number, version = some number ∧
    after = { memory with records := memory.records ++
      [{ Record.prepared stream envelope categories with version := number }] }
  others : ∀ other, other ≠ stream →
    after.records.filter (·.stream = other) = memory.records.filter (·.stream = other) ∧
      after.freshVersion other = memory.freshVersion other

theorem freshVersion_congr {left right : Memory} {stream : String}
    (same : left.records.filter (·.stream = stream) = right.records.filter (·.stream = stream)) :
    left.freshVersion stream = right.freshVersion stream := by
  rw [freshVersion, freshVersion, same]

theorem filter_grown_other {other : String} (different : other ≠ stream) :
    (memory.grown stream envelope categories).records.filter (·.stream = other) =
      memory.records.filter (·.stream = other) := by
  rw [grown, List.filter_append]
  simp [keeping, Record.prepared, different.symm]

theorem answers_refused {fault : StorageFault}
    (unavailable : (∃ outage, fault = .unavailable outage) ↔ memory.refusesAppends = true)
    (invalid : memory.refusesAppends = false →
      ((∃ literal, fault = .invalidLiteral literal) ↔ ¬ Acceptable stream categories))
    (duplicate : memory.refusesAppends = false → Acceptable stream categories →
      fault = .duplicateEvent envelope.id ∧ ∃ record ∈ memory.records, record.id = envelope.id) :
    Answers memory stream envelope categories (.error fault) memory where
  unavailable := by simpa using unavailable
  invalid := by
    intro accepting
    rw [← Record.not_acceptable_iff]
    simpa using invalid accepting
  duplicate := by
    intro accepting acceptable
    obtain ⟨same, known⟩ := duplicate accepting acceptable
    simp [same, known]
  assigned := by
    intro accepting acceptable unknown
    obtain ⟨_, record, member, same⟩ := duplicate accepting acceptable
    exact absurd same (unknown record member)
  unchanged _ := rfl
  added := by simp
  others _ _ := ⟨rfl, rfl⟩

theorem answers_kept (accepting : memory.refusesAppends = false)
    (consistent : memory.Consistent) (acceptable : Acceptable stream categories)
    (unknown : ∀ record ∈ memory.records, record.id ≠ envelope.id) :
    Answers memory stream envelope categories (.ok (some (memory.freshVersion stream)))
      (memory.grown stream envelope categories) where
  unavailable := by simp [accepting]
  invalid := by
    intro _
    rw [← Record.not_acceptable_iff]
    simp [acceptable]
  duplicate := by simpa using fun _ _ => unknown
  assigned := by
    intro _ _ _
    rw [consistent.freshVersion_eq, length_versions]
  unchanged := by simp
  added := by
    intro version answered
    exact ⟨_, (Except.ok.inj answered).symm, rfl⟩
  others := by
    intro other different
    have same : (memory.grown stream envelope categories).records.filter (·.stream = other) =
        memory.records.filter (·.stream = other) := filter_grown_other different
    exact ⟨same, freshVersion_congr same⟩

/-- An append is judged by the refusal, the literals and the identifier, in this order. -/
theorem Consistent.answers (consistent : memory.Consistent) (stream : String) (envelope : Envelope)
    (categories : List String) :
    Answers memory stream envelope categories
      ((memory.append stream envelope categories).1.map some)
      (memory.append stream envelope categories).2 := by
  rcases memory.append_cases stream envelope categories with
    ⟨refusing, outcome⟩ | ⟨accepting, fault, refused, outcome⟩ |
      ⟨accepting, acceptable, known, outcome⟩ | ⟨accepting, acceptable, unknown, outcome⟩
  · rw [outcome]
    apply answers_refused
    · simp [refusing]
    · simp [refusing]
    · simp [refusing]
  · have unacceptable : ¬ Acceptable stream categories := Record.not_acceptable_of_encode refused
    rw [outcome]
    apply answers_refused
    · simp [accepting]
    · simp [unacceptable]
    · simp [unacceptable]
  · rw [outcome]
    apply answers_refused
    · simp [accepting]
    · simp [acceptable]
    · exact fun _ _ => ⟨rfl, known⟩
  · rw [outcome]
    exact answers_kept accepting consistent acceptable unknown

end Append

end Memory

namespace Proofs.MemoryConsistency

inductive Request
  | append (stream : String) (envelope : Envelope) (categories : List String)
  | refuse (appends reads : Option Bool)
  | read (types : TypeHierarchy) (selector : Selector)

def serve (id : DriverId) (backends : Backends) : Request → Backends
  | .append stream envelope categories => (backends.append id stream envelope categories).2
  | .refuse appends reads => backends.setRefusals id appends reads
  | .read _ _ => backends

def Keeps (backends : Backends) (id : DriverId) : Prop :=
  ∃ memory, backends.driver id = .memory memory ∧ memory.Consistent

theorem serve_keeps {backends : Backends} {id : DriverId} (kept : Keeps backends id)
    (request : Request) : Keeps (serve id backends request) id := by
  obtain ⟨memory, held, consistent⟩ := kept
  cases request with
  | append stream envelope categories =>
    exact ⟨_, Backends.driver_append_self held stream envelope categories,
      consistent.append stream envelope categories⟩
  | refuse appends reads =>
    rw [serve, Backends.setRefusals, held]
    refine ⟨_, Backends.driver_setDriver (Backends.opened_of_memory held), ?_⟩
    exact ⟨consistent.numbered, consistent.distinct, consistent.literal⟩
  | read types selector => exact ⟨memory, held, consistent⟩

theorem foldl_serve_keeps {backends : Backends} {id : DriverId} (kept : Keeps backends id)
    (requests : List Request) : Keeps (requests.foldl (serve id) backends) id := by
  induction requests generalizing backends with
  | nil => exact kept
  | cons request requests ih => exact ih (serve_keeps kept request)

/-- Whatever was asked of a driver since it was opened, its records are consistent, and the next
append through it is answered by them: with the number of records of its stream as its version,
unless appends are refused, a literal is invalid or the identifier is taken. -/
theorem appends_answered_by_consistent_records (backends : Backends) (requests : List Request) :
    let opened := backends.addDriver (.memory {})
    let reached := requests.foldl (serve opened.1) opened.2
    ∃ memory, reached.driver opened.1 = .memory memory ∧ memory.Consistent ∧
      ∀ stream envelope categories, ∃ after,
        (reached.append opened.1 stream envelope categories).2.driver opened.1 = .memory after ∧
          memory.Answers stream envelope categories
            (reached.append opened.1 stream envelope categories).1 after := by
  intro opened reached
  have initial : Keeps opened.2 opened.1 :=
    ⟨{}, Backends.driver_addDriver, Memory.consistent_empty⟩
  obtain ⟨memory, held, consistent⟩ := foldl_serve_keeps initial requests
  refine ⟨memory, held, consistent, ?_⟩
  intro stream envelope categories
  refine ⟨_, Backends.driver_append_self held stream envelope categories, ?_⟩
  rw [Backends.append_of_memory held]
  exact consistent.answers stream envelope categories

end Proofs.MemoryConsistency
end EventStore
