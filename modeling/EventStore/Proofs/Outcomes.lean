/-! Chains of steps that can fail. A chain succeeds only if all of its steps do. -/

namespace EventStore.Proofs.Outcomes

instance decidableEqExcept {ε : Type u} {α : Type v} [DecidableEq ε] [DecidableEq α] :
    DecidableEq (Except ε α)
  | .ok left, .ok right => decidable_of_iff (left = right) ⟨congrArg _, Except.ok.inj⟩
  | .error left, .error right => decidable_of_iff (left = right) ⟨congrArg _, Except.error.inj⟩
  | .ok _, .error _ => isFalse nofun
  | .error _, .ok _ => isFalse nofun

theorem bind_eq_ok_iff {ε : Type u} {α β : Type v} {outcome : Except ε α} {next : α → Except ε β}
    {result : β} :
    outcome >>= next = .ok result ↔ ∃ value, outcome = .ok value ∧ next value = .ok result := by
  cases outcome with
  | error fault => simp [bind, Except.bind]
  | ok value => simp [bind, Except.bind]

/-- A step that answers nothing only decides whether the chain goes on. -/
theorem then_eq_ok_iff {ε : Type u} {β : Type} {check : Except ε Unit} {next : Except ε β}
    {result : β} :
    (check >>= fun _ => next) = .ok result ↔ check = .ok () ∧ next = .ok result := by
  rw [bind_eq_ok_iff]
  constructor
  · rintro ⟨_, checked, done⟩
    exact ⟨checked, done⟩
  · rintro ⟨checked, done⟩
    exact ⟨(), checked, done⟩

theorem ne_ok_iff {ε : Type u} {check : Except ε Unit} :
    check ≠ .ok () ↔ ∃ fault, check = .error fault := by
  cases check <;> simp

theorem map_eq_ok_iff {ε : Type u} {α β : Type v} {outcome : Except ε α} {change : α → β}
    {result : β} :
    outcome.map change = .ok result ↔ ∃ value, outcome = .ok value ∧ change value = result := by
  cases outcome <;> simp [Except.map]

theorem map_eq_error_iff {ε : Type u} {α β : Type v} {outcome : Except ε α} {change : α → β}
    {fault : ε} : outcome.map change = .error fault ↔ outcome = .error fault := by
  cases outcome <;> simp [Except.map]

theorem mapM_congr {ε : Type u} {α : Type w} {β : Type v} {items : List α}
    {left right : α → Except ε β} (same : ∀ item ∈ items, left item = right item) :
    items.mapM left = items.mapM right := by
  induction items with
  | nil => rfl
  | cons item items ih =>
    obtain ⟨first, others⟩ := List.forall_mem_cons.mp same
    rw [List.mapM_cons, List.mapM_cons, first, ih others]

/-- A chain along a list succeeds if each of its steps does, and keeps what the steps keep. -/
theorem exists_mapM_eq_ok {ε : Type u} {α : Type w} {β : Type v} {γ : Type x} {items : List α}
    {step : α → Except ε β} {before : α → γ} {after : β → γ}
    (succeeds : ∀ item ∈ items, ∃ result, step item = .ok result ∧ after result = before item) :
    ∃ results, items.mapM step = .ok results ∧ results.map after = items.map before := by
  induction items with
  | nil => exact ⟨[], rfl, rfl⟩
  | cons item items ih =>
    obtain ⟨first, others⟩ := List.forall_mem_cons.mp succeeds
    obtain ⟨result, done, same⟩ := first
    obtain ⟨results, rest, kept⟩ := ih others
    refine ⟨result :: results, ?_, by rw [List.map_cons, List.map_cons, same, kept]⟩
    rw [List.mapM_cons, done, rest]
    rfl

section Failures

variable {ε : Type u} {α β : Type v}

/-- The outcome fails exactly with the fault told, and not at all if none is. -/
def FailsAs (outcome : Except ε α) (told : Option ε) : Prop :=
  ∀ fault, outcome = .error fault ↔ told = some fault

theorem failsAs_ok (value : α) : FailsAs (.ok value : Except ε α) none := fun _ => ⟨nofun, nofun⟩

theorem failsAs_error (fault : ε) : FailsAs (.error fault : Except ε α) (some fault) := by
  intro other
  rw [Except.error.injEq, Option.some.injEq]

theorem FailsAs.eq_none {outcome : Except ε α} {told : Option ε} {value : α}
    (fails : FailsAs outcome told) (done : outcome = .ok value) : told = none := by
  rw [Option.eq_none_iff_forall_ne_some]
  intro fault failed
  rw [(fails fault).mpr failed] at done
  cases done

theorem FailsAs.exists_ok_iff {outcome : Except ε α} {told : Option ε}
    (fails : FailsAs outcome told) : (∃ value, outcome = .ok value) ↔ told = none := by
  cases done : outcome with
  | ok value => exact ⟨fun _ => fails.eq_none done, fun _ => ⟨value, rfl⟩⟩
  | error fault =>
    rw [(fails fault).mp done]
    exact ⟨nofun, nofun⟩

theorem FailsAs.bind {outcome : Except ε α} {next : α → Except ε β} {first second : Option ε}
    (fails : FailsAs outcome first) (later : ∀ value, FailsAs (next value) second) :
    FailsAs (outcome >>= next) (first.or second) := by
  cases done : outcome with
  | ok value =>
    rw [fails.eq_none done, Option.none_or]
    exact later value
  | error fault =>
    rw [(fails fault).mp done, Option.some_or]
    exact failsAs_error fault

theorem failsAs_mapM {ι : Type w} {items : List ι} {step : ι → Except ε β} {told : ι → Option ε}
    (fails : ∀ item ∈ items, FailsAs (step item) (told item)) :
    FailsAs (items.mapM step) (items.findSome? told) := by
  induction items with
  | nil => exact failsAs_ok []
  | cons item items ih =>
    obtain ⟨first, others⟩ := List.forall_mem_cons.mp fails
    have rest (result : β) : FailsAs (items.mapM step >>= fun results => pure (result :: results))
        ((items.findSome? told).or none) := FailsAs.bind (ih others) fun results => failsAs_ok _
    rw [Option.or_none] at rest
    have either : (item :: items).findSome? told = (told item).or (items.findSome? told) := by
      rw [List.findSome?_cons]
      cases told item <;> rfl
    rw [List.mapM_cons, either]
    exact FailsAs.bind first rest

end Failures

end EventStore.Proofs.Outcomes
