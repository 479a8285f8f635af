import EventStore.Proofs.DecimalReading
import EventStore.Proofs.MemoryHistory

/-! Which histories can be read. Whatever payloads were appended, their numbers are read again, so
nothing but one nested too deep ends a read, and from then on it ends every read that comes to it. -/

namespace EventStore
open Proofs.Outcomes

namespace Record

/-- What a payload can be: members in the order of their names, and numbers as values hold them. -/
def Held (payload : Option Json) : Prop := ∀ value ∈ payload, value.WellFormed Json.Number.Representable

def tooDeep? (payload : Option Json) : Option StorageFault :=
  payload.bind fun value =>
    if value.depth ≤ Json.maximumDepth then none else some (.serialization value.toText)

theorem held_nested (levels : Nat) :
    Held (some (Nat.repeat (fun value => Json.array [value]) levels .null)) := by
  rintro value ⟨⟩
  induction levels with
  | zero => trivial
  | succ levels ih => exact ⟨ih, trivial⟩

theorem tooDeep?_eq_none_iff {payload : Option Json} :
    tooDeep? payload = none ↔ ∀ value ∈ payload, value.depth ≤ Json.maximumDepth := by
  cases payload with
  | none => simp [tooDeep?]
  | some value => simp [tooDeep?]

theorem tooDeep?_of_absent {payload : Option Json} (absent : present payload = none) :
    tooDeep? payload = none := by
  unfold present at absent
  split at absent
  next => rfl
  next => rw [absent]; rfl

theorem eq_of_present {payload : Option Json} {value : Json} (kept : present payload = some value) :
    payload = some value := by
  unfold present at kept
  split at kept
  next => cases kept
  next => exact kept

/-- Both sides look at the depth alone, as every number that a payload can hold is read again. -/
theorem recalledPayload_fails {payload : Option Json} (held : Held payload) :
    FailsAs (recalledPayload payload) (tooDeep? payload) := by
  rw [recalledPayload]
  cases kept : present payload with
  | none =>
    rw [tooDeep?_of_absent kept]
    exact failsAs_ok none
  | some value =>
    obtain rfl := eq_of_present kept
    obtain ⟨back, read⟩ := Json.exists_reread (fun _ => Json.Number.Representable.exists_reread)
      value (held value rfl)
    rw [tooDeep?, Option.bind_some]
    dsimp only
    rw [Json.rereadWithin]
    by_cases shallow : value.depth ≤ Json.maximumDepth
    · rw [if_pos shallow, if_pos shallow, read]
      exact failsAs_ok (some back)
    · rw [if_neg shallow, if_neg shallow]
      exact failsAs_error _

end Record

namespace Memory
open Record (Held tooDeep?)

def Action.Held : Action → Prop
  | .append _ envelope _ =>
    envelope.createdAt.Valid ∧ Record.Held envelope.data ∧ Record.Held envelope.metadata
  | _ => True

theorem Action.Held.timely {action : Action} (held : action.Held) : action.Timely := by
  cases action with
  | append stream envelope categories => exact held.1
  | refuseAppends refused => trivial
  | refuseReads refused => trivial

namespace Appended

def Shallow (appended : Appended) : Prop :=
  (∀ value ∈ appended.envelope.data, value.depth ≤ Json.maximumDepth) ∧
    ∀ value ∈ appended.envelope.metadata, value.depth ≤ Json.maximumDepth

/-- The failure of reading an event back, of its data before its metadata. -/
def unreadable? (appended : Appended) : Option StorageFault :=
  (tooDeep? appended.envelope.data).or (tooDeep? appended.envelope.metadata)

theorem unreadable?_eq_none_iff {appended : Appended} :
    appended.unreadable? = none ↔ appended.Shallow := by
  rw [unreadable?, Option.or_eq_none_iff, Record.tooDeep?_eq_none_iff, Record.tooDeep?_eq_none_iff]
  rfl

theorem recalled_fails {appended : Appended} (data : Held appended.envelope.data)
    (metadata : Held appended.envelope.metadata) :
    FailsAs appended.recalled appended.unreadable? := by
  rw [recalled, Record.recalled, unreadable?]
  apply FailsAs.bind (Record.recalledPayload_fails data)
  intro present
  rw [← @Option.or_none _ (tooDeep? appended.envelope.metadata)]
  exact FailsAs.bind (Record.recalledPayload_fails metadata) fun _ => failsAs_ok _

end Appended

def readAfter (types : TypeHierarchy) (selector : Selector) (actions : List Action) :
    Except StorageFault (List Envelope) :=
  { (({} : Memory).play actions).2 with refusesReads := false }.read types selector >>=
    EventCursor.collect types

variable {types : TypeHierarchy} {selector : Selector} {actions : List Action}

theorem readAfter_fails (readable : selector.checkReadable = .ok ())
    (held : ∀ action ∈ actions, action.Held) :
    FailsAs (readAfter types selector actions)
      ((shown types selector (({} : Memory).play actions).1).findSome? Appended.unreadable?) := by
  rw [readAfter, read_play readable fun action member => (held action member).timely]
  apply failsAs_mapM
  intro appended member
  have inside := (List.mem_filter.mp ((List.takeWhile_subset _) member)).1
  obtain ⟨_, data, metadata⟩ := held _ (mem_play inside).2
  exact Appended.recalled_fails data metadata

theorem play_append (memory : Memory) (earlier later : List Action) :
    (memory.play (earlier ++ later)).1 =
      (memory.play earlier).1 ++ ((memory.play earlier).2.play later).1 := by
  induction earlier generalizing memory with
  | nil => rfl
  | cons action earlier ih =>
    rw [List.cons_append, play, play, ih, List.append_assoc]

theorem shown_append (history later : List Appended) :
    ∃ more, shown types selector (history ++ later) = shown types selector history ++ more := by
  rw [shown, List.filter_append, List.takeWhile_append]
  split
  next all =>
    rw [shown]
    exact ⟨_, by rw [List.IsPrefix.eq_of_length (List.takeWhile_prefix _) all]⟩
  next => exact ⟨[], (List.append_nil _).symm⟩

end Memory

namespace Proofs.ReadableHistory
open Memory

/-- A read fails exactly if it comes to an event nested too deep, with the failure of the first of
them, and it succeeds otherwise. What was accepted is not taken back, so whatever happens later,
the read fails in the same way. -/
theorem read_fails_on_deep_payloads (types : TypeHierarchy) (selector : Selector)
    (actions : List Action) (readable : selector.checkReadable = .ok ())
    (held : ∀ action ∈ actions, action.Held) :
    let history := shown types selector (({} : Memory).play actions).1
    (∀ fault, readAfter types selector actions = .error fault ↔
      history.findSome? Appended.unreadable? = some fault) ∧
    ((∃ events, readAfter types selector actions = .ok events) ↔
      ∀ appended ∈ history, appended.Shallow) ∧
    ∀ fault, readAfter types selector actions = .error fault →
      ∀ later, (∀ action ∈ later, action.Held) →
        readAfter types selector (actions ++ later) = .error fault := by
  intro history
  have fails : FailsAs (readAfter types selector actions) _ := readAfter_fails readable held
  refine ⟨fails, ?_, ?_⟩
  · rw [fails.exists_ok_iff, List.findSome?_eq_none_iff]
    simp only [Appended.unreadable?_eq_none_iff]
    rfl
  · intro fault failed later heldLater
    have all : ∀ action ∈ actions ++ later, action.Held :=
      List.forall_mem_append.mpr ⟨held, heldLater⟩
    obtain ⟨more, grown⟩ := @shown_append types selector (({} : Memory).play actions).1
      ((({} : Memory).play actions).2.play later).1
    rw [readAfter_fails readable all fault, play_append, grown, List.findSome?_append,
      (fails fault).mp failed, Option.some_or]

/-- An array of the greatest depth is read, and one around it is not, then or later. -/
theorem read_fails_on_deep_payloads_nested :
    let types : TypeHierarchy := ⟨[⟨"Placed", []⟩], by simp [Layered]⟩
    let nested (levels : Nat) : Json := Nat.repeat (fun value => .array [value]) levels .null
    let first : Action := .append "shop" { type := "Placed", id := "e1", data := some (nested 127) } []
    let second : Action := .append "shop" { type := "Placed", id := "e2", data := some (nested 128) } []
    (Selector.all.checkReadable = .ok () ∧ ∀ action ∈ [first, second], action.Held) ∧
      (∃ events, readAfter types .all [first] = .ok events) ∧
      ∀ later, (∀ action ∈ later, action.Held) →
        readAfter types .all ([first, second] ++ later) = .error (.serialization (nested 128).toText) := by
  intro types nested first second
  have epoch : Instant.epoch.Valid := ⟨by decide +kernel, by decide, by decide⟩
  have none : Record.Held none := by simp [Record.Held]
  have heldFirst : ∀ action ∈ [first], action.Held := by
    rw [List.forall_mem_singleton]
    exact ⟨epoch, Record.held_nested 127, none⟩
  have held : ∀ action ∈ [first, second], action.Held := by
    rw [List.forall_mem_cons, List.forall_mem_singleton]
    exact ⟨⟨epoch, Record.held_nested 127, none⟩, epoch, Record.held_nested 128, none⟩
  have shallow : ∀ appended ∈ shown types .all (({} : Memory).play [first]).1,
      appended.unreadable? = .none := by decide +kernel
  have deep : (shown types .all (({} : Memory).play [first, second]).1).findSome?
      Appended.unreadable? = some (.serialization (nested 128).toText) := by decide +kernel
  have readable : Selector.all.checkReadable = .ok () := rfl
  obtain ⟨_, reads, _⟩ := read_fails_on_deep_payloads types .all [first] readable heldFirst
  obtain ⟨fails, _, stays⟩ := read_fails_on_deep_payloads types .all [first, second] readable held
  refine ⟨⟨readable, held⟩, reads.mpr ?_, stays _ ((fails _).mpr deep)⟩
  intro appended member
  exact Appended.unreadable?_eq_none_iff.mp (shallow appended member)

/-- An append is accepted and kept with a payload that no read gives back. -/
theorem accepted_payload_ends_reads :
    let types : TypeHierarchy := ⟨[⟨"Placed", []⟩], by simp [Layered]⟩
    let nested : Json := Nat.repeat (fun value => .array [value]) 128 .null
    let envelope : Envelope := { type := "Placed", id := "e1", data := some nested }
    let appended := ({} : Memory).append "shop" envelope []
    appended.1 = .ok 0 ∧ appended.2.records.map (·.data) = [some nested.toText] ∧
      Selector.all.checkReadable = .ok () ∧ (Action.append "shop" envelope []).Held ∧
      readAfter types .all [.append "shop" envelope []] = .error (.serialization nested.toText) := by
  intro types nested envelope appended
  have epoch : Instant.epoch.Valid := ⟨by decide +kernel, by decide, by decide⟩
  have held : (Action.append "shop" envelope []).Held :=
    ⟨epoch, Record.held_nested 128, by simp [Record.Held, envelope]⟩
  have alone : ∀ action ∈ [Action.append "shop" envelope []], action.Held :=
    List.forall_mem_singleton.mpr held
  have deep : (shown types .all (({} : Memory).play [.append "shop" envelope []]).1).findSome?
      Appended.unreadable? = some (.serialization nested.toText) := by decide +kernel
  exact ⟨by decide +kernel, by decide +kernel, rfl, held, (readAfter_fails rfl alone _).mpr deep⟩

end Proofs.ReadableHistory
end EventStore
