import EventStore.Proofs.MemorySteps
import EventStore.Proofs.RecordDecoding
import EventStore.Proofs.SelectorAdmission

/-! A read gives back the history of appends. Whatever was tried before, the records are those of
the appends that succeeded, so reading shows the admitted ones in their order. -/

namespace EventStore.Memory
open Record (Acceptable)

inductive Action
  | append (stream : String) (envelope : Envelope) (categories : List String)
  | refuseAppends (refused : Bool)
  | refuseReads (refused : Bool)

structure Appended where
  stream : String
  envelope : Envelope
  categories : List String
  version : Nat

namespace Appended

def record (appended : Appended) : Record :=
  { Record.prepared appended.stream appended.envelope appended.categories with version := appended.version }

/-- The event as a read returns it, or the failure that ends the read. -/
def recalled (appended : Appended) : Except StorageFault Envelope :=
  Record.recalled appended.envelope appended.version

def kept (appended : Appended) : Envelope := Record.kept appended.envelope appended.version

end Appended

def Action.Timely : Action → Prop
  | .append _ envelope _ => envelope.createdAt.Valid
  | _ => True

def perform (memory : Memory) : Action → Option Appended × Memory
  | .append stream envelope categories =>
    let answered := memory.append stream envelope categories
    match answered.1 with
    | .ok version => (some { stream, envelope, categories, version }, answered.2)
    | .error _ => (none, answered.2)
  | .refuseAppends refused => (none, { memory with refusesAppends := refused })
  | .refuseReads refused => (none, { memory with refusesReads := refused })

/-- The appends that succeed among some actions, and the store they leave. -/
def play (memory : Memory) : List Action → List Appended × Memory
  | [] => ([], memory)
  | action :: actions =>
    let performed := memory.perform action
    let played := play performed.2 actions
    (performed.1.toList ++ played.1, played.2)

theorem perform_spec (memory : Memory) (action : Action) :
    (memory.perform action).2.records =
        memory.records ++ (memory.perform action).1.toList.map Appended.record ∧
      ∀ appended ∈ (memory.perform action).1,
        Acceptable appended.stream appended.categories ∧
          action = .append appended.stream appended.envelope appended.categories := by
  cases action with
  | refuseAppends refused => simp [perform]
  | refuseReads refused => simp [perform]
  | append stream envelope categories =>
    rcases memory.append_cases stream envelope categories with
      ⟨_, outcome⟩ | ⟨_, _, _, outcome⟩ | ⟨_, _, _, outcome⟩ | ⟨_, acceptable, _, outcome⟩
    · simp [perform, outcome]
    · simp [perform, outcome]
    · simp [perform, outcome]
    · simp only [perform, outcome]
      refine ⟨rfl, ?_⟩
      rintro appended ⟨rfl⟩
      exact ⟨acceptable, rfl⟩

theorem records_play (memory : Memory) (actions : List Action) :
    (memory.play actions).2.records =
      memory.records ++ (memory.play actions).1.map Appended.record := by
  induction actions generalizing memory with
  | nil => simp [play]
  | cons action actions ih =>
    rw [play, ih, (memory.perform_spec action).1, List.map_append, List.append_assoc]

theorem mem_play {memory : Memory} {actions : List Action} {appended : Appended}
    (member : appended ∈ (memory.play actions).1) :
    Acceptable appended.stream appended.categories ∧
      .append appended.stream appended.envelope appended.categories ∈ actions := by
  induction actions generalizing memory with
  | nil => cases member
  | cons action actions ih =>
    rw [play] at member
    rcases List.mem_append.mp member with now | later
    · obtain ⟨acceptable, same⟩ := (memory.perform_spec action).2 appended (by simpa using now)
      exact ⟨acceptable, same ▸ List.mem_cons_self⟩
    · obtain ⟨acceptable, inside⟩ := ih later
      exact ⟨acceptable, List.mem_cons_of_mem _ inside⟩

theorem play_concat (memory : Memory) (actions : List Action) (action : Action) :
    memory.play (actions ++ [action]) =
      ((memory.play actions).1 ++ ((memory.play actions).2.perform action).1.toList,
        ((memory.play actions).2.perform action).2) := by
  induction actions generalizing memory with
  | nil => simp [play]
  | cons first others ih =>
    rw [List.cons_append, play, play, ih, List.append_assoc]

theorem perform_append_of_ok {memory : Memory} {stream : String} {envelope : Envelope}
    {categories : List String} {version : Nat}
    (answered : (memory.append stream envelope categories).1 = .ok version) :
    memory.perform (.append stream envelope categories) =
      (some { stream, envelope, categories, version },
        (memory.append stream envelope categories).2) := by
  simp [perform, answered]

/-- The appends that a read shows: those admitted, up to the first of an unregistered type. -/
def shown (types : TypeHierarchy) (selector : Selector) (history : List Appended) : List Appended :=
  (history.filter fun appended =>
      selector.Admits types appended.stream appended.categories appended.envelope.type).takeWhile
    fun appended => types.declares appended.envelope.type

theorem select_play (types : TypeHierarchy) (selector : Selector) (actions : List Action) :
    (({} : Memory).play actions).2.select types selector =
      ((({} : Memory).play actions).1.filter fun appended => selector.Admits types
        appended.stream appended.categories appended.envelope.type).map Appended.record := by
  have records : (({} : Memory).play actions).2.records =
      (({} : Memory).play actions).1.map Appended.record := records_play {} actions
  rw [select, records, List.filter_map]
  congr 1
  refine List.filter_congr fun appended member => ?_
  obtain ⟨acceptable, _⟩ := mem_play member
  have categories : appended.record.categoryList = appended.categories :=
    Record.categoryList_prepared appended.envelope acceptable
  rw [Function.comp_apply, selects, categories, Bool.eq_iff_iff, decide_eq_true_eq]
  exact Selector.admits_iff

theorem decoded_records (types : TypeHierarchy) (records : List Record) :
    (EventCursor.decoded types (records.map .ok)).mapM id =
      (records.takeWhile fun record => types.declares record.name).mapM Record.decode := by
  induction records with
  | nil => rfl
  | cons record records ih =>
    rw [List.map_cons, EventCursor.decoded, List.takeWhile_cons]
    cases types.declares record.name with
    | false => rfl
    | true =>
      simp only [if_true, List.mapM_cons, ← ih]
      cases record.decode with
      | error fault => rfl
      | ok current =>
        dsimp only
        rw [List.mapM_cons]
        rfl

theorem collect_start (types : TypeHierarchy) (name : String) (records : List Record) :
    (EventCursor.start types name (records.map .ok) >>= EventCursor.collect types) =
      (records.takeWhile fun record => types.declares record.name).mapM Record.decode := by
  cases records with
  | nil => rfl
  | cons record records =>
    rw [List.map_cons, EventCursor.start, EventCursor.next, List.takeWhile_cons]
    cases types.declares record.name with
    | false => rfl
    | true =>
      simp only [if_true, List.mapM_cons, ← decoded_records]
      cases record.decode with
      | error fault => rfl
      | ok current =>
        change (.ok current :: EventCursor.decoded types (records.map .ok)).mapM id = _
        rw [List.mapM_cons]
        rfl

theorem read_play {types : TypeHierarchy} {selector : Selector} {actions : List Action}
    (readable : selector.checkReadable = .ok ())
    (timely : ∀ action ∈ actions, action.Timely) :
    (({ (({} : Memory).play actions).2 with refusesReads := false }.read types selector) >>=
        EventCursor.collect types) =
      (shown types selector (({} : Memory).play actions).1).mapM Appended.recalled := by
  have recalls : ∀ appended ∈ shown types selector (({} : Memory).play actions).1,
      appended.record.decode = appended.recalled := by
    intro appended member
    have inside := (List.mem_filter.mp ((List.takeWhile_subset _) member)).1
    exact Record.decode_prepared (timely _ (mem_play inside).2) appended.version
  have opened : { (({} : Memory).play actions).2 with refusesReads := false }.read types selector =
      EventCursor.start types selector.toText
        (((({} : Memory).play actions).2.select types selector).map .ok) := by
    rw [read, readable]
    rfl
  rw [opened, collect_start, select_play, List.takeWhile_map, List.mapM_map]
  exact Proofs.Outcomes.mapM_congr recalls

/-- Storing the event loses nothing but what a record does not tell apart. -/
def Appended.Legible (appended : Appended) : Prop :=
  Record.Legible appended.envelope.data ∧ Record.Legible appended.envelope.metadata

/-- After any actions, a read of the store returns exactly the admitted appends that succeeded, in
their order and each once, up to the first of an unregistered type. Every event comes back as
recalled, which for all legible payloads is as it was appended, under its version and to the
microsecond. A payload that cannot be read back ends the read with that failure. -/
theorem read_returns_history (types : TypeHierarchy) (selector : Selector) (actions : List Action)
    (readable : selector.checkReadable = .ok ()) (timely : ∀ action ∈ actions, action.Timely) :
    let played := ({} : Memory).play actions
    let history := shown types selector played.1
    let answer := { played.2 with refusesReads := false }.read types selector >>=
      EventCursor.collect types
    answer = history.mapM Appended.recalled ∧
      ((∀ appended ∈ history, appended.Legible) → answer = .ok (history.map Appended.kept)) := by
  intro played history answer
  have recalled : answer = history.mapM Appended.recalled := read_play readable timely
  refine ⟨recalled, fun legible => ?_⟩
  have kept : ∀ appended ∈ history, appended.recalled = pure appended.kept := fun appended member =>
    Record.recalled_of_legible (legible appended member).1 (legible appended member).2
  rw [recalled, Proofs.Outcomes.mapM_congr kept, List.mapM_pure]
  rfl

/-- Appends are refused for a while, an identifier is used twice, and a type is not registered. -/
theorem read_returns_history_retried :
    let types : TypeHierarchy := ⟨[⟨"Placed", []⟩], by simp [Layered]⟩
    let placed : Envelope := { type := "Placed", id := "e1", data := some (.bool true) }
    let actions : List Action :=
      [.refuseAppends true, .append "shop" placed ["orders"], .refuseAppends false,
        .append "shop" placed ["orders"], .append "shop" placed [],
        .append "shop" { type := "Moved", id := "e2" } ["orders"]]
    let selector : Selector := { stream := "sh*", categories := ["orders"] }
    let played := ({} : Memory).play actions
    let history := shown types selector played.1
    selector.checkReadable = .ok () ∧ (∀ action ∈ actions, action.Timely) ∧
      ({ played.2 with refusesReads := false }.read types selector >>=
        EventCursor.collect types) = .ok (history.map Appended.kept) := by
  intro types placed actions selector played history
  have readable : selector.checkReadable = .ok () := by decide +kernel
  have epoch : Instant.epoch.Valid := ⟨by decide +kernel, by decide, by decide⟩
  have timely : ∀ action ∈ actions, action.Timely := by
    simp only [actions, List.forall_mem_cons]
    exact ⟨trivial, epoch, trivial, epoch, epoch, epoch, by simp⟩
  have legible : ∀ appended ∈ history, appended.Legible := by
    intro appended member
    have inside := (mem_play (List.mem_filter.mp ((List.takeWhile_subset _) member)).1).2
    have bool : Record.Legible (some (.bool true)) := by simp [Record.Legible, Json.depth, Json.Exact]
    have none : Record.Legible none := by simp [Record.Legible]
    simp only [actions, List.mem_cons, List.not_mem_nil, reduceCtorEq, false_or, or_false,
      Action.append.injEq] at inside
    rcases inside with ⟨_, same, _⟩ | ⟨_, same, _⟩ | ⟨_, same, _⟩ | ⟨_, same, _⟩
    all_goals rw [Appended.Legible, same]
    · exact ⟨bool, none⟩
    · exact ⟨bool, none⟩
    · exact ⟨bool, none⟩
    · exact ⟨none, none⟩
  exact ⟨readable, timely, (read_returns_history types selector actions readable timely).2 legible⟩

theorem read_single {types : TypeHierarchy} {stream : String} {envelope : Envelope}
    {categories : List String} (acceptable : Acceptable stream categories)
    (timely : envelope.createdAt.Valid) (declared : types.declares envelope.type = true) :
    (({ (({} : Memory).play [.append stream envelope categories]).2 with
        refusesReads := false }.read types .all) >>= EventCursor.collect types) =
      (Record.recalled envelope 0).map ([·]) := by
  have history : (({} : Memory).play [.append stream envelope categories]).1 =
      [⟨stream, envelope, categories, 0⟩] := by
    have encoded : Record.encode stream envelope categories =
        .ok (Record.prepared stream envelope categories) :=
      Record.encode_eq_ok_iff.mpr ⟨acceptable, rfl⟩
    have appended : ({} : Memory).append stream envelope categories =
        (.ok 0, { records := [Record.prepared stream envelope categories] }) := by
      rw [append, encoded]
      rfl
    simp [play, perform, appended]
  have shownAll : shown types .all [⟨stream, envelope, categories, 0⟩] =
      [⟨stream, envelope, categories, 0⟩] := by
    have admitted : Selector.all.Admits types stream categories envelope.type := .inl rfl
    simp [shown, admitted, declared]
  have timelyActions : ∀ action ∈ [Action.append stream envelope categories], action.Timely := by
    rintro action ⟨⟩
    · exact timely
    · contradiction
  rw [read_play rfl timelyActions, history, shownAll, List.mapM_cons, List.mapM_nil]
  change (Record.recalled envelope 0 >>= fun first => .ok [first]) = _
  cases Record.recalled envelope 0 <;> rfl

/-- Not every payload comes back: a double just below `1.2e24` is read one unit in the last place
above itself, and one level of nesting too many ends the read with a failure. -/
theorem read_changes_payloads :
    let types : TypeHierarchy := ⟨[⟨"Placed", []⟩], by simp [Layered]⟩
    let answer (data : Json) :=
      let actions := [Action.append "shop" { type := "Placed", id := "e1", data := some data } []]
      { (({} : Memory).play actions).2 with refusesReads := false }.read types .all >>=
        EventCursor.collect types
    let double (significand : Nat) : Json := .number (.decimal false ⟨significand, 27⟩)
    let nested : Json := Nat.repeat (fun value => .array [value]) 128 .null
    (answer (double 8940696716308593)).map (·.map (·.data)) =
        .ok [some (double 8940696716308594)] ∧
      double 8940696716308594 ≠ double 8940696716308593 ∧
      answer nested = .error (.serialization nested.toText) := by
  intro types answer double nested
  have acceptable : Acceptable "shop" [] := ⟨by decide +kernel, by simp⟩
  have epoch : Instant.epoch.Valid := ⟨by decide +kernel, by decide, by decide⟩
  have declared : types.declares "Placed" = true := by decide +kernel
  have single (data : Json) : answer data =
      (Record.recalled { type := "Placed", id := "e1", data := some data } 0).map ([·]) :=
    read_single acceptable epoch declared
  have beside : (Json.Number.decimal false ⟨8940696716308593, 27⟩).reread =
      some (.decimal false ⟨8940696716308594, 27⟩) := by decide +kernel
  refine ⟨?_, by simp [double], ?_⟩
  · rw [single]
    simp only [Record.recalled, Record.recalledPayload, Record.present, double, Json.rereadWithin,
      Json.depth, Json.reread, beside]
    rfl
  · have whole : Record.present (some nested) = some nested := rfl
    have tooDeep : Json.rereadWithin Json.maximumDepth nested = none :=
      if_neg (by decide +kernel)
    rw [single]
    simp only [Record.recalled, Record.recalledPayload, whole, tooDeep]
    rfl

end EventStore.Memory
