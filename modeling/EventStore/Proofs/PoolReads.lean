import EventStore.Proofs.AppendRouting
import EventStore.Proofs.BundleDelivery
import EventStore.Proofs.MemoryConsistency
import EventStore.Proofs.MemoryHistory
import EventStore.Proofs.SelectorContainment

/-! A store that is chosen for a read has received everything that the read asks for. An append
goes to each store whose scope admits it; a scope that covers the selector of a read admits what
the selector does; and stores that share a driver share what was delivered to any of them. -/

namespace EventStore

structure Posting where
  stream : String
  envelope : Envelope
  categories : List String

namespace Posting

def ofAppended (appended : Memory.Appended) : Posting :=
  ⟨appended.stream, appended.envelope, appended.categories⟩

def action (posting : Posting) : Memory.Action :=
  .append posting.stream posting.envelope posting.categories

/-- The posting can be read again once it is stored: its type is registered, its instant is one
that callers can hold, and its payloads nest no deeper and hold no other numbers than can be
decoded. -/
structure Readable (types : TypeHierarchy) (posting : Posting) : Prop where
  declared : types.declares posting.envelope.type = true
  timely : posting.envelope.createdAt.Valid
  data : Record.Decodable posting.envelope.data
  metadata : Record.Decodable posting.envelope.metadata

/-- A store in which only readable appends were played is read to the end of what is asked for. -/
theorem read_of_played {types : TypeHierarchy} {actions : List Memory.Action}
    {history : List Memory.Appended} {memory : Memory} {selector : Selector}
    (played : ({} : Memory).play actions = (history, memory)) (reads : memory.refusesReads = false)
    (timely : ∀ action ∈ actions, action.Timely)
    (readable : ∀ appended ∈ history, (ofAppended appended).Readable types)
    (selectable : selector.checkReadable = .ok ()) :
    ∃ events, (memory.read types selector >>= EventCursor.collect types) = .ok events ∧
      events.map (·.id) = (history.filter fun appended => selector.Admits types appended.stream
        appended.categories appended.envelope.type).map (·.envelope.id) := by
  let asked := history.filter fun appended =>
    selector.Admits types appended.stream appended.categories appended.envelope.type
  have opened : { memory with refusesReads := false } = memory := by rw [← reads]
  have whole : Memory.shown types selector history = asked := by
    rw [Memory.shown, List.takeWhile_eq_self_iff]
    intro appended member
    exact (readable appended (List.mem_of_mem_filter member)).declared
  have answer := @Memory.read_play types selector actions selectable timely
  rw [played] at answer
  simp only [opened, whole] at answer
  rw [answer]
  apply Proofs.Outcomes.exists_mapM_eq_ok
  intro appended member
  have decodable := readable appended (List.mem_of_mem_filter member)
  exact Record.exists_recalled decodable.data decodable.metadata

end Posting

namespace Pool

variable {pool : Pool} {types : TypeHierarchy}

def post (pool : Pool) (types : TypeHierarchy) (backends : Backends) (posting : Posting) :
    Except PoolFault Backends :=
  match pool.appendBundle types posting.stream posting.categories posting.envelope.type with
  | .error fault => .error fault
  | .ok bundle =>
    match bundle.append posting.stream (.storable posting.envelope) posting.categories backends with
    | (.ok _, after) => .ok after
    | (.error fault, _) => .error (.storage fault)

def postAll (pool : Pool) (types : TypeHierarchy) (postings : List Posting) (backends : Backends) :
    Except PoolFault Backends :=
  postings.foldlM (pool.post types) backends

/-- Some store on the driver has a scope that admits the posting. -/
def reaches (pool : Pool) (types : TypeHierarchy) (id : DriverId) (posting : Posting) : Bool :=
  pool.enrolments.any fun enrolment => enrolment.store.driver = id &&
    enrolment.concerning.admits types posting.stream posting.categories posting.envelope.type

theorem reaches_iff {id : DriverId} {posting : Posting} :
    pool.reaches types id posting = true ↔ ∃ enrolment ∈ pool.enrolments,
      enrolment.store.driver = id ∧ enrolment.concerning.admits types posting.stream
        posting.categories posting.envelope.type = true := by
  simp [reaches]

theorem mem_drivers_concerned_iff {id : DriverId} {posting : Posting}
    (single : checkStreamName posting.stream = .ok ()) :
    id ∈ (pool.concerned types
      { stream := posting.stream, categories := posting.categories,
        events := [posting.envelope.type] }).map (·.driver) ↔
      pool.reaches types id posting = true := by
  rw [concerned_append single, reaches_iff, List.map_map, List.mem_map]
  constructor
  · rintro ⟨enrolment, member, same⟩
    obtain ⟨enrolled, admitted⟩ := List.mem_filter.mp member
    exact ⟨enrolment, enrolled, same, admitted⟩
  · rintro ⟨enrolment, enrolled, same, admitted⟩
    exact ⟨enrolment, List.mem_filter.mpr ⟨enrolled, admitted⟩, same⟩

theorem delivered_of_post {posting : Posting} {before after : Backends}
    (held : ∀ enrolment ∈ pool.enrolments, ∃ memory,
      before.driver enrolment.store.driver = .memory memory)
    (posted : pool.post types before posting = .ok after) :
    ∃ stores, (∀ id, id ∈ stores.map (·.driver) ↔ pool.reaches types id posting = true) ∧
      Bundle.Delivered posting.stream posting.envelope posting.categories stores before after := by
  rw [post, appendBundle] at posted
  cases routed : appendSelector posting.stream posting.categories posting.envelope.type with
  | error fault =>
    rw [routed] at posted
    cases posted
  | ok selector =>
    obtain ⟨acceptable, _, rfl⟩ := appendSelector_eq_ok_iff.mp routed
    rw [routed] at posted
    refine ⟨_, fun id => Bundle.mem_drivers_ofStores.trans
      (mem_drivers_concerned_iff acceptable.stream), ?_⟩
    obtain ⟨versions, delivered⟩ : ∃ versions, Bundle.deliver posting.stream posting.envelope
        posting.categories (Bundle.ofStores (pool.concerned types _)).stores before =
          (.ok versions, after) := by
      simp only [readBundle, Bundle.append] at posted
      split at posted
      next versions final outcome =>
        cases posted
        exact ⟨versions, outcome⟩
      next => cases posted
    apply Bundle.delivered_of_deliver (Bundle.nodup_drivers_ofStores _) _ delivered
    intro store member
    obtain ⟨enrolment, enrolled, rfl, _⟩ :=
      mem_concerned_iff.mp (Bundle.mem_of_mem_ofStores member)
    exact held enrolment enrolled

/-- What a driver holds after some postings: the outcome of playing, in their order, those that
reach it, each of which it accepted. -/
structure Holds (pool : Pool) (types : TypeHierarchy) (id : DriverId) (postings : List Posting)
    (memory : Memory) : Prop where
  history : ∃ history : List Memory.Appended,
    history.map Posting.ofAppended = postings.filter (pool.reaches types id) ∧
      ({} : Memory).play ((postings.filter (pool.reaches types id)).map Posting.action) =
        (history, memory)
  consistent : memory.Consistent
  reads : memory.refusesReads = false

def Received (pool : Pool) (types : TypeHierarchy) (postings : List Posting)
    (backends : Backends) : Prop :=
  ∀ enrolment ∈ pool.enrolments, ∃ memory,
    backends.driver enrolment.store.driver = .memory memory ∧
      pool.Holds types enrolment.store.driver postings memory

theorem holds_nothing (id : DriverId) : pool.Holds types id [] {} where
  history := ⟨[], rfl, rfl⟩
  consistent := Memory.consistent_empty
  reads := rfl

theorem Holds.reached {id : DriverId} {postings : List Posting} {memory : Memory}
    (holds : pool.Holds types id postings memory) {posting : Posting} {version : Nat}
    (reaching : pool.reaches types id posting = true)
    (answered : (memory.append posting.stream posting.envelope posting.categories).1 = .ok version) :
    pool.Holds types id (postings ++ [posting])
      (memory.append posting.stream posting.envelope posting.categories).2 where
  history := by
    obtain ⟨history, same, played⟩ := holds.history
    have longer : (postings ++ [posting]).filter (pool.reaches types id) =
        postings.filter (pool.reaches types id) ++ [posting] := by
      rw [List.filter_append, List.filter_cons_of_pos reaching, List.filter_nil]
    refine ⟨history ++ [⟨posting.stream, posting.envelope, posting.categories, version⟩], ?_, ?_⟩
    · rw [longer, List.map_append, same]
      rfl
    · rw [longer, List.map_append, List.map_singleton, Memory.play_concat, played]
      rw [Posting.action, Memory.perform_append_of_ok answered]
      rfl
  consistent := holds.consistent.append _ _ _
  reads := Memory.refusesReads_append.trans holds.reads

theorem Holds.passed {id : DriverId} {postings : List Posting} {memory : Memory}
    (holds : pool.Holds types id postings memory) {posting : Posting}
    (missing : pool.reaches types id posting = false) :
    pool.Holds types id (postings ++ [posting]) memory where
  history := by
    have same : (postings ++ [posting]).filter (pool.reaches types id) =
        postings.filter (pool.reaches types id) := by
      rw [List.filter_append, List.filter_cons_of_neg (by simp [missing]), List.filter_nil,
        List.append_nil]
    rw [same]
    exact holds.history
  consistent := holds.consistent
  reads := holds.reads

theorem Received.post {postings : List Posting} {before after : Backends}
    (received : pool.Received types postings before) {posting : Posting}
    (posted : pool.post types before posting = .ok after) :
    pool.Received types (postings ++ [posting]) after := by
  obtain ⟨stores, routed, delivered⟩ := delivered_of_post
    (fun enrolment enrolled => (received enrolment enrolled).imp fun _ kept => kept.1) posted
  intro enrolment enrolled
  obtain ⟨memory, held, holds⟩ := received enrolment enrolled
  cases reaching : pool.reaches types enrolment.store.driver posting with
  | true =>
    obtain ⟨store, member, same⟩ := List.mem_map.mp ((routed _).mpr reaching)
    rw [← same] at held
    obtain ⟨version, answered, kept⟩ := delivered.reached store member memory held
    rw [same] at kept
    exact ⟨_, kept, holds.reached reaching answered⟩
  | false =>
    have outside : enrolment.store.driver ∉ stores.map (·.driver) := by
      intro member
      rw [(routed _).mp member] at reaching
      cases reaching
    exact ⟨memory, (delivered.others _ outside).trans held, holds.passed reaching⟩

theorem Received.postAll {earlier postings : List Posting} {before after : Backends}
    (received : pool.Received types earlier before)
    (posted : pool.postAll types postings before = .ok after) :
    pool.Received types (earlier ++ postings) after := by
  induction postings generalizing earlier before with
  | nil =>
    cases posted
    rw [List.append_nil]
    exact received
  | cons posting postings ih =>
    rw [Pool.postAll, List.foldlM_cons, Proofs.Outcomes.bind_eq_ok_iff] at posted
    obtain ⟨next, first, others⟩ := posted
    have further := ih (received.post first) others
    rw [List.append_assoc] at further
    exact further

theorem Holds.read {id : DriverId} {postings : List Posting} {memory : Memory}
    (holds : pool.Holds types id postings memory)
    (readable : ∀ posting ∈ postings, posting.Readable types) {selector : Selector}
    (selectable : selector.checkReadable = .ok ()) :
    ∃ events, (memory.read types selector >>= EventCursor.collect types) = .ok events ∧
      events.map (·.id) = ((postings.filter (pool.reaches types id)).filter fun posting =>
        selector.Admits types posting.stream posting.categories posting.envelope.type).map
          (·.envelope.id) ∧
      (events.map (·.id)).Nodup := by
  obtain ⟨history, same, played⟩ := holds.history
  have timely : ∀ action ∈ (postings.filter (pool.reaches types id)).map Posting.action,
      action.Timely := by
    intro action member
    obtain ⟨posting, inside, rfl⟩ := List.mem_map.mp member
    exact (readable posting (List.mem_of_mem_filter inside)).timely
  have known : ∀ appended ∈ history, (Posting.ofAppended appended).Readable types := by
    intro appended member
    apply readable
    apply List.mem_of_mem_filter (p := pool.reaches types id)
    rw [← same]
    exact List.mem_map_of_mem member
  obtain ⟨events, answer, ids⟩ := Posting.read_of_played played holds.reads timely known selectable
  refine ⟨events, answer, ?_, ?_⟩
  · rw [ids, ← same, List.filter_map, List.map_map]
    rfl
  · have records := Memory.records_play {} ((postings.filter (pool.reaches types id)).map Posting.action)
    have distinct := holds.consistent.distinct
    rw [played] at records
    rw [records, List.nil_append, List.map_map] at distinct
    rw [ids]
    exact (List.filter_sublist.map _).nodup distinct

end Pool

namespace Proofs.PoolReads

/-- Whatever is posted to a pool of newly opened drivers, a store that is chosen for a read of at
most one category answers it in full: with the events of all postings that the selector admits, in
the order in which they were posted, and with each of them once. -/
theorem chosen_store_reads_all_asked (pool : Pool) (types : TypeHierarchy)
    (backends after : Backends) (postings : List Posting) (selector : Selector) (store : Store)
    (fresh : ∀ enrolment ∈ pool.enrolments, backends.driver enrolment.store.driver = .memory {})
    (posted : pool.postAll types postings backends = .ok after)
    (readable : ∀ posting ∈ postings, posting.Readable types)
    (valid : selector.Valid) (selectable : selector.checkReadable = .ok ())
    (single : selector.OneCategory) (chosen : store ∈ (pool.readBundle types selector).stores) :
    ∃ events, (after.read types store.driver selector >>= EventCursor.collect types) = .ok events ∧
      events.map (·.id) = (postings.filter fun posting =>
        selector.Admits types posting.stream posting.categories posting.envelope.type).map
          (·.envelope.id) ∧
      (events.map (·.id)).Nodup := by
  obtain ⟨enrolment, enrolled, rfl, covered⟩ :=
    Pool.mem_concerned_iff.mp (Bundle.mem_of_mem_ofStores chosen)
  have initially : pool.Received types [] backends :=
    fun enrolment enrolled => ⟨{}, fresh enrolment enrolled, Pool.holds_nothing _⟩
  obtain ⟨memory, held, holds⟩ := (initially.postAll posted) enrolment enrolled
  rw [List.nil_append] at holds
  -- The scope of the store covers what is asked for, so all of it has reached the driver.
  have every : (postings.filter (pool.reaches types enrolment.store.driver)).filter
      (fun posting => selector.Admits types posting.stream posting.categories posting.envelope.type) =
      postings.filter fun posting =>
        selector.Admits types posting.stream posting.categories posting.envelope.type := by
    rw [List.filter_filter]
    apply List.filter_congr
    intro posting _
    rw [Bool.and_eq_left_iff_imp, decide_eq_true_eq]
    intro asked
    apply Pool.reaches_iff.mpr
    refine ⟨enrolment, enrolled, rfl, ?_⟩
    exact Selector.admits_of_covers valid covered (.inl single) (Selector.admits_iff.mpr asked)
  have answer : after.read types enrolment.store.driver selector = memory.read types selector := by
    rw [Backends.read, held]
  rw [answer, ← every]
  exact holds.read readable selectable

/-- Two of three stores share a driver. The chosen one is on the other driver, and is handed one
of the two events of the stream that the selector names. -/
theorem chosen_store_reads_all_asked_shared :
    let types : TypeHierarchy := ⟨[⟨"Placed", ["Order"]⟩, ⟨"Order", []⟩], by simp [Layered]⟩
    let pool : Pool := { enrolments :=
      [⟨.all, ⟨"audit", 0⟩⟩, ⟨{ stream := "orders/*" }, ⟨"orders", 0⟩⟩,
        ⟨{ categories := ["billing", "tax"] }, ⟨"billing", 1⟩⟩] }
    let backends : Backends := { drivers := [.memory {}, .memory {}] }
    let placed : Envelope :=
      { type := "Placed", id := "e1", data := some (.array [.number (.integer 3)]) }
    let postings : List Posting :=
      [⟨"orders/1", placed, ["billing"]⟩, ⟨"orders/1", { type := "Order", id := "e2" }, []⟩,
        ⟨"users/1", { type := "Order", id := "e3" }, ["billing"]⟩]
    let selector : Selector := { stream := "orders/*", categories := ["billing"], events := ["Order"] }
    let store : Store := ⟨"billing", 1⟩
    (∀ enrolment ∈ pool.enrolments, backends.driver enrolment.store.driver = .memory {}) ∧
      (∀ posting ∈ postings, posting.Readable types) ∧ selector.Valid ∧
      selector.checkReadable = .ok () ∧ selector.OneCategory ∧
      store ∈ (pool.readBundle types selector).stores ∧
      ∃ after, pool.postAll types postings backends = .ok after ∧
        ∃ events, (after.read types store.driver selector >>= EventCursor.collect types) = .ok events ∧
          events.map (·.id) = ["e1"] := by
  intro types pool backends placed postings selector store
  have fresh : ∀ enrolment ∈ pool.enrolments,
      backends.driver enrolment.store.driver = .memory {} := by
    simp only [pool, List.forall_mem_cons]
    exact ⟨rfl, rfl, rfl, by simp⟩
  have epoch : Instant.epoch.Valid := ⟨by decide +kernel, by decide, by decide⟩
  have none : Record.Decodable none := ⟨none, rfl⟩
  have shallow : Record.Decodable placed.data := by
    rw [Record.decodable_iff]
    rintro value ⟨⟩
    have back := Json.reread_of_exact (.array [.number (.integer 3)])
      ⟨Json.reread_integer (by decide) (by decide), trivial⟩
    exact ⟨by decide +kernel, _, back⟩
  have readable : ∀ posting ∈ postings, posting.Readable types := by
    simp only [postings, List.forall_mem_cons]
    exact ⟨⟨by decide +kernel, epoch, shallow, none⟩, ⟨by decide +kernel, epoch, none, none⟩,
      ⟨by decide +kernel, epoch, none, none⟩, by simp⟩
  have checked : selector.check = .ok selector := by decide +kernel
  have valid := (Selector.check_eq_ok_iff.mp checked).2
  have selectable : selector.checkReadable = .ok () := by decide +kernel
  have single : selector.OneCategory := by simp [Selector.OneCategory, selector]
  have chosen : store ∈ (pool.readBundle types selector).stores := by decide +kernel
  have succeeds : (pool.postAll types postings backends).isOk = true := by decide +kernel
  refine ⟨fresh, readable, valid, selectable, single, chosen, ?_⟩
  cases posted : pool.postAll types postings backends with
  | error fault =>
    rw [posted] at succeeds
    cases succeeds
  | ok after =>
    obtain ⟨events, read, ids, _⟩ := chosen_store_reads_all_asked pool types backends after postings
      selector store fresh posted readable valid selectable single chosen
    refine ⟨after, rfl, events, read, ids.trans ?_⟩
    decide +kernel

end Proofs.PoolReads
end EventStore
