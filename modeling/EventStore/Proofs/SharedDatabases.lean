import EventStore.Proofs.DatabaseDelivery
import EventStore.Proofs.PoolOpening
import EventStore.Proofs.PoolReads

/-! Databases that several drivers of a pool work on. A bundle leaves out stores with one driver,
but not stores with one database: settings that name the same file and differ in anything else
open it twice, and an append that is routed to both repeats itself. -/

namespace EventStore

namespace Pool

/-- Routes an append and delivers it. What was written before a failure stays written. -/
def submit (pool : Pool) (types : TypeHierarchy) (backends : Backends) (posting : Posting) :
    Except PoolFault (List (Option Nat)) × Backends :=
  match pool.appendBundle types posting.stream posting.categories posting.envelope.type with
  | .error fault => (.error fault, backends)
  | .ok bundle =>
    let (answer, after) :=
      bundle.append posting.stream (.storable posting.envelope) posting.categories backends
    (answer.mapError .storage, after)

def submitAll (pool : Pool) (types : TypeHierarchy) (postings : List Posting)
    (backends : Backends) : Backends :=
  postings.foldl (fun backends posting => (pool.submit types backends posting).2) backends

/-- Of the stores that the posting is routed to, one is reached after another on its database. -/
def Clashes (pool : Pool) (types : TypeHierarchy) (before : Backends) (posting : Posting) : Prop :=
  ∃ bundle, pool.appendBundle types posting.stream posting.categories posting.envelope.type =
      .ok bundle ∧
    Bundle.Clashes posting.stream posting.envelope posting.categories bundle.stores before

variable {pool : Pool} {types : TypeHierarchy} {before : Backends} {posting : Posting}

theorem submit_cases (pool : Pool) (types : TypeHierarchy) (before : Backends)
    (posting : Posting) :
    (∃ fault, pool.appendBundle types posting.stream posting.categories posting.envelope.type =
        .error (.selector fault) ∧
      pool.submit types before posting = (.error (.selector fault), before)) ∨
    ∃ selector, pool.appendBundle types posting.stream posting.categories posting.envelope.type =
        .ok (pool.readBundle types selector) ∧
      pool.submit types before posting =
        ((Bundle.deliver posting.stream posting.envelope posting.categories
            (pool.readBundle types selector).stores before).1.mapError .storage,
          (Bundle.deliver posting.stream posting.envelope posting.categories
            (pool.readBundle types selector).stores before).2) := by
  rw [submit, appendBundle]
  cases routed : appendSelector posting.stream posting.categories posting.envelope.type with
  | error fault => exact .inl ⟨fault, rfl, rfl⟩
  | ok selector => exact .inr ⟨selector, rfl, rfl⟩

theorem alike_submit (pool : Pool) (types : TypeHierarchy) (before : Backends)
    (posting : Posting) : before.Alike (pool.submit types before posting).2 := by
  rcases pool.submit_cases types before posting with ⟨_, _, outcome⟩ | ⟨_, _, outcome⟩
  · rw [outcome]
    exact .refl before
  · rw [outcome]
    exact Bundle.alike_deliver _ before

theorem free_submit {held : String} (free : before.Free held)
    (different : posting.envelope.id ≠ held) :
    (pool.submit types before posting).2.Free held := by
  rcases pool.submit_cases types before posting with ⟨_, _, outcome⟩ | ⟨_, _, outcome⟩
  · rw [outcome]
    exact free
  · rw [outcome]
    exact Bundle.free_deliver free different

theorem oneMore_submit (pool : Pool) (types : TypeHierarchy) (before : Backends)
    (posting : Posting) :
    before.OneMore (pool.submit types before posting).2 posting.envelope.id := by
  rcases pool.submit_cases types before posting with ⟨_, _, outcome⟩ | ⟨_, _, outcome⟩
  · rw [outcome]
    exact fun _ => .inl rfl
  · rw [outcome]
    exact Bundle.oneMore_deliver _ before

theorem submit_repeats_iff {held : String} (free : before.Free posting.envelope.id)
    (known : ∀ id index access, before.driver id = .table index access →
      index < before.databases.length) :
    (pool.submit types before posting).1 = .error (.storage (.duplicateEvent held)) ↔
      held = posting.envelope.id ∧ pool.Clashes types before posting := by
  rcases pool.submit_cases types before posting with
    ⟨fault, routed, outcome⟩ | ⟨selector, routed, outcome⟩
  · rw [outcome]
    refine iff_of_false nofun ?_
    rintro ⟨_, bundle, also, _⟩
    rw [routed] at also
    cases also
  · have failed (answer : Except StorageFault (List (Option Nat))) (fault : StorageFault) :
        answer.mapError PoolFault.storage = .error (.storage fault) ↔ answer = .error fault := by
      cases answer <;> simp [Except.mapError]
    have distinct : ((pool.readBundle types selector).stores.map (·.driver)).Nodup :=
      Bundle.nodup_drivers_ofStores _
    rw [outcome, failed, Bundle.deliver_repeats_iff distinct free known]
    apply and_congr_right
    intro _
    constructor
    · intro clashes
      exact ⟨_, routed, clashes⟩
    · rintro ⟨bundle, also, clashes⟩
      rw [routed] at also
      cases also
      exact clashes

theorem Clashes.holds (clashes : pool.Clashes types before posting)
    (known : ∀ id index access, before.driver id = .table index access →
      index < before.databases.length) :
    ∃ index, (pool.submit types before posting).2.Holds index posting.envelope.id := by
  obtain ⟨bundle, routed, clashes⟩ := clashes
  rcases pool.submit_cases types before posting with ⟨_, also, _⟩ | ⟨selector, also, outcome⟩
  · rw [routed] at also
    cases also
  · rw [routed] at also
    cases also
    rw [outcome]
    exact Bundle.Clashes.holds clashes known

theorem Clashes.enrolments (clashes : pool.Clashes types before posting) :
    ∃ one ∈ pool.enrolments, ∃ other ∈ pool.enrolments, one.store.driver ≠ other.store.driver ∧
      ∃ index, before.WritesTo one.store.driver index ∧
        before.WritesTo other.store.driver index := by
  obtain ⟨bundle, routed, earlier, store, later, order, _, prior, inside, index, first, second⟩ :=
    clashes
  obtain ⟨selector, same⟩ : ∃ selector, bundle = pool.readBundle types selector := by
    rw [appendBundle] at routed
    split at routed
    next => cases routed
    next selector _ => exact ⟨selector, (Except.ok.inj routed).symm⟩
  have distinct : (bundle.stores.map (·.driver)).Nodup := same ▸ Bundle.nodup_drivers_ofStores _
  have enrolled : ∀ reached ∈ bundle.stores, ∃ enrolment ∈ pool.enrolments,
      enrolment.store = reached := by
    intro reached member
    rw [same] at member
    obtain ⟨enrolment, among, named, _⟩ := mem_concerned_iff.mp (Bundle.mem_of_mem_ofStores member)
    exact ⟨enrolment, among, named⟩
  rw [order] at distinct enrolled
  obtain ⟨one, among, rfl⟩ := enrolled prior (List.mem_append_left _ inside)
  obtain ⟨other, also, rfl⟩ := enrolled store (List.mem_append_right _ List.mem_cons_self)
  refine ⟨one, among, other, also, ?_, index, first, second⟩
  rw [List.map_append, List.nodup_append] at distinct
  exact distinct.2.2 _ (List.mem_map_of_mem inside) _ List.mem_cons_self

theorem alike_submitAll (postings : List Posting) (before : Backends) :
    before.Alike (pool.submitAll types postings before) := by
  induction postings generalizing before with
  | nil => exact .refl before
  | cons posting postings ih => exact (pool.alike_submit types before posting).trans (ih _)

theorem free_submitAll {postings : List Posting} {held : String} (free : before.Free held)
    (new : ∀ posting ∈ postings, posting.envelope.id ≠ held) :
    (pool.submitAll types postings before).Free held := by
  induction postings generalizing before with
  | nil => exact free
  | cons posting postings ih =>
    obtain ⟨first, others⟩ := List.forall_mem_cons.mp new
    exact ih (free_submit free first) others

end Pool

structure StorageSettings.SameFile (storage other : StorageSettings) : Prop where
  kind : storage.kind = .sqlite
  otherKind : other.kind = .sqlite
  path : other.sqlitePath = storage.sqlitePath
  file : ∃ address path, Installation.addressOf storage.sqlitePath = some address ∧
    address.home = .file path

namespace Installation

variable {start opened : Installation} {settings : Settings} {pool : Pool}
  {drivers : List (StorageSettings × DriverId)}

theorem Grows.free {held : String} (grows : Grows start opened) (free : start.backends.Free held) :
    opened.backends.Free held where
  records id memory kept record inside := by
    obtain ⟨added, grown, empty⟩ := grows.drivers
    rcases Nat.lt_or_ge id start.backends.drivers.length with old | new
    · rw [grows.driver old] at kept
      exact free.records id memory kept record inside
    · rw [Backends.driver, grown, List.getD_eq_getElem?_getD, List.getElem?_append_right new] at kept
      cases found : added[id - start.backends.drivers.length]? with
      | none =>
        rw [found] at kept
        cases kept
      | some driver =>
        rw [found, Option.getD_some] at kept
        rw [empty memory (kept ▸ List.mem_of_getElem? found)] at inside
        cases inside
  rows index := by
    rw [Backends.Holds, grows.database index]
    exact free.rows index

theorem Opening.tables_of_sameFile (opening : Opening drivers opened)
    {storage other : StorageSettings} {id another : DriverId} (same : storage.SameFile other)
    (first : drivers.lookup storage = some id) (second : drivers.lookup other = some another) :
    ∃ index access, opened.backends.driver id = .table index access ∧
      opened.backends.driver another = .table index access := by
  obtain ⟨address, file, addressed, home⟩ := same.file
  have left := opening.paths _ (mem_of_lookup first) same.kind
  have right := opening.paths _ (mem_of_lookup second) same.otherKind
  simp only [same.path] at right
  have equal := left.driver_eq addressed home right
  obtain ⟨_, handle, _, held, _⟩ := left
  exact ⟨handle.database, handle.access, held, equal ▸ held⟩

theorem exists_mem_zip {enrolment : Enrolment}
    (assigned : List.Forall₂ (Assigned settings drivers) settings.stores pool.enrolments)
    (enrolled : enrolment ∈ pool.enrolments) :
    ∃ entry, (entry, enrolment) ∈ settings.stores.zip pool.enrolments := by
  rw [← List.map_snd_zip (Nat.le_of_eq assigned.length_eq.symm)] at enrolled
  obtain ⟨⟨entry, _⟩, member, rfl⟩ := List.mem_map.mp enrolled
  exact ⟨entry, member⟩

end Installation

namespace Proofs.SharedDatabases
open Proofs.Outcomes

/-- Two stores of a pool share a driver exactly if they are configured with equal storage; those
configured with one file are on one database, whether or not they share a driver. An append of an
event that nothing holds adds at most one row to each database, and is refused as a repetition
exactly if it is routed to two stores on one database that do not share their driver, and gets as
far as the second. Where stores on one database are configured alike, this does not happen. -/
theorem stores_share_drivers_not_databases (settings : Settings) (types : TypeHierarchy)
    (start opened : Installation) (pool : Pool) (earlier : List Posting) (posting : Posting)
    (sound : start.Sound) (built : start.openPool settings = (.ok pool, opened))
    (unknown : start.backends.Free posting.envelope.id)
    (new : ∀ other ∈ earlier, other.envelope.id ≠ posting.envelope.id) :
    let before := pool.submitAll types earlier opened.backends
    let outcome := pool.submit types before posting
    let placed := settings.stores.zip pool.enrolments
    pool.enrolments.map (fun enrolment => (enrolment.concerning, enrolment.store.name)) =
        settings.stores.map (fun entry => (entry.concerning, entry.name)) ∧
      (∀ one ∈ placed, ∀ other ∈ placed,
        let storage := settings.effectiveStorage one.1
        let otherStorage := settings.effectiveStorage other.1
        (one.2.store.driver = other.2.store.driver ↔ storage = otherStorage) ∧
          (storage.SameFile otherStorage →
            before.driver one.2.store.driver = before.driver other.2.store.driver)) ∧
      before.OneMore outcome.2 posting.envelope.id ∧
      (∀ held, outcome.1 = .error (.storage (.duplicateEvent held)) ↔
        held = posting.envelope.id ∧ pool.Clashes types before posting) ∧
      (pool.Clashes types before posting → ∃ index, outcome.2.Holds index posting.envelope.id) ∧
      ((∀ one ∈ placed, ∀ other ∈ placed, ∀ index, before.WritesTo one.2.store.driver index →
          before.WritesTo other.2.store.driver index →
            settings.effectiveStorage one.1 = settings.effectiveStorage other.1) →
        ¬ pool.Clashes types before posting) := by
  intro before outcome placed
  obtain ⟨drivers, opening, grows, assigned⟩ := Installation.openPool_assigned sound built
  have alike : opened.backends.Alike before := Pool.alike_submitAll earlier opened.backends
  have free : before.Free posting.envelope.id := Pool.free_submitAll (grows.free unknown) new
  have known : ∀ id index access, before.driver id = .table index access →
      index < before.databases.length := by
    intro id index access held
    rw [alike.length]
    exact opening.sound.drivers index access
      (Backends.mem_driver ((alike.tables id index access).mp held) nofun)
  have share : ∀ one ∈ placed, ∀ other ∈ placed, one.2.store.driver = other.2.store.driver ↔
      settings.effectiveStorage one.1 = settings.effectiveStorage other.1 := by
    intro one member other also
    exact opening.driver_eq_iff (List.forall₂_zip assigned member).driver
      (List.forall₂_zip assigned also).driver
  refine ⟨Installation.enrolled_of_assigned assigned, ?_,
    pool.oneMore_submit types before posting, fun held => Pool.submit_repeats_iff free known,
    fun clashes => clashes.holds known, ?_⟩
  · intro one member other also storage otherStorage
    refine ⟨share one member other also, ?_⟩
    intro same
    obtain ⟨index, access, held, alsoHeld⟩ := opening.tables_of_sameFile same
      (List.forall₂_zip assigned member).driver (List.forall₂_zip assigned also).driver
    rw [(alike.tables _ index access).mpr held, (alike.tables _ index access).mpr alsoHeld]
  · -- Stores that clash would share their driver, and the bundle would hold one of them only.
    intro alikeSettings clashes
    obtain ⟨one, enrolled, other, also, different, index, writes, again⟩ := clashes.enrolments
    obtain ⟨entry, member⟩ := Installation.exists_mem_zip assigned enrolled
    obtain ⟨otherEntry, otherMember⟩ := Installation.exists_mem_zip assigned also
    apply different
    exact (share _ member _ otherMember).mpr
      (alikeSettings _ member _ otherMember index writes again)

/-- A store inherits the storage of the installation, another one repeats it, and the third allows
fewer connections to the same file. The first and the third are on one database, and clash. -/
theorem stores_share_drivers_not_databases_limited :
    let file : StorageSettings := { sqlitePath := "events.db" }
    let settings : Settings :=
      { storage := file
        stores :=
          [{ name := "main", concerning := .all },
            { name := "audit", concerning := { categories := ["audit"] }, storage := some file },
            { name := "orders", concerning := { stream := "orders/*" }
              storage := some { file with maxConnections := 1 } }] }
    let types : TypeHierarchy := ⟨[⟨"Placed", []⟩], by simp [Layered]⟩
    let pool : Pool := { enrolments :=
      [⟨.all, ⟨"main", 0⟩⟩, ⟨{ categories := ["audit"] }, ⟨"audit", 0⟩⟩,
        ⟨{ stream := "orders/*" }, ⟨"orders", 1⟩⟩] }
    let start : Installation := {}
    let earlier : List Posting := [⟨"users/1", { type := "Placed", id := "e1" }, []⟩]
    let posting : Posting := ⟨"orders/1", { type := "Placed", id := "e2" }, []⟩
    start.Sound ∧ start.backends.Free posting.envelope.id ∧
      (∀ other ∈ earlier, other.envelope.id ≠ posting.envelope.id) ∧
      ∃ opened, start.openPool settings = (.ok pool, opened) ∧
        let before := pool.submitAll types earlier opened.backends
        before.driver 0 = before.driver 1 ∧ pool.Clashes types before posting := by
  intro file settings types pool start earlier posting
  have sound : start.Sound := Installation.sound_empty
  have unknown : start.backends.Free posting.envelope.id := ⟨nofun, nofun⟩
  have new : ∀ other ∈ earlier, other.envelope.id ≠ posting.envelope.id := by decide
  have answered : (start.openPool settings).1 = .ok pool := by decide +kernel
  have repeated : (pool.submit types (pool.submitAll types earlier
      (start.openPool settings).2.backends) posting).1 =
        .error (.storage (.duplicateEvent posting.envelope.id)) := by decide +kernel
  rcases built : start.openPool settings with ⟨answer, opened⟩
  rw [built] at answered repeated
  obtain rfl : answer = .ok pool := answered
  obtain ⟨_, shared, _, repeats, _⟩ := stores_share_drivers_not_databases settings types start
    opened pool earlier posting sound built unknown new
  refine ⟨sound, unknown, new, opened, rfl, ?_, ((repeats posting.envelope.id).mp repeated).2⟩
  let limited : StorageSettings := { file with maxConnections := 1 }
  let address : Address :=
    { home := .file (Bytes.ofText "events.db"), right := .create, isImmutable := false
      sharesCache := false, system := "unix" }
  have addressed : Installation.addressOf file.sqlitePath = some address := by decide +kernel
  have same : file.SameFile limited := ⟨rfl, rfl, rfl, address, _, addressed, rfl⟩
  have first : (⟨"main", .all, none⟩, ⟨.all, ⟨"main", 0⟩⟩) ∈
      settings.stores.zip pool.enrolments := by decide +kernel
  have third : (⟨"orders", { stream := "orders/*" }, some limited⟩,
      ⟨{ stream := "orders/*" }, ⟨"orders", 1⟩⟩) ∈ settings.stores.zip pool.enrolments := by
    decide +kernel
  exact (shared _ first _ third).2 same

/-- Two entries name one file, and differ in a section that neither of them uses. They get drivers
of their own, and a new event is refused as a repetition once the first has written it. -/
theorem unused_settings_repeat_append :
    let storage : StorageSettings := { sqlitePath := "events.db" }
    let other : StorageSettings := { storage with postgresUri := "postgres://unused" }
    let settings : Settings :=
      { storage
        stores :=
          [{ name := "main", concerning := .all },
            { name := "orders", concerning := { stream := "orders/*" }, storage := some other }] }
    let types : TypeHierarchy := ⟨[⟨"OrderPlaced", []⟩], by simp [Layered]⟩
    let pool : Pool := { enrolments :=
      [⟨.all, ⟨"main", 0⟩⟩, ⟨{ stream := "orders/*" }, ⟨"orders", 1⟩⟩] }
    let built := ({} : Installation).openPool settings
    let posting : Posting := ⟨"orders/1", { type := "OrderPlaced", id := "e1" }, []⟩
    let outcome := pool.submit types built.2.backends posting
    settings.stores.map settings.effectiveStorage = [storage, other] ∧
      storage.kind = .sqlite ∧ other.kind = .sqlite ∧ storage.sqlitePath = other.sqlitePath ∧
      built.1 = .ok pool ∧ pool.enrolments.map (·.store.driver) = [0, 1] ∧
      built.2.backends.databases.map (·.rows) = [[]] ∧
      outcome.1 = .error (.storage (.duplicateEvent "e1")) ∧
      outcome.2.databases.map (·.rows.map (·.id)) = [["e1"]] := by
  decide +kernel

end Proofs.SharedDatabases
end EventStore
