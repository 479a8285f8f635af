import EventStore.Proofs.DatabaseOpening
import Mathlib.Data.List.Forall2
import Mathlib.Data.List.Nodup

/-! The drivers of a pool. Stores share a driver exactly if they are configured with equal storage.
Settings that differ in anything, used or not, get drivers of their own, even on one database. -/

namespace EventStore.Installation

structure OpensDriver (before : Installation)
    (opened : Except StorageFault DriverId × Installation) : Prop where
  grows : Grows before opened.2
  sound : opened.2.Sound
  next : ∀ id, opened.1 = .ok id →
    id = before.backends.drivers.length ∧ id < opened.2.backends.drivers.length

variable {installation before after : Installation} {driver : Driver}

theorem grows_addDriver (empty : ∀ memory, driver = .memory memory → memory = {}) :
    Grows installation (installation.addDriver driver).2 where
  drivers := ⟨[driver], rfl, fun memory member => empty memory (List.mem_singleton.mp member).symm⟩
  databases := ⟨0, by simp [addDriver, Backends.addDriver]⟩
  files _ _ held := held
  shared _ _ named := named

theorem Sound.addDriver (sound : installation.Sound) (known : ∀ index access,
      driver = .table index access → index < installation.backends.databases.length) :
    (installation.addDriver driver).2.Sound where
  files := sound.files
  shared := sound.shared
  sharedFiles := sound.sharedFiles
  drivers index access member := by
    rcases List.mem_append.mp member with old | new
    · exact sound.drivers index access old
    · exact known index access (List.mem_singleton.mp new).symm

theorem opensDriver_addDriver (driver : Driver) (sound : installation.Sound)
    (empty : ∀ memory, driver = .memory memory → memory = {})
    (known : ∀ index access, driver = .table index access →
      index < installation.backends.databases.length) :
    OpensDriver installation
      (.ok (installation.addDriver driver).1, (installation.addDriver driver).2) where
  grows := grows_addDriver empty
  sound := sound.addDriver known
  next id answered := by
    cases answered
    exact ⟨rfl, by simp [Installation.addDriver, Backends.addDriver]⟩

theorem opensDriver_refused (grows : Grows before after) (sound : after.Sound)
    (fault : StorageFault) : OpensDriver before (.error fault, after) where
  grows := grows
  sound := sound
  next _ answered := by cases answered

theorem opensDriver_openDatabase (sound : installation.Sound) (path : String)
    (connections : Nat) : OpensDriver installation (installation.openDatabase path connections) := by
  rw [openDatabase]
  split
  next => exact opensDriver_refused (.refl installation) sound _
  next directory made =>
    -- The folders are there from here on, whether or not a database is opened.
    have same := Directory.sameFiles_makeParents made
    have grows := grows_setDirectory same
    have still := sound.setDirectory same
    simp only
    split
    next => exact opensDriver_refused grows still _
    next address _ =>
      split
      next => exact opensDriver_refused grows still _
      next =>
        have opens := opens_openAddress still address connections
        split
        next fault after outcome =>
          rw [outcome] at opens
          exact opensDriver_refused (grows.trans opens.grows) opens.sound _
        next handle after outcome =>
          rw [outcome] at opens
          have added := opensDriver_addDriver (.table handle.database handle.access) opens.sound
            nofun (by
              rintro index access ⟨⟩
              exact opens.known handle rfl)
          refine ⟨(grows.trans opens.grows).trans added.grows, added.sound, ?_⟩
          intro id answered
          obtain ⟨place, inside⟩ := added.next id answered
          exact ⟨place.trans (congrArg List.length opens.drivers), inside⟩

theorem opensDriver_openDriver (sound : installation.Sound) (storage : StorageSettings) :
    OpensDriver installation (installation.openDriver storage) := by
  rw [openDriver]
  split
  next => exact opensDriver_addDriver _ sound (by rintro memory ⟨⟩; rfl) nofun
  next => exact opensDriver_addDriver _ sound nofun nofun
  next => exact opensDriver_openDatabase sound _ _
  next => exact opensDriver_refused (.refl installation) sound _

def addressOf (path : String) : Option Address := Location.ofText path >>= Address.ofLocation

def OnPath (installation : Installation) (path : String) (id : DriverId) : Prop :=
  ∃ address handle, addressOf path = some address ∧
    installation.backends.driver id = .table handle.database handle.access ∧
      ∀ file, address.home = .file file →
        ∃ place, installation.LeadsTo address file place handle

theorem OnPath.grow {path : String} {id : DriverId} (onPath : before.OnPath path id)
    (grows : Grows before after) : after.OnPath path id := by
  obtain ⟨address, handle, addressed, held, leads⟩ := onPath
  refine ⟨address, handle, addressed, ?_, ?_⟩
  · rw [grows.driver (Backends.opened_of_ne_null (by simp [held])), held]
  · intro file home
    obtain ⟨place, led⟩ := leads file home
    exact ⟨place, led.grow grows⟩

theorem onPath_of_openDatabase {path : String} {connections : Nat} {id : DriverId}
    (answered : (installation.openDatabase path connections).1 = .ok id) :
    (installation.openDatabase path connections).2.OnPath path id := by
  rw [openDatabase] at answered ⊢
  split at answered
  next => cases answered
  next directory made =>
    simp only at answered ⊢
    split at answered
    next => cases answered
    next address addressed =>
      split at answered
      next => cases answered
      next some =>
        rw [if_neg some]
        split at answered
        next => cases answered
        next handle after outcome =>
          cases answered
          refine ⟨address, handle, addressed, Backends.driver_addDriver, ?_⟩
          intro file home
          obtain ⟨place, leads⟩ := leadsTo_of_openAddress home (congrArg Prod.fst outcome)
          rw [outcome] at leads
          exact ⟨place, leads.grow (grows_addDriver nofun)⟩

theorem onPath_of_openDriver {storage : StorageSettings} {id : DriverId}
    (kind : storage.kind = .sqlite) (answered : (installation.openDriver storage).1 = .ok id) :
    (installation.openDriver storage).2.OnPath storage.sqlitePath id := by
  rw [openDriver, kind] at answered ⊢
  exact onPath_of_openDatabase answered

/-- Drivers on one path are on one database and may do the same with it, if the path is that of a
file. -/
theorem OnPath.driver_eq {path : String} {first second : DriverId} {address : Address}
    {file : Bytes} (addressed : addressOf path = some address) (home : address.home = .file file)
    (left : installation.OnPath path first) (right : installation.OnPath path second) :
    installation.backends.driver first = installation.backends.driver second := by
  obtain ⟨_, handle, same, held, leads⟩ := left
  obtain ⟨_, other, again, alsoHeld, alsoLeads⟩ := right
  rw [addressed] at same again
  cases same
  cases again
  obtain ⟨_, led⟩ := leads file home
  obtain ⟨_, ledAgain⟩ := alsoLeads file home
  rw [held, alsoHeld, led.unique ledAgain]

/-- What holds of the drivers that were opened so far, each under the settings it was opened for. -/
structure Opening (opened : List (StorageSettings × DriverId)) (installation : Installation) :
    Prop where
  sound : installation.Sound
  distinct : (opened.map (·.2)).Nodup
  known : ∀ pair ∈ opened, pair.2 < installation.backends.drivers.length
  paths : ∀ pair ∈ opened, pair.1.kind = .sqlite → installation.OnPath pair.1.sqlitePath pair.2

/-- The driver of an enrolment is the one opened for the storage of its entry. -/
structure Assigned (settings : Settings) (opened : List (StorageSettings × DriverId))
    (entry : StoreSettings) (enrolment : Enrolment) : Prop where
  concerning : enrolment.concerning = entry.concerning
  name : enrolment.store.name = entry.name
  driver : opened.lookup (settings.effectiveStorage entry) = some enrolment.store.driver

theorem enrolled_of_assigned {settings : Settings} {opened : List (StorageSettings × DriverId)}
    {entries : List StoreSettings} {enrolments : List Enrolment}
    (assigned : List.Forall₂ (Assigned settings opened) entries enrolments) :
    enrolments.map (fun enrolment => (enrolment.concerning, enrolment.store.name)) =
      entries.map fun entry => (entry.concerning, entry.name) := by
  induction assigned with
  | nil => rfl
  | cons first _ ih => rw [List.map_cons, List.map_cons, first.concerning, first.name, ih]

section Loop

variable {settings : Settings} {opened longer : List (StorageSettings × DriverId)}
  {storage : StorageSettings} {id : DriverId}

theorem mem_of_lookup (found : opened.lookup storage = some id) : (storage, id) ∈ opened := by
  obtain ⟨early, late, same, _⟩ := List.lookup_eq_some_iff.mp found
  rw [same]
  exact List.mem_append_right _ List.mem_cons_self

theorem Opening.nothing (sound : installation.Sound) : Opening [] installation where
  sound := sound
  distinct := List.nodup_nil
  known := by simp
  paths := by simp

theorem Opening.driver_eq_iff {other : StorageSettings} {another : DriverId}
    (opening : Opening opened installation) (first : opened.lookup storage = some id)
    (second : opened.lookup other = some another) : id = another ↔ storage = other := by
  constructor
  · rintro rfl
    have same := List.inj_on_of_nodup_map opening.distinct (mem_of_lookup first)
      (mem_of_lookup second) rfl
    exact congrArg Prod.fst same
  · rintro rfl
    exact Option.some.inj (first.symm.trans second)

theorem lookup_driverFor
    (answered : before.driverFor opened storage = (.ok (id, longer), after)) :
    longer.lookup storage = some id ∧
      ∀ key value, opened.lookup key = some value → longer.lookup key = some value := by
  rw [Installation.driverFor] at answered
  split at answered
  next found known =>
    cases answered
    exact ⟨known, fun _ _ looked => looked⟩
  next missing =>
    rcases outcome : before.openDriver storage with ⟨answer, final⟩
    rw [outcome] at answered
    cases answer with
    | error fault => cases answered
    | ok next =>
      cases answered
      refine ⟨by rw [List.lookup_append, missing]; simp, ?_⟩
      intro key value looked
      rw [List.lookup_append, looked, Option.some_or]

theorem Opening.driverFor (opening : Opening opened before)
    (answered : before.driverFor opened storage = (.ok (id, longer), after)) :
    Opening longer after ∧ Grows before after := by
  rw [Installation.driverFor] at answered
  split at answered
  next found known =>
    cases answered
    exact ⟨opening, .refl _⟩
  next missing =>
    have opens := opensDriver_openDriver opening.sound storage
    have onPath := @onPath_of_openDriver before storage id
    rcases outcome : before.openDriver storage with ⟨answer, final⟩
    rw [outcome] at answered opens
    cases answer with
    | error fault => cases answered
    | ok next =>
      cases answered
      obtain ⟨place, inside⟩ := opens.next id rfl
      refine ⟨⟨opens.sound, ?_, ?_, ?_⟩, opens.grows⟩
      -- The new driver comes after all that are known, so no other storage has it.
      · rw [List.map_append, List.nodup_append]
        refine ⟨opening.distinct, by simp, ?_⟩
        intro early member late single same
        obtain ⟨pair, among, rfl⟩ := List.mem_map.mp member
        have bound := opening.known pair among
        rw [List.map_singleton, List.mem_singleton] at single
        exact Nat.ne_of_lt bound (same.trans (single.trans place))
      · intro pair member
        rcases List.mem_append.mp member with old | new
        · exact Nat.lt_of_lt_of_le (opening.known pair old) opens.grows.drivers_length_le
        · rw [List.mem_singleton.mp new]
          exact inside
      · intro pair member kind
        rcases List.mem_append.mp member with old | new
        · exact (opening.paths pair old kind).grow opens.grows
        · rw [List.mem_singleton.mp new] at kind ⊢
          have path := onPath kind (by rw [outcome])
          rw [outcome] at path
          exact path

theorem enrolments_of_enrol {pool grown : Pool} {concerning : Selector} {store : Store}
    (enrolled : pool.enrol concerning store = .ok grown) :
    grown.enrolments = pool.enrolments ++ [⟨concerning, store⟩] := by
  rw [Pool.enrol] at enrolled
  split at enrolled
  next => cases enrolled
  next =>
    cases enrolled
    rfl

theorem forall₂_assigned_concat {entry : StoreSettings} {done : List StoreSettings}
    {pool grown : Pool} (assigned : List.Forall₂ (Assigned settings opened) done pool.enrolments)
    (answered : before.driverFor opened (settings.effectiveStorage entry) =
      (.ok (id, longer), after))
    (enrolled : pool.enrol entry.concerning { name := entry.name, driver := id } = .ok grown) :
    List.Forall₂ (Assigned settings longer) (done ++ [entry]) grown.enrolments := by
  obtain ⟨looked, kept⟩ := lookup_driverFor answered
  rw [enrolments_of_enrol enrolled]
  apply List.rel_append
  · exact assigned.imp fun _ _ old => ⟨old.concerning, old.name, kept _ _ old.driver⟩
  · exact .cons ⟨rfl, rfl, looked⟩ .nil

/-- Every entry is enrolled in its turn, with the driver for its storage. Whatever the choice of a
driver keeps, the whole run keeps. -/
theorem assigned_enrolAll {motive : List (StorageSettings × DriverId) → Installation → Prop}
    (kept : ∀ {opened before storage id longer after}, motive opened before →
      before.driverFor opened storage = (.ok (id, longer), after) → motive longer after)
    {entries done : List StoreSettings} {pool final : Pool} (first : motive opened before)
    (assigned : List.Forall₂ (Assigned settings opened) done pool.enrolments)
    (built : enrolAll settings opened entries pool before = (.ok final, after)) :
    ∃ longer, motive longer after ∧
      List.Forall₂ (Assigned settings longer) (done ++ entries) final.enrolments := by
  induction entries generalizing opened done pool before with
  | nil =>
    cases built
    exact ⟨opened, first, by rwa [List.append_nil]⟩
  | cons entry entries ih =>
    rw [Installation.enrolAll] at built
    split at built
    next => cases built
    next id longer middle answered =>
      split at built
      next => cases built
      next grown enrolled =>
        have further := forall₂_assigned_concat assigned answered enrolled
        obtain ⟨last, still, every⟩ := ih (kept first answered) further built
        rw [List.append_assoc] at every
        exact ⟨last, still, every⟩

end Loop

/-- The stores of a pool are those of its configuration in their order, each with the driver that
was opened for its storage. -/
theorem openPool_assigned {settings : Settings} {start opened : Installation} {pool : Pool}
    (sound : start.Sound) (built : start.openPool settings = (.ok pool, opened)) :
    ∃ drivers, Opening drivers opened ∧ Grows start opened ∧
      List.Forall₂ (Assigned settings drivers) settings.stores pool.enrolments := by
  obtain ⟨drivers, ⟨opening, grows⟩, assigned⟩ := assigned_enrolAll
    (motive := fun drivers now => Opening drivers now ∧ Grows start now)
    (by
      intro drivers before storage id longer after holds answered
      obtain ⟨opening, grown⟩ := holds.1.driverFor answered
      exact ⟨opening, holds.2.trans grown⟩)
    ⟨Opening.nothing sound, .refl start⟩ .nil built
  exact ⟨drivers, opening, grows, assigned⟩

end EventStore.Installation
