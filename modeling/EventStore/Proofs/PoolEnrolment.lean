import EventStore.Proofs.PoolOpening
import EventStore.Proofs.StoreNames
import Mathlib.Data.List.Induction

/-! The names of a pool. Enrolling looks every name up among those enrolled before it, the check of
a configuration looks through the entries before each one, and both blame the same name. -/

namespace EventStore

namespace Pool

/-- The pool after a call, which is as it was if the call is refused. -/
def afterEnrol (pool : Pool) (call : Enrolment) : Pool :=
  match pool.enrol call.concerning call.store with
  | .ok grown => grown
  | .error _ => pool

def afterEnrols (calls : List Enrolment) : Pool := calls.foldl afterEnrol {}

theorem mem_names_iff {pool : Pool} {name : String} :
    name ∈ pool.names ↔ ∃ enrolment ∈ pool.enrolments, enrolment.store.name = name := List.mem_map

theorem find?_isSome_iff {pool : Pool} {name : String} :
    (pool.find? name).isSome = true ↔ name ∈ pool.names := by
  simp [find?, mem_names_iff]

theorem enrol_cases (pool : Pool) (concerning : Selector) (store : Store) :
    (store.name ∈ pool.names ∧
      pool.enrol concerning store = .error (.duplicateStore store.name)) ∨
    (store.name ∉ pool.names ∧
      pool.enrol concerning store = .ok ⟨pool.enrolments ++ [⟨concerning, store⟩]⟩) := by
  rw [enrol]
  split
  next known => exact .inl ⟨find?_isSome_iff.mp known, rfl⟩
  next unknown => exact .inr ⟨fun member => unknown (find?_isSome_iff.mpr member), rfl⟩

/-- What the calls so far make of a pool: it holds those that were the first to use their name. -/
structure Enrolled (calls : List Enrolment) (pool : Pool) : Prop where
  distinct : pool.names.Nodup
  order : pool.enrolments.Sublist calls
  first : ∀ name, pool.find? name = (calls.find? (·.store.name = name)).map (·.store)

theorem Enrolled.call {calls : List Enrolment} {pool : Pool} (enrolled : Enrolled calls pool)
    (call : Enrolment) : Enrolled (calls ++ [call]) (pool.afterEnrol call) := by
  have found (name : String) : ((calls ++ [call]).find? (·.store.name = name)).map (·.store) =
      (pool.find? name).or (if call.store.name = name then some call.store else none) := by
    rw [enrolled.first, List.find?_append, Option.map_or]
    by_cases same : call.store.name = name <;> simp [same]
  rw [afterEnrol]
  rcases pool.enrol_cases call.concerning call.store with ⟨known, refused⟩ | ⟨new, accepted⟩
  · simp only [refused]
    refine ⟨enrolled.distinct, enrolled.order.trans (List.sublist_append_left calls [call]), ?_⟩
    intro name
    rw [found]
    split
    next same =>
      obtain ⟨store, held⟩ := Option.isSome_iff_exists.mp (find?_isSome_iff.mpr (same ▸ known))
      rw [held, Option.some_or]
    next => rw [Option.or_none]
  · simp only [accepted]
    refine ⟨?_, enrolled.order.append (List.Sublist.refl [call]), ?_⟩
    · rw [names, List.map_append]
      exact Settings.nodup_append_singleton enrolled.distinct new
    · intro name
      rw [found, find?, find?, List.find?_append, Option.map_or]
      by_cases same : call.store.name = name <;> simp [same]

theorem enrolled_afterEnrols (calls : List Enrolment) : Enrolled calls (afterEnrols calls) := by
  induction calls using List.reverseRecOn with
  | nil => exact ⟨List.nodup_nil, List.Sublist.refl [], fun _ => rfl⟩
  | append_singleton calls call ih =>
    rw [afterEnrols, List.foldl_append]
    exact ih.call call

theorem find?_eq_some_iff {pool : Pool} (distinct : pool.names.Nodup) {name : String}
    {store : Store} : pool.find? name = some store ↔
      ∃ enrolment ∈ pool.enrolments, enrolment.store = store ∧ store.name = name := by
  constructor
  · intro found
    obtain ⟨enrolment, held, rfl⟩ := Option.map_eq_some_iff.mp found
    exact ⟨enrolment, List.mem_of_find?_eq_some held, rfl, by simpa using List.find?_some held⟩
  · rintro ⟨enrolment, member, rfl, rfl⟩
    obtain ⟨store, found⟩ := Option.isSome_iff_exists.mp
      (find?_isSome_iff.mpr (mem_names_iff.mpr ⟨enrolment, member, rfl⟩))
    obtain ⟨other, held, rfl⟩ := Option.map_eq_some_iff.mp found
    have same := List.inj_on_of_nodup_map distinct (List.mem_of_find?_eq_some held) member
      (by simpa using List.find?_some held)
    rw [found, same]

end Pool

namespace Installation

/-- Opens the storages of the entries in turn, each when the first entry that uses it comes up. -/
def openStorages (settings : Settings) (opened : List (StorageSettings × DriverId)) :
    List StoreSettings → Installation →
      Except StorageFault (List (StorageSettings × DriverId)) × Installation
  | [], installation => (.ok opened, installation)
  | entry :: entries, installation =>
    match installation.driverFor opened (settings.effectiveStorage entry) with
    | (.error fault, installation) => (.error fault, installation)
    | (.ok (_, opened), installation) => openStorages settings opened entries installation

def Initialises (installation : Installation) (settings : Settings) : Prop :=
  ∃ drivers, (openStorages settings [] settings.stores installation).1 = .ok drivers

variable {settings : Settings} {opened drivers : List (StorageSettings × DriverId)}
  {entries : List StoreSettings} {pool : Pool} {seen : List String} {before : Installation}

theorem names_concat (names : pool.names = seen) (concerning : Selector) (store : Store) :
    Pool.names ⟨pool.enrolments ++ [⟨concerning, store⟩]⟩ = seen ++ [store.name] := by
  rw [← names, Pool.names, List.map_append]
  rfl

theorem repeatedName_of_enrolAll {name : String} (names : pool.names = seen)
    (blamed : (enrolAll settings opened entries pool before).1 = .error (.duplicateStore name)) :
    Settings.repeatedName seen entries = some name := by
  induction entries generalizing opened pool seen before with
  | nil => cases blamed
  | cons entry entries ih =>
    rw [enrolAll] at blamed
    split at blamed
    next => cases blamed
    next id longer middle answered =>
      rcases pool.enrol_cases entry.concerning ⟨entry.name, id⟩ with
        ⟨known, refused⟩ | ⟨new, accepted⟩
      · rw [refused] at blamed
        cases blamed
        rw [Settings.repeatedName, if_pos (List.contains_iff_mem.mpr (names ▸ known))]
      · rw [accepted] at blamed
        rw [Settings.repeatedName, if_neg (by simpa [← names] using new)]
        exact ih (names_concat names entry.concerning ⟨entry.name, id⟩) blamed

/-- Where all storages open, enrolling fails exactly if the check does, and else runs through. -/
theorem enrolAll_of_opened (names : pool.names = seen)
    (initialised : (openStorages settings opened entries before).1 = .ok drivers) :
    match Settings.repeatedName seen entries with
    | some name =>
      (enrolAll settings opened entries pool before).1 = .error (.duplicateStore name)
    | none => ∃ final, (enrolAll settings opened entries pool before).1 = .ok final := by
  induction entries generalizing opened pool seen before with
  | nil => exact ⟨pool, rfl⟩
  | cons entry entries ih =>
    cases answered : before.driverFor opened (settings.effectiveStorage entry) with
    | mk answer middle =>
      cases answer with
      | error fault =>
        simp only [openStorages, answered] at initialised
        cases initialised
      | ok found =>
        obtain ⟨id, longer⟩ := found
        simp only [openStorages, answered] at initialised
        rw [enrolAll, answered, Settings.repeatedName]
        rcases pool.enrol_cases entry.concerning ⟨entry.name, id⟩ with
          ⟨known, refused⟩ | ⟨new, accepted⟩
        · rw [if_pos (List.contains_iff_mem.mpr (names ▸ known))]
          simp only [refused]
        · rw [if_neg (by simpa [← names] using new)]
          simp only [accepted]
          exact ih (names_concat names entry.concerning ⟨entry.name, id⟩) initialised

theorem openPool_blames_iff {start : Installation} {name : String}
    (initialised : start.Initialises settings) :
    (start.openPool settings).1 = .error (.duplicateStore name) ↔
      settings.checkNames = .error (.duplicateStore name) := by
  obtain ⟨drivers, opens⟩ := initialised
  have outcome := enrolAll_of_opened (show Pool.names {} = [] from rfl) opens
  rw [Settings.checkNames, openPool]
  cases repeated : Settings.repeatedName [] settings.stores with
  | some first =>
    simp only [repeated] at outcome
    simp [outcome]
  | none =>
    simp only [repeated] at outcome
    obtain ⟨final, built⟩ := outcome
    simp [built]

theorem exists_openPool {start : Installation} (initialised : start.Initialises settings)
    (checked : settings.checkNames = .ok ()) :
    ∃ pool after, start.openPool settings = (.ok pool, after) := by
  obtain ⟨drivers, opens⟩ := initialised
  have outcome := enrolAll_of_opened (show Pool.names {} = [] from rfl) opens
  rw [Settings.checkNames] at checked
  split at checked
  next => cases checked
  next none =>
    rw [none] at outcome
    obtain ⟨pool, built⟩ := outcome
    exact ⟨pool, _, Prod.ext built rfl⟩

theorem sameDriver_of_openPool {start after : Installation}
    (built : start.openPool settings = (.ok pool, after)) :
    pool.enrolments.map (fun enrolment => (enrolment.concerning, enrolment.store.name)) =
        settings.stores.map (fun entry => (entry.concerning, entry.name)) ∧
      ∀ one ∈ settings.stores.zip pool.enrolments, ∀ other ∈ settings.stores.zip pool.enrolments,
        settings.effectiveStorage one.1 = settings.effectiveStorage other.1 →
          one.2.store.sameDriver other.2.store = true := by
  obtain ⟨drivers, _, assigned⟩ :=
    assigned_enrolAll (motive := fun _ _ => True) (fun _ _ => trivial) trivial .nil built
  refine ⟨enrolled_of_assigned assigned, ?_⟩
  intro one member other also equal
  have first := (List.forall₂_zip assigned member).driver
  have second := (List.forall₂_zip assigned also).driver
  rw [equal, second] at first
  simpa [Store.sameDriver] using (Option.some.inj first).symm

end Installation

namespace Proofs.PoolEnrolment

/-- Whatever is enrolled, a pool holds under each name the one store that came first with it, in the
order of the calls, and a refused call leaves no trace. Opening a configuration blames a name only if
the check of names does, and the first one that repeats; where all storages open, it blames whenever
the check does, and otherwise succeeds with the configured stores and scopes in their order. Those of
them with equal storages share a driver. -/
theorem enrolling_agrees_with_name_check (calls : List Enrolment) (settings : Settings)
    (start : Installation) :
    let pool := Pool.afterEnrols calls
    (pool.names.Nodup ∧ pool.enrolments.Sublist calls ∧
      (∀ name store, pool.find? name = some store ↔
        ∃ enrolment ∈ pool.enrolments, enrolment.store = store ∧ store.name = name) ∧
      (∀ name, pool.find? name = (calls.find? (·.store.name = name)).map (·.store)) ∧
      ∀ call fault, pool.enrol call.concerning call.store = .error fault →
        fault = .duplicateStore call.store.name ∧ call.store.name ∈ pool.names ∧
          ∀ later, Pool.afterEnrols (calls ++ call :: later) =
            Pool.afterEnrols (calls ++ later)) ∧
    (∀ name, settings.checkNames = .error (.duplicateStore name) ↔
      Settings.Repeats settings.stores name) ∧
    (∀ name, (start.openPool settings).1 = .error (.duplicateStore name) →
      settings.checkNames = .error (.duplicateStore name)) ∧
    (start.Initialises settings →
      (∀ name, (start.openPool settings).1 = .error (.duplicateStore name) ↔
        settings.checkNames = .error (.duplicateStore name)) ∧
      (settings.checkNames = .ok () → ∃ opened after,
        start.openPool settings = (.ok opened, after) ∧
        opened.enrolments.map (fun enrolment => (enrolment.concerning, enrolment.store.name)) =
          settings.stores.map (fun entry => (entry.concerning, entry.name)) ∧
        ∀ one ∈ settings.stores.zip opened.enrolments,
          ∀ other ∈ settings.stores.zip opened.enrolments,
            settings.effectiveStorage one.1 = settings.effectiveStorage other.1 →
              one.2.store.sameDriver other.2.store = true)) := by
  intro pool
  have enrolled := Pool.enrolled_afterEnrols calls
  refine ⟨⟨enrolled.distinct, enrolled.order,
    fun name store => Pool.find?_eq_some_iff enrolled.distinct, enrolled.first, ?_⟩,
    fun name => Settings.checkNames_eq_error_iff, ?_, ?_⟩
  · intro call fault refused
    rcases pool.enrol_cases call.concerning call.store with ⟨known, blamed⟩ | ⟨_, accepted⟩
    · rw [blamed] at refused
      cases refused
      refine ⟨rfl, known, ?_⟩
      intro later
      -- The pool passes a refused call unchanged, so leaving the call out changes nothing later.
      have unchanged : pool.afterEnrol call = pool := by simp only [Pool.afterEnrol, blamed]
      rw [Pool.afterEnrols, Pool.afterEnrols, List.foldl_append, List.foldl_append, List.foldl_cons]
      exact congrArg (fun start => List.foldl Pool.afterEnrol start later) unchanged
    · rw [accepted] at refused
      cases refused
  · intro name blamed
    have found := Installation.repeatedName_of_enrolAll (show Pool.names {} = [] from rfl) blamed
    rw [Settings.checkNames, found]
  · intro initialised
    refine ⟨fun name => Installation.openPool_blames_iff initialised, ?_⟩
    intro checked
    obtain ⟨opened, after, built⟩ := Installation.exists_openPool initialised checked
    exact ⟨opened, after, built, Installation.sameDriver_of_openPool built⟩

/-- Of two stores with one name the second is refused. Three entries use two storages, and two of
them share a driver; a fourth that repeats two names in turn is blamed for the first of them. -/
theorem enrolling_agrees_with_name_check_shared :
    let everything : Enrolment := ⟨Selector.all, "main", 0⟩
    let again : Enrolment := ⟨Selector.all, "main", 1⟩
    let memory : StorageSettings := { kind := .memory }
    let main : StoreSettings := { name := "main", concerning := Selector.all }
    let orders : StoreSettings :=
      { name := "orders", concerning := Selector.all, storage := some { kind := .null } }
    let audit : StoreSettings :=
      { name := "audit", concerning := Selector.all, storage := some memory }
    let settings : Settings := { storage := memory, stores := [main, orders, audit] }
    let repeated : Settings := { storage := memory, stores := [main, orders, orders, main] }
    (Pool.afterEnrols [everything]).enrol again.concerning again.store =
        .error (.duplicateStore "main") ∧
      Pool.afterEnrols [everything, again] = Pool.afterEnrols [everything] ∧
      Installation.Initialises {} settings ∧ settings.checkNames = .ok () ∧
      (∃ after, Installation.openPool {} settings =
          (.ok ⟨[everything, ⟨Selector.all, "orders", 1⟩, ⟨Selector.all, "audit", 0⟩]⟩, after)) ∧
      Store.sameDriver ⟨"main", 0⟩ ⟨"audit", 0⟩ = true ∧
      Installation.Initialises {} repeated ∧
      (Installation.openPool {} repeated).1 = .error (.duplicateStore "orders") := by
  intro everything again memory main orders audit settings repeated
  have refused : (Pool.afterEnrols [everything]).enrol again.concerning again.store =
      .error (.duplicateStore "main") := by decide +kernel
  have opens : Installation.Initialises {} settings := ⟨_, rfl⟩
  have opensRepeated : Installation.Initialises {} repeated := ⟨_, rfl⟩
  have checked : settings.checkNames = .ok () := by decide +kernel
  obtain ⟨⟨_, _, _, _, enrols⟩, _, _, distinct⟩ :=
    enrolling_agrees_with_name_check [everything] settings {}
  obtain ⟨_, _, _, repeats⟩ := enrolling_agrees_with_name_check [] repeated {}
  obtain ⟨opened, after, built, _, share⟩ := (distinct opens).2 checked
  have pool : (Installation.openPool {} settings).1 =
      .ok ⟨[everything, ⟨Selector.all, "orders", 1⟩, ⟨Selector.all, "audit", 0⟩]⟩ := by decide +kernel
  rw [built] at pool
  cases pool
  have shared := share (main, everything) (by decide) (audit, ⟨Selector.all, "audit", 0⟩) (by decide)
    (by decide)
  refine ⟨refused, (enrols again _ refused).2.2 [], opens, checked, ⟨after, built⟩, shared,
    opensRepeated, ?_⟩
  exact ((repeats opensRepeated).1 "orders").mpr (by decide +kernel)

end Proofs.PoolEnrolment
end EventStore
