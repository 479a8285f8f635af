import EventStore.Proofs.DatabaseDelivery

/-! A fan-out that failed midway stays incomplete. The first driver with a list of records has the
event and keeps it, so it refuses every further attempt before a later driver is asked. -/

namespace EventStore

def Driver.recordsOf (held : String) : Driver → List Record
  | .memory store => store.records.filter (·.id = held)
  | _ => []

theorem Driver.Standalone.eq_null {driver : Driver} (alone : driver.Standalone)
    (unlisted : ∀ memory, driver ≠ .memory memory) : driver = .null := by
  cases driver with
  | null => rfl
  | memory memory => exact absurd rfl (unlisted memory)
  | table database access => cases alone

namespace Backends

/-- No list of records loses any, and a driver that keeps nothing goes on keeping nothing. -/
structure Retains (before after : Backends) : Prop where
  silent : ∀ id, before.driver id = .null → after.driver id = .null
  records : ∀ id memory, before.driver id = .memory memory →
    ∃ grown, after.driver id = .memory grown ∧ memory.records <+: grown.records

def Lists (backends : Backends) (id : DriverId) (held : String) : Prop :=
  ∃ memory, backends.driver id = .memory memory ∧ ∃ record ∈ memory.records, record.id = held

def Accepting (backends : Backends) (id : DriverId) : Prop :=
  ∃ memory, backends.driver id = .memory memory ∧ memory.refusesAppends = false

variable {backends before middle after : Backends} {id other : DriverId} {stream held : String}
  {envelope : Envelope} {categories : List String}

theorem Retains.refl (backends : Backends) : Retains backends backends where
  silent _ null := null
  records _ memory listed := ⟨memory, listed, List.prefix_refl _⟩

theorem Retains.trans (first : Retains before middle) (last : Retains middle after) :
    Retains before after where
  silent id null := last.silent id (first.silent id null)
  records id memory listed := by
    obtain ⟨grown, next, longer⟩ := first.records id memory listed
    obtain ⟨final, done, longest⟩ := last.records id grown next
    exact ⟨final, done, longer.trans longest⟩

theorem Lists.retained (lists : before.Lists id held) (retains : Retains before after) :
    after.Lists id held := by
  obtain ⟨memory, listed, record, member, same⟩ := lists
  obtain ⟨grown, next, longer⟩ := retains.records id memory listed
  exact ⟨grown, next, record, longer.subset member, same⟩

theorem retains_setDriver {memory grown : Memory} (listed : backends.driver id = .memory memory)
    (longer : memory.records <+: grown.records) :
    Retains backends (backends.setDriver id (.memory grown)) := by
  have opened := opened_of_memory listed
  constructor
  · intro other null
    rw [driver_setDriver_other, null]
    rintro rfl
    rw [listed] at null
    cases null
  · intro other kept holds
    by_cases same : other = id
    · rw [same, listed, Driver.memory.injEq] at holds
      rw [same, driver_setDriver opened]
      exact ⟨grown, rfl, holds ▸ longer⟩
    · rw [driver_setDriver_other same]
      exact ⟨kept, holds, List.prefix_refl _⟩

theorem retains_append (backends : Backends) (id : DriverId) :
    Retains backends (backends.append id stream envelope categories).2 := by
  rcases backends.append_cases id stream envelope categories with
    ⟨memory, listed, outcome⟩ | ⟨index, _, outcome⟩ | ⟨_, _, unchanged, _⟩
  · rw [outcome]
    exact retains_setDriver listed Memory.records_prefix_append
  · rw [outcome]
    exact ⟨fun _ null => null, fun _ memory listed => ⟨memory, listed, List.prefix_refl _⟩⟩
  · rw [unchanged]
    exact .refl backends

theorem setRefusals_cases (backends : Backends) (id : DriverId) (appends reads : Option Bool) :
    (∃ memory changed, backends.driver id = .memory memory ∧ changed.records = memory.records ∧
      backends.setRefusals id appends reads = backends.setDriver id (.memory changed)) ∨
    backends.setRefusals id appends reads = backends := by
  rw [setRefusals]
  split
  next memory listed =>
    let changed : Memory :=
      { memory with
        refusesAppends := appends.getD memory.refusesAppends
        refusesReads := reads.getD memory.refusesReads }
    exact .inl ⟨memory, changed, listed, rfl, rfl⟩
  next => exact .inr rfl

theorem retains_setRefusals (backends : Backends) (id : DriverId) (appends reads : Option Bool) :
    Retains backends (backends.setRefusals id appends reads) := by
  rcases backends.setRefusals_cases id appends reads with
    ⟨memory, changed, listed, same, outcome⟩ | unchanged
  · rw [outcome]
    exact retains_setDriver listed (same ▸ List.prefix_refl _)
  · rw [unchanged]
    exact .refl backends

theorem recordsOf_append_of_ne (different : envelope.id ≠ held) :
    ((backends.append other stream envelope categories).2.driver id).recordsOf held =
      (backends.driver id).recordsOf held := by
  by_cases same : id = other
  · subst same
    rcases backends.append_cases id stream envelope categories with
      ⟨memory, listed, outcome⟩ | ⟨index, _, outcome⟩ | ⟨_, _, unchanged, _⟩
    · rw [outcome, driver_setDriver (opened_of_memory listed), listed]
      exact Memory.filter_append_of_ne different
    · rw [outcome]
      rfl
    · rw [unchanged]
  · rw [driver_append_of_ne same]

theorem recordsOf_setRefusals (appends reads : Option Bool) :
    ((backends.setRefusals other appends reads).driver id).recordsOf held =
      (backends.driver id).recordsOf held := by
  rcases backends.setRefusals_cases other appends reads with
    ⟨memory, changed, listed, unchanged, outcome⟩ | unchanged
  · rw [outcome]
    by_cases same : id = other
    · rw [same, driver_setDriver (opened_of_memory listed), listed, Driver.recordsOf,
        Driver.recordsOf, unchanged]
    · rw [driver_setDriver_other same]
  · rw [unchanged]

/-- A driver that has the event refuses it and stays as it is. -/
theorem append_of_lists (lists : backends.Lists id envelope.id) :
    ∃ fault, backends.append id stream envelope categories = (.error fault, backends) ∧
      (backends.Accepting id →
        (Record.Acceptable stream categories → fault = .duplicateEvent envelope.id) ∧
        (¬ Record.Acceptable stream categories → ∃ literal, fault = .invalidLiteral literal)) := by
  obtain ⟨memory, listed, known⟩ := lists
  obtain ⟨fault, outcome, named⟩ :=
    @Memory.append_of_known memory stream envelope categories known
  refine ⟨fault, ?_, ?_⟩
  · rw [append_of_memory listed, outcome, setDriver_self listed]
    rfl
  · rintro ⟨same, listedAgain, accepting⟩
    rw [listed, Driver.memory.injEq] at listedAgain
    exact named (listedAgain ▸ accepting)

end Backends

namespace Bundle
open Backends

variable {stream held : String} {envelope : Envelope} {categories : List String}
  {silent later stores : List Store} {holder : Store} {before after : Backends}

theorem retains_deliver (stores : List Store) (before : Backends) :
    Retains before (deliver stream envelope categories stores before).2 :=
  deliver_preserves (Retains before)
    (fun store _ backends kept => kept.trans (retains_append backends store.driver)) (.refl before)

theorem recordsOf_deliver_of_ne (different : envelope.id ≠ held) (id : DriverId) :
    ((deliver stream envelope categories stores before).2.driver id).recordsOf held =
      (before.driver id).recordsOf held := by
  refine deliver_preserves
    (fun after => (after.driver id).recordsOf held = (before.driver id).recordsOf held) ?_ rfl
  intro store _ backends kept
  rw [recordsOf_append_of_ne different, kept]

theorem deliver_past_silent (null : ∀ store ∈ silent, before.driver store.driver = .null) :
    deliver stream envelope categories (silent ++ later) before =
      ((deliver stream envelope categories later before).1.map
          (List.replicate silent.length none ++ ·),
        (deliver stream envelope categories later before).2) := by
  induction silent with
  | nil =>
    cases answered : (deliver stream envelope categories later before).1 <;>
      simp [Except.map, ← answered]
  | cons first others ih =>
    obtain ⟨firstNull, othersNull⟩ := List.forall_mem_cons.mp null
    have taken := append_of_null firstNull stream envelope categories
    rw [List.cons_append, deliver_cons_ok (congrArg Prod.fst taken), taken, ih othersNull]
    cases (deliver stream envelope categories later before).1 <;> rfl

/-- The first driver with a list has the event, so a delivery of it ends there. -/
theorem deliver_of_lists (null : ∀ store ∈ silent, before.driver store.driver = .null)
    (lists : before.Lists holder.driver envelope.id) :
    ∃ fault, deliver stream envelope categories (silent ++ holder :: later) before =
        (.error fault, before) ∧
      (before.Accepting holder.driver →
        (Record.Acceptable stream categories → fault = .duplicateEvent envelope.id) ∧
        (¬ Record.Acceptable stream categories → ∃ literal, fault = .invalidLiteral literal)) := by
  obtain ⟨fault, refused, named⟩ :=
    @append_of_lists before holder.driver stream envelope categories lists
  refine ⟨fault, ?_, named⟩
  rw [deliver_past_silent null, deliver_cons_error (congrArg Prod.fst refused), refused]
  rfl

/-- A delivery that goes on past a driver with a list leaves the event there. -/
theorem lists_of_deliver {memory : Memory} {version : Option Nat} (later : List Store)
    (null : ∀ store ∈ silent, before.driver store.driver = .null)
    (listed : before.driver holder.driver = .memory memory)
    (took : (before.append holder.driver stream envelope categories).1 = .ok version) :
    (deliver stream envelope categories (silent ++ holder :: later) before).2.Lists holder.driver
      envelope.id := by
  have kept : (before.append holder.driver stream envelope categories).2.Lists holder.driver
      envelope.id := by
    rw [append_of_memory listed, Proofs.Outcomes.map_eq_ok_iff] at took
    obtain ⟨kept, took, _⟩ := took
    exact ⟨_, driver_append_self listed stream envelope categories,
      Memory.known_of_append_ok took⟩
  rw [deliver_past_silent null, deliver_cons_ok took]
  exact kept.retained (retains_deliver later _)

theorem Halted.took {place first : Nat} {fault : StorageFault}
    (halted : Halted stream envelope categories stores place fault before after)
    (earlier : first < place) (found : stores[first]? = some holder) :
    ∃ version, (before.append holder.driver stream envelope categories).1 = .ok version := by
  obtain ⟨versions, served⟩ := halted.served
  obtain ⟨inside, same⟩ := List.getElem?_eq_some_iff.mp found
  have among : holder ∈ stores.take place :=
    List.mem_take_iff_getElem.mpr ⟨first, by omega, same⟩
  have answer : (before.append holder.driver stream envelope categories).1 ∈ versions.map .ok := by
    rw [← served.answered]
    exact List.mem_map_of_mem among
  obtain ⟨version, _, answered⟩ := List.mem_map.mp answer
  exact ⟨version, answered.symm⟩

end Bundle

namespace Proofs.InterruptedFanOut
open Backends EventStore.Bundle

/-- What may be asked of the drivers between two attempts; a read changes nothing. -/
inductive Step
  | append (bundle : Bundle) (stream : String) (event : Event) (categories : List String)
  | refuse (id : DriverId) (appends reads : Option Bool)

def perform (backends : Backends) : Step → Backends
  | .append bundle stream event categories =>
    (bundle.append stream event categories backends).2
  | .refuse id appends reads => backends.setRefusals id appends reads

def Step.Through (bundle : Bundle) : Step → Prop
  | .append used _ _ _ => used = bundle
  | .refuse _ _ _ => True

theorem retains_perform (backends : Backends) (step : Step) :
    Retains backends (perform backends step) := by
  cases step with
  | append bundle stream event categories =>
    cases event with
    | transient type => exact .refl backends
    | storable envelope => exact retains_deliver bundle.stores backends
  | refuse id appends reads => exact retains_setRefusals backends id appends reads

theorem retains_run (steps : List Step) (backends : Backends) :
    Retains backends (steps.foldl perform backends) := by
  induction steps generalizing backends with
  | nil => exact .refl backends
  | cons step steps ih => exact (retains_perform backends step).trans (ih _)

/-- The bundle refuses the event for good. Whatever happens in between, an attempt ends at the
holder and changes nothing, and no driver gets the event by way of the bundle. -/
structure Stuck (bundle : Bundle) (held : String) (holder : Store) (after : Backends) : Prop where
  refused : ∀ (steps : List Step) (stream : String) (envelope : Envelope)
    (categories : List String), envelope.id = held → ∃ fault,
      bundle.append stream (.storable envelope) categories (steps.foldl perform after) =
        (.error fault, steps.foldl perform after) ∧
      ((steps.foldl perform after).Accepting holder.driver →
        (Record.Acceptable stream categories → fault = .duplicateEvent held) ∧
        (¬ Record.Acceptable stream categories → ∃ literal, fault = .invalidLiteral literal))
  missed : ∀ steps : List Step, (∀ step ∈ steps, step.Through bundle) → ∀ id,
    ((steps.foldl perform after).driver id).recordsOf held = (after.driver id).recordsOf held

section Stuck

variable {bundle : Bundle} {held : String} {silent later : List Store} {holder : Store}
  {after : Backends}

theorem append_refused (shape : bundle.stores = silent ++ holder :: later)
    (null : ∀ store ∈ silent, after.driver store.driver = .null)
    (lists : after.Lists holder.driver held) (stream : String) (envelope : Envelope)
    (categories : List String) (same : envelope.id = held) :
    ∃ fault, bundle.append stream (.storable envelope) categories after = (.error fault, after) ∧
      (after.Accepting holder.driver →
        (Record.Acceptable stream categories → fault = .duplicateEvent held) ∧
        (¬ Record.Acceptable stream categories → ∃ literal, fault = .invalidLiteral literal)) := by
  subst same
  rw [Bundle.append, shape]
  exact deliver_of_lists null lists

theorem recordsOf_perform (shape : bundle.stores = silent ++ holder :: later)
    (null : ∀ store ∈ silent, after.driver store.driver = .null)
    (lists : after.Lists holder.driver held) {step : Step} (through : step.Through bundle)
    (id : DriverId) :
    ((perform after step).driver id).recordsOf held = (after.driver id).recordsOf held := by
  cases step with
  | refuse other appends reads => exact recordsOf_setRefusals appends reads
  | append used stream event categories =>
    obtain rfl : used = bundle := through
    cases event with
    | transient type => rfl
    | storable envelope =>
      by_cases same : envelope.id = held
      · obtain ⟨fault, outcome, _⟩ :=
          append_refused shape null lists stream envelope categories same
        rw [perform, outcome]
      · exact recordsOf_deliver_of_ne same id

theorem stuck_of_lists (shape : bundle.stores = silent ++ holder :: later)
    (null : ∀ store ∈ silent, after.driver store.driver = .null)
    (lists : after.Lists holder.driver held) : Stuck bundle held holder after where
  refused steps stream envelope categories same := by
    have retains := retains_run steps after
    apply append_refused shape _ (lists.retained retains) stream envelope categories same
    exact fun store member => retains.silent _ (null store member)
  missed steps := by
    induction steps generalizing after with
    | nil => exact fun _ _ => rfl
    | cons step steps ih =>
      intro through id
      obtain ⟨first, others⟩ := List.forall_mem_cons.mp through
      have retains := retains_perform after step
      have next := ih (fun store member => retains.silent _ (null store member))
        (lists.retained retains) others id
      exact next.trans (recordsOf_perform shape null lists first id)

end Stuck

/-- An append that failed at one member of a bundle, past another that keeps records in a list, is
never made up for: the first such member refuses the event from then on, with nothing changed, and
those that the failed append did not reach stay without it. -/
theorem retries_stop_at_first_list (stores : List Store) (stream : String) (envelope : Envelope)
    (categories : List String) (before after : Backends) (fault : StorageFault)
    (standalone : ∀ store ∈ stores, (before.driver store.driver).Standalone)
    (failed : (ofStores stores).append stream (.storable envelope) categories before =
      (.error fault, after)) :
    let bundle := ofStores stores
    ∃ place, Halted stream envelope categories bundle.stores place fault before after ∧
      ∀ first holder memory, first < place → bundle.stores[first]? = some holder →
        before.driver holder.driver = .memory memory →
        (∀ store ∈ bundle.stores.take first, ∀ memory,
          before.driver store.driver ≠ .memory memory) →
        Stuck bundle envelope.id holder after ∧
          ∀ steps : List Step, (∀ step ∈ steps, step.Through bundle) →
            ∀ store ∈ bundle.stores.drop place,
              ((steps.foldl perform after).driver store.driver).recordsOf envelope.id =
                (before.driver store.driver).recordsOf envelope.id := by
  intro bundle
  have alone : ∀ store ∈ bundle.stores, (before.driver store.driver).Standalone :=
    fun store member => standalone store (mem_of_mem_ofStores member)
  have delivered : deliver stream envelope categories bundle.stores before =
      (.error fault, after) := failed
  rcases @deliver_cases stream envelope categories _ _ (nodup_drivers_ofStores stores) alone with
    ⟨versions, answered, _⟩ | ⟨place, reported, answered, halted⟩
  · rw [delivered] at answered
    cases answered
  rw [delivered] at answered halted
  cases answered
  refine ⟨place, halted, ?_⟩
  intro first holder memory earlier found listed unlisted
  have shape : bundle.stores =
      bundle.stores.take first ++ holder :: bundle.stores.drop (first + 1) := by
    obtain ⟨inside, same⟩ := List.getElem?_eq_some_iff.mp found
    rw [← same, ← List.drop_eq_getElem_cons inside, List.take_append_drop]
  have null : ∀ store ∈ bundle.stores.take first, before.driver store.driver = .null := by
    intro store member
    exact (alone store (List.mem_of_mem_take member)).eq_null (unlisted store member)
  obtain ⟨version, took⟩ := halted.took earlier found
  -- Nothing before the holder keeps records, so the append came to it and was not stopped there.
  have lists : after.Lists holder.driver envelope.id := by
    have left := lists_of_deliver (bundle.stores.drop (first + 1)) null listed took
    rw [← shape, delivered] at left
    exact left
  have retains : Retains before after := by
    have kept := @retains_deliver stream envelope categories bundle.stores before
    rw [delivered] at kept
    exact kept
  have stuck : Stuck bundle envelope.id holder after :=
    stuck_of_lists shape (fun store member => retains.silent _ (null store member)) lists
  refine ⟨stuck, ?_⟩
  intro steps through store unreached
  rw [stuck.missed steps through, halted.unchanged store unreached]

/-- The third of four drivers refuses, and the second has the event by then. Nothing is gained by
letting the third accept again, nor by another stream or type. -/
theorem retries_stop_at_first_list_cleared :
    let stores : List Store :=
      [⟨"silent", 0⟩, ⟨"main", 1⟩, ⟨"orders", 1⟩, ⟨"failing", 2⟩, ⟨"last", 3⟩]
    let before : Backends :=
      { drivers := [.null, .memory {}, .memory { refusesAppends := true }, .memory {}] }
    let envelope : Envelope := { type := "Placed", id := "e1" }
    let bundle := ofStores stores
    let after := (bundle.append "shop" (.storable envelope) [] before).2
    let cleared := perform after (.refuse 2 (some false) none)
    (∀ store ∈ stores, (before.driver store.driver).Standalone) ∧
      bundle.append "shop" (.storable envelope) [] before =
        (.error (.unavailable .refusingAppends), after) ∧
      bundle.append "cart" (.storable { envelope with type := "Moved" }) ["x"] cleared =
        (.error (.duplicateEvent "e1"), cleared) := by
  intro stores before envelope bundle after cleared
  have standalone : ∀ store ∈ stores, (before.driver store.driver).Standalone := by
    simp [stores, before, Backends.driver, Driver.Standalone]
  have answered : (bundle.append "shop" (.storable envelope) [] before).1 =
      .error (.unavailable .refusingAppends) := by decide +kernel
  have failed : bundle.append "shop" (.storable envelope) [] before =
      (.error (.unavailable .refusingAppends), after) := Prod.ext answered rfl
  obtain ⟨place, halted, stuck⟩ := retries_stop_at_first_list stores "shop" envelope [] before after
    _ standalone failed
  have earlier : 1 < place := by
    obtain ⟨store, found, refused⟩ := halted.refused
    rcases place with _ | _ | place
    · cases found
      cases refused
    · cases found
      have took : (before.append 1 "shop" envelope []).1 = .ok (some 0) := by decide +kernel
      rw [took] at refused
      cases refused
    · omega
  have unlisted : ∀ store ∈ bundle.stores.take 1, ∀ memory,
      before.driver store.driver ≠ .memory memory := by
    have front : bundle.stores.take 1 = [⟨"silent", 0⟩] := by decide
    rw [front]
    intro store member memory listed
    obtain rfl := List.mem_singleton.mp member
    cases listed
  obtain ⟨⟨refused, _⟩, _⟩ := stuck 1 ⟨"main", 1⟩ {} earlier rfl rfl unlisted
  obtain ⟨fault, outcome, named⟩ := refused [.refuse 2 (some false) none] "cart"
    { envelope with type := "Moved" } ["x"] rfl
  have accepting : cleared.Accepting 1 := ⟨_, rfl, rfl⟩
  have acceptable : Record.Acceptable "cart" ["x"] :=
    Record.checkAppend_eq_ok_iff.mp (by decide +kernel)
  exact ⟨standalone, failed, (named accepting).1 acceptable ▸ outcome⟩

end Proofs.InterruptedFanOut
end EventStore
