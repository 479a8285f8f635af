import EventStore.Store
import EventStore.Proofs.DriverStates

/-! A bundle reaches every driver of its stores once. Which stores were left out does not matter
to the drivers: each of them receives the append that any of its stores was chosen for. -/

namespace EventStore.Bundle

theorem keep_cases (kept : List Store) (store : Store) :
    (store.driver ∈ kept.map (·.driver) ∧ keep kept store = kept) ∨
      (store.driver ∉ kept.map (·.driver) ∧ keep kept store = kept ++ [store]) := by
  have shared : kept.any store.sameDriver = true ↔ store.driver ∈ kept.map (·.driver) := by
    simp only [List.any_eq_true, Store.sameDriver, decide_eq_true_eq, List.mem_map,
      eq_comm (a := store.driver)]
  rw [keep]
  split
  next found => exact .inl ⟨shared.mp found, rfl⟩
  next missing => exact .inr ⟨fun found => missing (shared.mpr found), rfl⟩

theorem foldl_keep_subset {kept stores : List Store} {store : Store}
    (member : store ∈ stores.foldl keep kept) : store ∈ kept ∨ store ∈ stores := by
  induction stores generalizing kept with
  | nil => exact .inl member
  | cons first others ih =>
    rcases ih member with early | late
    · rcases keep_cases kept first with ⟨_, same⟩ | ⟨_, longer⟩
      · rw [same] at early
        exact .inl early
      · rw [longer] at early
        rcases List.mem_append.mp early with early | now
        · exact .inl early
        · exact .inr (List.mem_singleton.mp now ▸ List.mem_cons_self)
    · exact .inr (List.mem_cons_of_mem _ late)

theorem mem_drivers_foldl_keep (kept stores : List Store) (id : DriverId) :
    id ∈ (stores.foldl keep kept).map (·.driver) ↔
      id ∈ kept.map (·.driver) ∨ id ∈ stores.map (·.driver) := by
  induction stores generalizing kept with
  | nil => simp
  | cons first others ih =>
    rw [List.foldl_cons, ih, List.map_cons, List.mem_cons]
    rcases keep_cases kept first with ⟨present, same⟩ | ⟨_, longer⟩
    · rw [same]
      constructor
      · rintro (early | late)
        · exact .inl early
        · exact .inr (.inr late)
      · rintro (early | rfl | late)
        · exact .inl early
        · exact .inl present
        · exact .inr late
    · rw [longer, List.map_append, List.mem_append, List.map_singleton, List.mem_singleton, or_assoc]

theorem nodup_drivers_foldl_keep {kept : List Store} (stores : List Store)
    (distinct : (kept.map (·.driver)).Nodup) :
    ((stores.foldl keep kept).map (·.driver)).Nodup := by
  induction stores generalizing kept with
  | nil => exact distinct
  | cons first others ih =>
    rw [List.foldl_cons]
    apply ih
    rcases keep_cases kept first with ⟨_, same⟩ | ⟨absent, longer⟩
    · rw [same]
      exact distinct
    · rw [longer, List.map_append, List.nodup_append]
      refine ⟨distinct, by simp, ?_⟩
      intro early member id now equal
      rw [List.map_singleton, List.mem_singleton] at now
      rw [equal, now] at member
      exact absent member

theorem mem_of_mem_ofStores {stores : List Store} {store : Store}
    (member : store ∈ (ofStores stores).stores) : store ∈ stores := by
  rcases foldl_keep_subset member with impossible | inside
  · cases impossible
  · exact inside

theorem mem_drivers_ofStores {stores : List Store} {id : DriverId} :
    id ∈ (ofStores stores).stores.map (·.driver) ↔ id ∈ stores.map (·.driver) := by
  rw [ofStores, mem_drivers_foldl_keep]
  simp

theorem nodup_drivers_ofStores (stores : List Store) :
    ((ofStores stores).stores.map (·.driver)).Nodup :=
  nodup_drivers_foldl_keep stores List.nodup_nil

section Delivery

variable {stream : String} {envelope : Envelope} {categories : List String}

/-- A delivery that succeeds was accepted by the list of every driver it names, and only by it. -/
structure Delivered (stream : String) (envelope : Envelope) (categories : List String)
    (stores : List Store) (before after : Backends) : Prop where
  reached : ∀ store ∈ stores, ∀ memory, before.driver store.driver = .memory memory →
    ∃ version, (memory.append stream envelope categories).1 = .ok version ∧
      after.driver store.driver = .memory (memory.append stream envelope categories).2
  others : ∀ id, id ∉ stores.map (·.driver) → after.driver id = before.driver id

/-- The stores took the append in their order, each of them once and on what its driver held
before; nothing else was touched. -/
structure Served (stream : String) (envelope : Envelope) (categories : List String)
    (stores : List Store) (versions : List (Option Nat)) (before after : Backends) : Prop where
  answered : stores.map (fun store =>
    (before.append store.driver stream envelope categories).1) = versions.map .ok
  written : ∀ store ∈ stores, after.driver store.driver =
    (before.append store.driver stream envelope categories).2.driver store.driver
  untouched : ∀ id, id ∉ stores.map (·.driver) → after.driver id = before.driver id
  once : after = stores.foldl
    (fun backends store => (backends.append store.driver stream envelope categories).2) before

theorem served_nil (before : Backends) : Served stream envelope categories [] [] before before where
  answered := rfl
  written := by simp
  untouched _ _ := rfl
  once := rfl

theorem driver_append_of_absent {first : Store} {others : List Store} {before : Backends}
    (absent : first.driver ∉ others.map (·.driver)) :
    ∀ store ∈ others, (before.append first.driver stream envelope categories).2.driver store.driver =
      before.driver store.driver := by
  intro store member
  apply Backends.driver_append_of_ne
  intro same
  exact absent (List.mem_map.mpr ⟨store, member, same⟩)

/-- A store is served before the others without any of them noticing. -/
theorem Served.cons {first : Store} {others : List Store} {version : Option Nat}
    {versions : List (Option Nat)} {before after : Backends}
    (absent : first.driver ∉ others.map (·.driver))
    (standalone : ∀ store ∈ first :: others, (before.driver store.driver).Standalone)
    (wrote : (before.append first.driver stream envelope categories).1 = .ok version)
    (rest : Served stream envelope categories others versions
      (before.append first.driver stream envelope categories).2 after) :
    Served stream envelope categories (first :: others) (version :: versions) before after := by
  obtain ⟨firstAlone, othersAlone⟩ := List.forall_mem_cons.mp standalone
  have unnoticed := @driver_append_of_absent stream envelope categories _ _ before absent
  constructor
  · have same : others.map (fun store =>
          (before.append store.driver stream envelope categories).1) =
        others.map fun store => ((before.append first.driver stream envelope categories).2.append
          store.driver stream envelope categories).1 := by
      apply List.map_congr_left
      intro store member
      exact (Backends.append_congr (othersAlone store member) (unnoticed store member)).1.symm
    rw [List.map_cons, List.map_cons, wrote, same, rest.answered]
  · intro store member
    rcases List.mem_cons.mp member with rfl | member
    · exact rest.untouched _ absent
    · rw [rest.written store member]
      exact (Backends.append_congr (othersAlone store member) (unnoticed store member)).2
  · intro id outside
    rw [List.map_cons, List.mem_cons, not_or] at outside
    exact (rest.untouched id outside.2).trans (Backends.driver_append_of_ne outside.1)
  · rw [List.foldl_cons]
    exact rest.once

/-- The store at a place refused the append, after all before it had taken it. -/
structure Halted (stream : String) (envelope : Envelope) (categories : List String)
    (stores : List Store) (place : Nat) (fault : StorageFault) (before after : Backends) : Prop where
  served : ∃ versions, Served stream envelope categories (stores.take place) versions before after
  refused : ∃ store, stores[place]? = some store ∧
    (before.append store.driver stream envelope categories).1 = .error fault
  unchanged : ∀ store ∈ stores.drop place, after.driver store.driver = before.driver store.driver

theorem deliver_cons_error {first : Store} {others : List Store} {before : Backends}
    {fault : StorageFault}
    (refused : (before.append first.driver stream envelope categories).1 = .error fault) :
    deliver stream envelope categories (first :: others) before =
      (.error fault, (before.append first.driver stream envelope categories).2) := by
  rw [deliver]
  split
  next reported next outcome =>
    rw [outcome] at refused ⊢
    cases refused
    rfl
  next version next outcome =>
    rw [outcome] at refused
    cases refused

theorem deliver_cons_ok {first : Store} {others : List Store} {before : Backends}
    {version : Option Nat}
    (wrote : (before.append first.driver stream envelope categories).1 = .ok version) :
    deliver stream envelope categories (first :: others) before =
      ((deliver stream envelope categories others
          (before.append first.driver stream envelope categories).2).1.map (version :: ·),
        (deliver stream envelope categories others
          (before.append first.driver stream envelope categories).2).2) := by
  rw [deliver]
  split
  next fault next outcome =>
    rw [outcome] at wrote
    cases wrote
  next number next outcome =>
    rw [outcome] at wrote ⊢
    cases wrote
    rfl

theorem deliver_cases {stores : List Store} {before : Backends}
    (distinct : (stores.map (·.driver)).Nodup)
    (standalone : ∀ store ∈ stores, (before.driver store.driver).Standalone) :
    (∃ versions, (deliver stream envelope categories stores before).1 = .ok versions ∧
      Served stream envelope categories stores versions before
        (deliver stream envelope categories stores before).2) ∨
    ∃ place fault, (deliver stream envelope categories stores before).1 = .error fault ∧
      Halted stream envelope categories stores place fault before
        (deliver stream envelope categories stores before).2 := by
  induction stores generalizing before with
  | nil => exact .inl ⟨[], rfl, served_nil before⟩
  | cons first others ih =>
    obtain ⟨absent, rest⟩ := List.nodup_cons.mp distinct
    obtain ⟨firstAlone, othersAlone⟩ := List.forall_mem_cons.mp standalone
    cases wrote : (before.append first.driver stream envelope categories).1 with
    | error fault =>
      rw [deliver_cons_error wrote, Backends.append_of_error firstAlone wrote]
      exact .inr ⟨0, fault, rfl, ⟨[], served_nil before⟩, ⟨first, rfl, wrote⟩, fun _ _ => rfl⟩
    | ok version =>
      have unnoticed := @driver_append_of_absent stream envelope categories _ _ before absent
      have stillAlone : ∀ store ∈ others, ((before.append first.driver stream envelope
          categories).2.driver store.driver).Standalone := by
        intro store member
        rw [unnoticed store member]
        exact othersAlone store member
      rw [deliver_cons_ok wrote]
      -- The other drivers are as they were before the first append, so what holds of the rest of
      -- the delivery holds of it from the start.
      rcases ih rest stillAlone with ⟨versions, answered, served⟩ | ⟨place, fault, answered, halted⟩
      · rw [answered]
        exact .inl ⟨version :: versions, rfl, served.cons absent standalone wrote⟩
      · rw [answered]
        refine .inr ⟨place + 1, fault, rfl, ?_⟩
        obtain ⟨versions, served⟩ := halted.served
        obtain ⟨store, found, refused⟩ := halted.refused
        have among : store ∈ others := List.mem_of_getElem? found
        have within : others.take place ⊆ others := List.take_subset place others
        refine ⟨⟨version :: versions, ?_⟩, ⟨store, found, ?_⟩, ?_⟩
        · apply served.cons _ _ wrote
          · intro member
            exact absent (List.map_subset _ within member)
          · intro store member
            rcases List.mem_cons.mp member with rfl | member
            · exact firstAlone
            · exact othersAlone store (within member)
        · rw [← (Backends.append_congr (othersAlone store among) (unnoticed store among)).1]
          exact refused
        · intro store member
          rw [halted.unchanged store member]
          exact unnoticed store (List.mem_of_mem_drop member)

theorem Served.delivered {stores : List Store} {versions : List (Option Nat)}
    {before after : Backends}
    (served : Served stream envelope categories stores versions before after) :
    Delivered stream envelope categories stores before after := by
  constructor
  · intro store member memory held
    have answer : (before.append store.driver stream envelope categories).1 ∈ versions.map .ok := by
      rw [← served.answered]
      exact List.mem_map_of_mem member
    obtain ⟨_, _, accepted⟩ := List.mem_map.mp answer
    rw [Backends.append_of_memory held] at accepted
    have written := served.written store member
    rw [Backends.driver_append_self held] at written
    cases answered : (memory.append stream envelope categories).1 with
    | error fault =>
      rw [answered] at accepted
      cases accepted
    | ok version => exact ⟨version, rfl, written⟩
  · exact served.untouched

/-- A delivery to stores on different drivers goes through each of their lists once. -/
theorem delivered_of_deliver {stores : List Store} {before after : Backends}
    {versions : List (Option Nat)} (distinct : (stores.map (·.driver)).Nodup)
    (held : ∀ store ∈ stores, ∃ memory, before.driver store.driver = .memory memory)
    (succeeded : deliver stream envelope categories stores before = (.ok versions, after)) :
    Delivered stream envelope categories stores before after := by
  have standalone : ∀ store ∈ stores, (before.driver store.driver).Standalone := by
    intro store member
    obtain ⟨memory, same⟩ := held store member
    rw [same]
    trivial
  rcases @deliver_cases stream envelope categories _ _ distinct standalone with
    ⟨_, _, served⟩ | ⟨_, _, refused, _⟩
  · rw [succeeded] at served
    exact served.delivered
  · rw [succeeded] at refused
    cases refused

end Delivery

end EventStore.Bundle
