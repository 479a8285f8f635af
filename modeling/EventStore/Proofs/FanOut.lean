import EventStore.Proofs.BundleDelivery
import Mathlib.Logic.ExistsUnique

/-! The end of a fan-out. A bundle is the first stores of their drivers, so every driver is asked
once, and one that refuses leaves itself and all that come after it as they were. -/

namespace EventStore

namespace Bundle

/-- The stores whose driver no earlier store has, in their order. -/
def firstOnDriver (stores : List Store) : List Store :=
  (stores.zipIdx.filter fun place =>
    place.1.driver ∉ (stores.take place.2).map (·.driver)).map Prod.fst

theorem firstOnDriver_concat (earlier : List Store) (store : Store) :
    firstOnDriver (earlier ++ [store]) =
      firstOnDriver earlier ++ if store.driver ∈ earlier.map (·.driver) then [] else [store] := by
  have before : earlier.zipIdx.filter (fun place =>
        place.1.driver ∉ ((earlier ++ [store]).take place.2).map (·.driver)) =
      earlier.zipIdx.filter fun place => place.1.driver ∉ (earlier.take place.2).map (·.driver) := by
    apply List.filter_congr
    intro place member
    have inside : place.2 < earlier.length := by
      have bound := List.snd_lt_of_mem_zipIdx member
      omega
    rw [List.take_append_of_le_length (Nat.le_of_lt inside)]
  rw [firstOnDriver, List.zipIdx_append, List.filter_append, List.map_append, before,
    ← firstOnDriver]
  congr 1
  split
  next present => simp [present]
  next absent => simp [absent]

theorem foldl_keep_eq_firstOnDriver (earlier later : List Store)
    (kept : earlier.foldl keep [] = firstOnDriver earlier) :
    later.foldl keep (earlier.foldl keep []) = firstOnDriver (earlier ++ later) := by
  induction later generalizing earlier with
  | nil => rw [List.append_nil, List.foldl_nil, kept]
  | cons store later ih =>
    have next : (earlier ++ [store]).foldl keep [] = firstOnDriver (earlier ++ [store]) := by
      have drivers := mem_drivers_foldl_keep [] earlier store.driver
      simp only [List.map_nil, List.not_mem_nil, false_or] at drivers
      rw [List.foldl_append, List.foldl_cons, List.foldl_nil, firstOnDriver_concat, ← kept]
      rcases keep_cases (earlier.foldl keep []) store with ⟨present, same⟩ | ⟨absent, longer⟩
      · rw [same, if_pos (drivers.mp present), List.append_nil]
      · rw [longer, if_neg (fun present => absent (drivers.mpr present))]
    have rest := ih (earlier ++ [store]) next
    rw [List.foldl_append, List.append_assoc] at rest
    exact rest

theorem stores_ofStores (stores : List Store) : (ofStores stores).stores = firstOnDriver stores :=
  foldl_keep_eq_firstOnDriver [] stores rfl

theorem foldl_keep_of_nodup {kept stores : List Store}
    (distinct : ((kept ++ stores).map (·.driver)).Nodup) :
    stores.foldl keep kept = kept ++ stores := by
  induction stores generalizing kept with
  | nil => rw [List.append_nil, List.foldl_nil]
  | cons store stores ih =>
    have absent : store.driver ∉ kept.map (·.driver) := by
      rw [List.map_append, List.nodup_append] at distinct
      intro present
      exact distinct.2.2 _ present _ (by simp) rfl
    rcases keep_cases kept store with ⟨present, _⟩ | ⟨_, longer⟩
    · exact absurd present absent
    · rw [List.foldl_cons, longer, ih (by simpa using distinct)]
      simp

theorem ofStores_stores (stores : List Store) :
    ofStores (ofStores stores).stores = ofStores stores := by
  have same : (ofStores stores).stores.foldl keep [] = [] ++ (ofStores stores).stores :=
    foldl_keep_of_nodup (nodup_drivers_ofStores stores)
  rw [List.nil_append] at same
  exact congrArg Bundle.mk same

inductive Ending
  | unstorable
  | delivered
  | halted

def Ends (bundle : Bundle) (stream : String) (event : Event) (categories : List String)
    (before : Backends) (answer : Except StorageFault (List (Option Nat))) (after : Backends) :
    Ending → Prop
  | .unstorable => ∃ type, event = .transient type ∧ answer = .error (.unstorable type) ∧
      after = before
  | .delivered => ∃ envelope versions, event = .storable envelope ∧ answer = .ok versions ∧
      Served stream envelope categories bundle.stores versions before after
  | .halted => ∃ envelope place fault, event = .storable envelope ∧ answer = .error fault ∧
      Halted stream envelope categories bundle.stores place fault before after

theorem existsUnique_ends {bundle : Bundle} {before : Backends} (stream : String) (event : Event)
    (categories : List String) (distinct : (bundle.stores.map (·.driver)).Nodup)
    (standalone : ∀ store ∈ bundle.stores, (before.driver store.driver).Standalone) :
    ∃! ending, Ends bundle stream event categories before
      (bundle.append stream event categories before).1
      (bundle.append stream event categories before).2 ending := by
  cases event with
  | transient type =>
    refine ⟨.unstorable, ⟨type, rfl, rfl, rfl⟩, ?_⟩
    intro ending ends
    cases ending with
    | unstorable => rfl
    | delivered =>
      obtain ⟨_, _, impossible, _⟩ := ends
      cases impossible
    | halted =>
      obtain ⟨_, _, _, impossible, _⟩ := ends
      cases impossible
  | storable envelope =>
    rw [append]
    rcases @deliver_cases stream envelope categories _ _ distinct standalone with
      ⟨versions, answered, served⟩ | ⟨place, fault, answered, halted⟩
    · refine ⟨.delivered, ⟨envelope, versions, rfl, answered, served⟩, ?_⟩
      intro ending ends
      cases ending with
      | unstorable =>
        obtain ⟨_, impossible, _⟩ := ends
        cases impossible
      | delivered => rfl
      | halted =>
        obtain ⟨_, _, _, _, refused, _⟩ := ends
        rw [answered] at refused
        cases refused
    · refine ⟨.halted, ⟨envelope, place, fault, rfl, answered, halted⟩, ?_⟩
      intro ending ends
      cases ending with
      | unstorable =>
        obtain ⟨_, impossible, _⟩ := ends
        cases impossible
      | delivered =>
        obtain ⟨_, _, _, accepted, _⟩ := ends
        rw [answered] at accepted
        cases accepted
      | halted => rfl

end Bundle

namespace Proofs.FanOut
open EventStore.Bundle

/-- A bundle holds the first store of every driver and is not changed by building it again. An
append to it ends in one of three ways: the event cannot be stored and nothing happens, every
driver takes it once, or the drivers before one that refuses took it and all others are as they
were. -/
theorem append_serves_first_stores (stores : List Store) (stream : String) (event : Event)
    (categories : List String) (before : Backends)
    (standalone : ∀ store ∈ stores, (before.driver store.driver).Standalone) :
    let bundle := ofStores stores
    bundle.stores = firstOnDriver stores ∧ ofStores bundle.stores = bundle ∧
      ∃! ending, Ends bundle stream event categories before
        (bundle.append stream event categories before).1
        (bundle.append stream event categories before).2 ending := by
  intro bundle
  have kept : ∀ store ∈ bundle.stores, (before.driver store.driver).Standalone := by
    intro store member
    exact standalone store (mem_of_mem_ofStores member)
  refine ⟨stores_ofStores stores, ofStores_stores stores, ?_⟩
  exact existsUnique_ends stream event categories (nodup_drivers_ofStores stores) kept

/-- Two stores share a driver, and the one after them refuses. The shared driver has the event once
by then, and the last store is not reached. -/
theorem append_serves_first_stores_refused :
    let stores : List Store := [⟨"main", 0⟩, ⟨"orders", 0⟩, ⟨"failing", 1⟩, ⟨"last", 2⟩]
    let before : Backends :=
      { drivers := [.memory {}, .memory { refusesAppends := true }, .memory {}] }
    let envelope : Envelope := { type := "Placed", id := "e1" }
    let event : Event := .storable envelope
    let bundle := ofStores stores
    (∀ store ∈ stores, (before.driver store.driver).Standalone) ∧
      bundle.stores = firstOnDriver stores ∧ ofStores bundle.stores = bundle ∧
        (∃! ending, Ends bundle "shop" event [] before
          (bundle.append "shop" event [] before).1 (bundle.append "shop" event [] before).2 ending) ∧
        bundle.stores = [⟨"main", 0⟩, ⟨"failing", 1⟩, ⟨"last", 2⟩] ∧
        (bundle.append "shop" event [] before).1 = .error (.unavailable .refusingAppends) ∧
        (bundle.append "shop" event [] before).2.drivers =
          [.memory { records := [Record.prepared "shop" envelope []] },
            .memory { refusesAppends := true }, .memory {}] := by
  intro stores before envelope event bundle
  have standalone : ∀ store ∈ stores, (before.driver store.driver).Standalone := by
    simp [stores, before, Backends.driver, Driver.Standalone]
  obtain ⟨first, again, ends⟩ := append_serves_first_stores stores "shop" event [] before standalone
  exact ⟨standalone, first, again, ends, by decide, by decide +kernel, rfl⟩

end Proofs.FanOut
end EventStore
