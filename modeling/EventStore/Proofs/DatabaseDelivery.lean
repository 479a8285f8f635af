import EventStore.Proofs.BundleDelivery
import EventStore.Proofs.TableRows

/-! Deliveries to drivers of every kind. Two drivers may write to one database, and the second of
them finds there what the first has written. That is the only way in which a delivery of an
identifier that nothing holds can be refused as a repetition. -/

namespace EventStore

namespace Backends

def Holds (backends : Backends) (index : Nat) (id : String) : Prop :=
  ∃ row ∈ (backends.database index).rows, row.id = id

/-- No list and no database holds the identifier. -/
structure Free (backends : Backends) (id : String) : Prop where
  records : ∀ driver memory, backends.driver driver = .memory memory →
    ∀ record ∈ memory.records, record.id ≠ id
  rows : ∀ index, ¬ backends.Holds index id

/-- The drivers work on the same databases and may do the same with them. -/
structure Alike (before after : Backends) : Prop where
  length : after.databases.length = before.databases.length
  tables : ∀ id index access,
    after.driver id = .table index access ↔ before.driver id = .table index access

/-- A database is as it was, or has one more row, which is that of the identifier. -/
def OneMore (before after : Backends) (id : String) : Prop :=
  ∀ index, after.database index = before.database index ∨
    ∃ row : Row, row.id = id ∧
      after.database index = { rows := (before.database index).rows ++ [row] }

variable {backends before middle after : Backends} {id other : DriverId} {index : Nat}

theorem mem_driver {driver : Driver} (held : backends.driver id = driver) (kept : driver ≠ .null) :
    driver ∈ backends.drivers := by
  have opened : id < backends.drivers.length := opened_of_ne_null (held ▸ kept)
  rw [Backends.driver, List.getD_eq_getElem?_getD, List.getElem?_eq_getElem opened,
    Option.getD_some] at held
  exact held ▸ List.getElem_mem opened

theorem setDatabase_of_unknown {table : Table} (unknown : backends.databases.length ≤ index) :
    backends.setDatabase index table = backends := by
  rw [setDatabase, List.set_eq_of_length_le unknown]

section Append

variable {stream : String} {envelope : Envelope} {categories : List String}

theorem Alike.refl (backends : Backends) : Alike backends backends := ⟨rfl, fun _ _ _ => Iff.rfl⟩

theorem Alike.trans (first : Alike before middle) (last : Alike middle after) :
    Alike before after where
  length := last.length.trans first.length
  tables id index access := (last.tables id index access).trans (first.tables id index access)

theorem alike_append (backends : Backends) (id : DriverId) :
    Alike backends (backends.append id stream envelope categories).2 := by
  rcases backends.append_cases id stream envelope categories with
    ⟨memory, held, outcome⟩ | ⟨index, _, outcome⟩ | ⟨_, _, unchanged, _⟩
  · rw [outcome]
    refine ⟨rfl, ?_⟩
    intro other index access
    by_cases same : other = id
    · rw [same, driver_setDriver (opened_of_memory held), held]
      simp
    · rw [driver_setDriver_other same]
  · rw [outcome]
    exact ⟨List.length_set, fun _ _ _ => Iff.rfl⟩
  · rw [unchanged]
    exact .refl backends

/-- An append leaves each database alone, or adds the row of the event where there was none. -/
theorem database_append (backends : Backends) (id : DriverId) (index : Nat) (stream : String)
    (envelope : Envelope) (categories : List String) :
    (backends.append id stream envelope categories).2.database index = backends.database index ∨
      ¬ backends.Holds index envelope.id ∧ ∃ row : Row, row.id = envelope.id ∧
        (backends.append id stream envelope categories).2.database index =
          { rows := (backends.database index).rows ++ [row] } := by
  by_cases writes : backends.WritesTo id index
  · rw [append_of_writesTo writes]
    rcases Nat.lt_or_ge index backends.databases.length with known | unknown
    · rw [database_setDatabase known]
      rcases (backends.database index).rows_append stream envelope categories with
        unchanged | ⟨absent, added⟩
      · exact .inl unchanged
      · refine .inr ⟨?_, added⟩
        intro holds
        obtain ⟨row, inside, same⟩ := holds
        exact absent row inside same
    · rw [setDatabase_of_unknown unknown]
      exact .inl rfl
  · exact .inl (database_append_of_not_writesTo writes)

theorem Free.append {held : String} (free : backends.Free held) (different : envelope.id ≠ held) :
    (backends.append id stream envelope categories).2.Free held where
  records driver memory kept record inside := by
    by_cases same : driver = id
    · subst same
      rcases backends.append_cases driver stream envelope categories with
        ⟨before, holds, outcome⟩ | ⟨index, _, outcome⟩ | ⟨_, _, unchanged, _⟩
      · rw [outcome, driver_setDriver (opened_of_memory holds), Driver.memory.injEq] at kept
        rw [← kept] at inside
        rcases Memory.mem_records_append inside with old | new
        · exact free.records driver before holds record old
        · rw [new]
          exact different
      · rw [outcome] at kept
        exact free.records driver memory kept record inside
      · rw [unchanged] at kept
        exact free.records driver memory kept record inside
    · rw [driver_append_of_ne same] at kept
      exact free.records driver memory kept record inside
  rows index := by
    intro holds
    obtain ⟨row, inside, same⟩ := holds
    rcases backends.database_append id index stream envelope categories with
      unchanged | ⟨_, added, named, grown⟩
    · rw [unchanged] at inside
      exact free.rows index ⟨row, inside, same⟩
    · rw [grown] at inside
      rcases List.mem_append.mp inside with old | new
      · exact free.rows index ⟨row, old, same⟩
      · rw [List.mem_singleton.mp new, named] at same
        exact different same

theorem OneMore.append (more : OneMore before middle envelope.id) :
    OneMore before (middle.append id stream envelope categories).2 envelope.id := by
  intro index
  rcases middle.database_append id index stream envelope categories with
    unchanged | ⟨absent, added, named, grown⟩
  · rw [unchanged]
    exact more index
  · rcases more index with same | ⟨row, already, present⟩
    · rw [grown, same]
      exact .inr ⟨added, named, rfl⟩
    · have inside : row ∈ (middle.database index).rows := by
        rw [present]
        exact List.mem_append_right _ List.mem_cons_self
      exact absurd ⟨row, inside, already⟩ absent

theorem Holds.append {held : String} (holds : backends.Holds index held) :
    (backends.append id stream envelope categories).2.Holds index held := by
  obtain ⟨row, inside, same⟩ := holds
  refine ⟨row, ?_, same⟩
  rcases backends.database_append id index stream envelope categories with
    unchanged | ⟨_, added, _, grown⟩
  · rw [unchanged]
    exact inside
  · rw [grown]
    exact List.mem_append_left _ inside

theorem holds_of_append {version : Option Nat} (writes : backends.WritesTo id index)
    (known : index < backends.databases.length)
    (answered : (backends.append id stream envelope categories).1 = .ok version) :
    Table.Passes stream envelope categories ∧
      (backends.append id stream envelope categories).2.Holds index envelope.id := by
  rw [append_of_writesTo writes] at answered ⊢
  rcases (backends.database index).append_cases stream envelope categories with
    ⟨_, _, answer, _⟩ | ⟨_, _, answer⟩ | ⟨passes, _, answer⟩
  · rw [answer] at answered
    cases answered
  · rw [answer] at answered
    cases answered
  · rw [answer, Holds, database_setDatabase known]
    exact ⟨passes, _, List.mem_append_right _ List.mem_cons_self, rfl⟩

theorem append_of_holds (writes : backends.WritesTo id index)
    (passes : Table.Passes stream envelope categories)
    (holds : backends.Holds index envelope.id) :
    (backends.append id stream envelope categories).1 = .error (.duplicateEvent envelope.id) := by
  rw [append_of_writesTo writes]
  rcases (backends.database index).append_cases stream envelope categories with
    ⟨stopped, _⟩ | ⟨_, _, answer⟩ | ⟨_, absent, _⟩
  · rcases stopped with impassable | absent
    · exact absurd passes impassable
    · obtain ⟨row, inside, same⟩ := holds
      exact absurd same (absent row inside)
  · simp only [answer]
    rfl
  · obtain ⟨row, inside, same⟩ := holds
    exact absurd same (absent row inside)

theorem held_of_append {held : String}
    (answered : (backends.append id stream envelope categories).1 = .error (.duplicateEvent held)) :
    held = envelope.id ∧
      ((∃ memory, backends.driver id = .memory memory ∧
          ∃ record ∈ memory.records, record.id = envelope.id) ∨
        ∃ index, backends.WritesTo id index ∧ backends.Holds index envelope.id) := by
  rcases backends.append_cases id stream envelope categories with
    ⟨memory, holds, outcome⟩ | ⟨index, writes, outcome⟩ | ⟨_, _, _, never⟩
  · rw [outcome] at answered
    rcases memory.append_cases stream envelope categories with
      ⟨_, answer⟩ | ⟨_, _, _, answer⟩ | ⟨_, _, known, answer⟩ | ⟨_, _, _, answer⟩
    · rw [answer] at answered
      cases answered
    · rw [answer] at answered
      cases answered
    · rw [answer] at answered
      cases answered
      exact ⟨rfl, .inl ⟨memory, holds, known⟩⟩
    · rw [answer] at answered
      cases answered
  · rw [outcome] at answered
    rcases (backends.database index).append_cases stream envelope categories with
      ⟨_, fault, answer, other⟩ | ⟨_, known, answer⟩ | ⟨_, _, answer⟩
    · rw [answer] at answered
      cases answered
      exact absurd rfl (other held)
    · rw [answer] at answered
      cases answered
      exact ⟨rfl, .inr ⟨index, writes, known⟩⟩
    · rw [answer] at answered
      cases answered
  · exact absurd answered (never held)

end Append
end Backends

namespace Bundle
open Backends Proofs.Outcomes

variable {stream : String} {envelope : Envelope} {categories : List String} {stores : List Store}
  {before : Backends}

/-- Whatever every append to one of the stores keeps, a delivery keeps, however it ends. -/
theorem deliver_preserves (Kept : Backends → Prop)
    (step : ∀ store ∈ stores, ∀ backends, Kept backends →
      Kept (backends.append store.driver stream envelope categories).2) (kept : Kept before) :
    Kept (deliver stream envelope categories stores before).2 := by
  induction stores generalizing before with
  | nil => exact kept
  | cons first others ih =>
    obtain ⟨here, further⟩ := List.forall_mem_cons.mp step
    have next := here before kept
    cases wrote : (before.append first.driver stream envelope categories).1 with
    | error fault =>
      rw [deliver_cons_error wrote]
      exact next
    | ok version =>
      rw [deliver_cons_ok wrote]
      exact ih further next

theorem alike_deliver (stores : List Store) (before : Backends) :
    Alike before (deliver stream envelope categories stores before).2 :=
  deliver_preserves (Alike before)
    (fun store _ backends kept => kept.trans (alike_append backends store.driver)) (.refl before)

theorem free_deliver {held : String} (free : before.Free held) (different : envelope.id ≠ held) :
    (deliver stream envelope categories stores before).2.Free held :=
  deliver_preserves (·.Free held) (fun _ _ _ kept => kept.append different) free

theorem oneMore_deliver (stores : List Store) (before : Backends) :
    OneMore before (deliver stream envelope categories stores before).2 envelope.id :=
  deliver_preserves (OneMore before · envelope.id) (fun _ _ _ kept => kept.append) fun _ => .inl rfl

theorem driver_deliver_of_not_mem {id : DriverId} (absent : id ∉ stores.map (·.driver)) :
    (deliver stream envelope categories stores before).2.driver id = before.driver id := by
  refine deliver_preserves (·.driver id = before.driver id) ?_ rfl
  intro store member backends kept
  rw [driver_append_of_ne, kept]
  rintro rfl
  exact absent (List.mem_map_of_mem member)

theorem database_deliver_of_not_writesTo {index : Nat}
    (apart : ∀ store ∈ stores, ¬ before.WritesTo store.driver index) :
    (deliver stream envelope categories stores before).2.database index = before.database index := by
  refine (deliver_preserves
    (fun after => Alike before after ∧ after.database index = before.database index) ?_
    ⟨.refl before, rfl⟩).2
  intro store member backends kept
  refine ⟨kept.1.trans (alike_append backends store.driver), ?_⟩
  rw [database_append_of_not_writesTo, kept.2]
  intro writes
  exact apart store member ((kept.1.tables _ _ _).mp writes)

theorem deliver_cons_eq_ok {first : Store} {others : List Store} {versions : List (Option Nat)}
    (answered : (deliver stream envelope categories (first :: others) before).1 = .ok versions) :
    ∃ version rest, (before.append first.driver stream envelope categories).1 = .ok version ∧
      (deliver stream envelope categories others
        (before.append first.driver stream envelope categories).2).1 = .ok rest := by
  cases wrote : (before.append first.driver stream envelope categories).1 with
  | error fault =>
    rw [deliver_cons_error wrote] at answered
    cases answered
  | ok version =>
    rw [deliver_cons_ok wrote] at answered
    obtain ⟨rest, delivered, _⟩ := map_eq_ok_iff.mp answered
    exact ⟨version, rest, rfl, delivered⟩

theorem deliver_eq_error_iff {fault : StorageFault} :
    (deliver stream envelope categories stores before).1 = .error fault ↔
      ∃ earlier store later versions, stores = earlier ++ store :: later ∧
        (deliver stream envelope categories earlier before).1 = .ok versions ∧
        ((deliver stream envelope categories earlier before).2.append store.driver stream envelope
          categories).1 = .error fault := by
  induction stores generalizing before with
  | nil =>
    refine iff_of_false nofun ?_
    rintro ⟨earlier, store, later, _, same, _⟩
    cases earlier <;> cases same
  | cons first others ih =>
    constructor
    · intro failed
      cases wrote : (before.append first.driver stream envelope categories).1 with
      | error reported =>
        rw [deliver_cons_error wrote] at failed
        cases failed
        exact ⟨[], first, others, [], rfl, rfl, wrote⟩
      | ok version =>
        rw [deliver_cons_ok wrote] at failed
        obtain ⟨earlier, store, later, versions, same, taken, refused⟩ :=
          ih.mp (map_eq_error_iff.mp failed)
        refine ⟨first :: earlier, store, later, version :: versions, by rw [same]; rfl, ?_⟩
        rw [deliver_cons_ok wrote, taken]
        exact ⟨rfl, refused⟩
    · rintro ⟨earlier, store, later, versions, same, taken, refused⟩
      cases earlier with
      | nil =>
        cases same
        exact congrArg Prod.fst (deliver_cons_error refused)
      | cons prior earlier =>
        cases same
        obtain ⟨version, rest, wrote, delivered⟩ := deliver_cons_eq_ok taken
        rw [deliver_cons_ok wrote] at refused ⊢
        exact map_eq_error_iff.mpr (ih.mpr ⟨earlier, store, later, rest, rfl, delivered, refused⟩)

theorem deliver_append_of_ok {earlier later : List Store} {versions : List (Option Nat)}
    (taken : (deliver stream envelope categories earlier before).1 = .ok versions) :
    (deliver stream envelope categories (earlier ++ later) before).2 =
      (deliver stream envelope categories later
        (deliver stream envelope categories earlier before).2).2 := by
  induction earlier generalizing before versions with
  | nil => rfl
  | cons first others ih =>
    obtain ⟨version, rest, wrote, delivered⟩ := deliver_cons_eq_ok taken
    rw [List.cons_append, deliver_cons_ok wrote, deliver_cons_ok wrote]
    exact ih delivered

theorem holds_of_deliver {versions : List (Option Nat)} {store : Store} {index : Nat}
    (answered : (deliver stream envelope categories stores before).1 = .ok versions)
    (member : store ∈ stores) (writes : before.WritesTo store.driver index)
    (known : index < before.databases.length) :
    Table.Passes stream envelope categories ∧
      (deliver stream envelope categories stores before).2.Holds index envelope.id := by
  induction stores generalizing before versions with
  | nil => cases member
  | cons first others ih =>
    obtain ⟨version, rest, wrote, delivered⟩ := deliver_cons_eq_ok answered
    rw [deliver_cons_ok wrote]
    rcases List.mem_cons.mp member with rfl | later
    · obtain ⟨passes, holds⟩ := holds_of_append writes known wrote
      exact ⟨passes, deliver_preserves (·.Holds index _) (fun _ _ _ kept => kept.append) holds⟩
    · have alike : Alike before (before.append first.driver stream envelope categories).2 :=
        alike_append before first.driver
      exact ih delivered later ((alike.tables _ _ _).mpr writes) (alike.length ▸ known)

/-- A store is reached whose database an earlier one has written to already. -/
def Clashes (stream : String) (envelope : Envelope) (categories : List String)
    (stores : List Store) (before : Backends) : Prop :=
  ∃ earlier store later, stores = earlier ++ store :: later ∧
    (∃ versions, (deliver stream envelope categories earlier before).1 = .ok versions) ∧
      ∃ prior ∈ earlier, ∃ index,
        before.WritesTo prior.driver index ∧ before.WritesTo store.driver index

section Fresh

variable (distinct : (stores.map (·.driver)).Nodup) (free : before.Free envelope.id)
  (known : ∀ id index access, before.driver id = .table index access →
    index < before.databases.length)
include distinct free known

/-- An event that nothing holds is refused as a repetition exactly if stores clash over it. -/
theorem deliver_repeats_iff {held : String} :
    (deliver stream envelope categories stores before).1 = .error (.duplicateEvent held) ↔
      held = envelope.id ∧ Clashes stream envelope categories stores before := by
  rw [deliver_eq_error_iff]
  constructor
  · rintro ⟨earlier, store, later, versions, rfl, taken, refused⟩
    obtain ⟨same, ⟨memory, listed, record, inside, named⟩ | ⟨index, writes, holds⟩⟩ :=
      held_of_append refused
    · -- The list is still the one before the delivery, for no earlier store has its driver.
      have absent : store.driver ∉ earlier.map (·.driver) := by
        rw [List.map_append, List.nodup_append] at distinct
        intro member
        exact distinct.2.2 _ member _ List.mem_cons_self rfl
      rw [driver_deliver_of_not_mem absent] at listed
      exact absurd named (free.records store.driver memory listed record inside)
    · refine ⟨same, earlier, store, later, rfl, ⟨versions, taken⟩, ?_⟩
      have alike : Alike before (deliver stream envelope categories earlier before).2 :=
        alike_deliver earlier before
      by_contra apart
      have untouched : (deliver stream envelope categories earlier before).2.database index =
          before.database index := by
        apply database_deliver_of_not_writesTo
        intro prior member also
        exact apart ⟨prior, member, index, also, (alike.tables _ _ _).mp writes⟩
      rw [Holds, untouched] at holds
      exact free.rows index holds
  · rintro ⟨rfl, earlier, store, later, rfl, ⟨versions, taken⟩, prior, member, index, first, second⟩
    obtain ⟨passes, holds⟩ := holds_of_deliver taken member first (known _ _ _ first)
    have alike : Alike before (deliver stream envelope categories earlier before).2 :=
      alike_deliver earlier before
    exact ⟨earlier, store, later, versions, rfl, taken,
      append_of_holds ((alike.tables _ _ _).mpr second) passes holds⟩

end Fresh

theorem Clashes.holds (clashes : Clashes stream envelope categories stores before)
    (known : ∀ id index access, before.driver id = .table index access →
      index < before.databases.length) :
    ∃ index, (deliver stream envelope categories stores before).2.Holds index envelope.id := by
  obtain ⟨earlier, store, later, rfl, ⟨versions, taken⟩, prior, member, index, writes, _⟩ := clashes
  obtain ⟨_, holds⟩ := holds_of_deliver taken member writes (known _ _ _ writes)
  rw [deliver_append_of_ok taken]
  exact ⟨index, deliver_preserves (·.Holds index _) (fun _ _ _ kept => kept.append) holds⟩

end Bundle
end EventStore
