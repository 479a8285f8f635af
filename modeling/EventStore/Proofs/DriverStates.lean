import EventStore.Storage.Backends
import EventStore.Proofs.MemorySteps

/-! What the drivers hold before and after an operation. An operation through one driver leaves
what every other one holds as it was. -/

namespace EventStore

/-- A driver that works on nothing but what it holds itself. -/
def Driver.Standalone : Driver → Prop
  | .memory _ => True
  | .null => True
  | .table _ _ => False

namespace Backends

/-- Appends through the driver are appends to the database. -/
def WritesTo (backends : Backends) (id : DriverId) (index : Nat) : Prop :=
  backends.driver id = .table index .full

theorem driver_setDriver {backends : Backends} {id : DriverId} {driver : Driver}
    (opened : id < backends.drivers.length) : (backends.setDriver id driver).driver id = driver := by
  simp [setDriver, Backends.driver, List.getD_eq_getElem?_getD, opened]

theorem database_setDatabase {backends : Backends} {index : Nat} {table : Table}
    (known : index < backends.databases.length) :
    (backends.setDatabase index table).database index = table := by
  simp [setDatabase, database, List.getD_eq_getElem?_getD, known]

theorem driver_addDriver {backends : Backends} {driver : Driver} :
    (backends.addDriver driver).2.driver (backends.addDriver driver).1 = driver := by
  simp [addDriver, Backends.driver, List.getD_eq_getElem?_getD]

/-- Nothing but an opened driver keeps records. -/
theorem opened_of_ne_null {backends : Backends} {id : DriverId} (kept : backends.driver id ≠ .null) :
    id < backends.drivers.length := by
  refine Nat.lt_of_not_le fun beyond => kept ?_
  rw [driver, List.getD_eq_getElem?_getD, List.getElem?_eq_none beyond]
  rfl

theorem opened_of_memory {backends : Backends} {id : DriverId} {memory : Memory}
    (held : backends.driver id = .memory memory) : id < backends.drivers.length :=
  opened_of_ne_null (by simp [held])

variable {backends : Backends} {id other : DriverId} {memory : Memory}

theorem driver_setDriver_other {driver : Driver} (different : other ≠ id) :
    (backends.setDriver id driver).driver other = backends.driver other := by
  simp [setDriver, Backends.driver, List.getD_eq_getElem?_getD, List.getElem?_set_ne different.symm]

theorem append_of_memory (held : backends.driver id = .memory memory) (stream : String)
    (envelope : Envelope) (categories : List String) :
    backends.append id stream envelope categories =
      ((memory.append stream envelope categories).1.map some,
        backends.setDriver id (.memory (memory.append stream envelope categories).2)) := by
  rw [append, held]

theorem driver_append_self (held : backends.driver id = .memory memory) (stream : String)
    (envelope : Envelope) (categories : List String) :
    (backends.append id stream envelope categories).2.driver id =
      .memory (memory.append stream envelope categories).2 := by
  rw [append_of_memory held]
  exact driver_setDriver (opened_of_memory held)

theorem append_of_null (held : backends.driver id = .null) (stream : String) (envelope : Envelope)
    (categories : List String) :
    backends.append id stream envelope categories = (.ok none, backends) := by
  rw [append, held]

section Append

variable {index : Nat} {stream : String} {envelope : Envelope} {categories : List String}

theorem append_of_writesTo (writes : backends.WritesTo id index) :
    backends.append id stream envelope categories =
      (((backends.database index).append stream envelope categories).1.map some,
        backends.setDatabase index
          ((backends.database index).append stream envelope categories).2) := by
  rw [append, writes]

/-- What an append through a driver does, by what the driver is. -/
theorem append_cases (backends : Backends) (id : DriverId) (stream : String) (envelope : Envelope)
    (categories : List String) :
    (∃ memory, backends.driver id = .memory memory ∧
      backends.append id stream envelope categories =
        ((memory.append stream envelope categories).1.map some,
          backends.setDriver id (.memory (memory.append stream envelope categories).2))) ∨
    (∃ index, backends.WritesTo id index ∧
      backends.append id stream envelope categories =
        (((backends.database index).append stream envelope categories).1.map some,
          backends.setDatabase index
            ((backends.database index).append stream envelope categories).2)) ∨
    ((∀ memory, backends.driver id ≠ .memory memory) ∧ (∀ index, ¬ backends.WritesTo id index) ∧
      (backends.append id stream envelope categories).2 = backends ∧
        ∀ held, (backends.append id stream envelope categories).1 ≠
          .error (.duplicateEvent held)) := by
  cases held : backends.driver id with
  | memory memory => exact .inl ⟨memory, rfl, append_of_memory held stream envelope categories⟩
  | null =>
    refine .inr (.inr ⟨nofun, by simp [WritesTo, held], ?_⟩)
    rw [append_of_null held]
    exact ⟨rfl, nofun⟩
  | table index access =>
    by_cases full : access = .full
    · subst full
      exact .inr (.inl ⟨index, held, append_of_writesTo held⟩)
    · refine .inr (.inr ⟨nofun, by simp [WritesTo, held, full], ?_⟩)
      rw [append, held]
      cases access with
      | full => exact absurd rfl full
      | readOnly | closed =>
        cases encoded : Record.encode stream envelope categories with
        | error fault =>
          obtain ⟨literal, rfl⟩ := Record.encode_eq_error encoded
          exact ⟨rfl, nofun⟩
        | ok record => exact ⟨rfl, nofun⟩

theorem driver_append_of_ne (different : other ≠ id) :
    (backends.append id stream envelope categories).2.driver other = backends.driver other := by
  rcases backends.append_cases id stream envelope categories with
    ⟨memory, _, outcome⟩ | ⟨index, _, outcome⟩ | ⟨_, _, unchanged, _⟩
  · rw [outcome]
    exact driver_setDriver_other different
  · rw [outcome]
    rfl
  · rw [unchanged]

theorem database_setDatabase_other {table : Table} {apart : Nat} (different : apart ≠ index) :
    (backends.setDatabase index table).database apart = backends.database apart := by
  simp [setDatabase, database, List.getD_eq_getElem?_getD, List.getElem?_set_ne different.symm]

theorem database_append_of_not_writesTo (apart : ¬ backends.WritesTo id index) :
    (backends.append id stream envelope categories).2.database index = backends.database index := by
  rcases backends.append_cases id stream envelope categories with
    ⟨memory, _, outcome⟩ | ⟨written, writes, outcome⟩ | ⟨_, _, unchanged, _⟩
  · rw [outcome]
    rfl
  · rw [outcome]
    apply database_setDatabase_other
    rintro rfl
    exact apart writes
  · rw [unchanged]

end Append

section Standalone

variable {before other : Backends} {id : DriverId} {stream : String} {envelope : Envelope}
  {categories : List String}

/-- What such a driver answers and keeps does not depend on any other driver. -/
theorem append_congr (standalone : (before.driver id).Standalone)
    (same : other.driver id = before.driver id) :
    (other.append id stream envelope categories).1 = (before.append id stream envelope categories).1 ∧
      (other.append id stream envelope categories).2.driver id =
        (before.append id stream envelope categories).2.driver id := by
  cases held : before.driver id with
  | memory memory =>
    have otherHeld := same.trans held
    refine ⟨?_, ?_⟩
    · rw [append_of_memory held, append_of_memory otherHeld]
    · rw [driver_append_self held, driver_append_self otherHeld]
  | null =>
    rw [append_of_null held, append_of_null (same.trans held)]
    exact ⟨rfl, same⟩
  | table database access =>
    rw [held] at standalone
    cases standalone

theorem setDriver_self {memory : Memory} (held : before.driver id = .memory memory) :
    before.setDriver id (.memory memory) = before := by
  have opened := opened_of_memory held
  rw [driver, List.getD_eq_getElem?_getD, List.getElem?_eq_getElem opened, Option.getD_some] at held
  rw [setDriver, ← held, List.set_getElem_self]

theorem append_of_error (standalone : (before.driver id).Standalone) {fault : StorageFault}
    (refused : (before.append id stream envelope categories).1 = .error fault) :
    (before.append id stream envelope categories).2 = before := by
  cases held : before.driver id with
  | memory memory =>
    rw [append_of_memory held] at refused ⊢
    have unchanged : (memory.append stream envelope categories).2 = memory := by
      rcases memory.append_cases stream envelope categories with
        ⟨_, outcome⟩ | ⟨_, _, _, outcome⟩ | ⟨_, _, _, outcome⟩ | ⟨_, _, _, outcome⟩
      · rw [outcome]
      · rw [outcome]
      · rw [outcome]
      · rw [outcome] at refused
        cases refused
    rw [unchanged]
    exact setDriver_self held
  | null =>
    rw [append_of_null held] at refused
    cases refused
  | table database access =>
    rw [held] at standalone
    cases standalone

end Standalone

end Backends
end EventStore
