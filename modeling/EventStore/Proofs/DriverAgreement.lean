import EventStore.Proofs.DriverStates
import EventStore.Proofs.TableReads

/-! A list of records and a relational table answer alike. Both keep the same records under the
same versions after every operation, so no caller can tell from the answers which one it uses. -/

namespace EventStore.Proofs.DriverAgreement
open Proofs.StoredTexts

/-- What callers ask of a driver. A selector cannot be held unless it is valid. -/
inductive Operation
  | append (stream : String) (envelope : Envelope) (categories : List String)
  | read (selector : Selector) (valid : selector.Valid)

/-- What callers get back. A cursor is read to its end. -/
inductive Answer
  | appended (outcome : Except StorageFault (Option Nat))
  | drained (outcome : Except StorageFault (List (Except StorageFault Envelope)))

/-- No null character stands in a text that a driver is handed. Payloads are escaped. -/
def Operation.Plain : Operation → Prop
  | .append stream envelope categories =>
    Clear stream.toList ∧ Clear envelope.type.toList ∧ Clear envelope.id.toList ∧
      ∀ category ∈ categories, Clear category.toList
  | .read selector _ => selector.Plain

def perform (types : TypeHierarchy) (id : DriverId) (backends : Backends) :
    Operation → Answer × Backends
  | .append stream envelope categories =>
    let (outcome, after) := backends.append id stream envelope categories
    (.appended outcome, after)
  | .read selector _ =>
    (.drained ((backends.read types id selector).map (·.drain types)), backends)

def transcript (types : TypeHierarchy) (id : DriverId) (backends : Backends) :
    List Operation → List Answer
  | [] => []
  | operation :: operations =>
    let performed := perform types id backends operation
    performed.1 :: transcript types id performed.2 operations

def openList (backends : Backends) : DriverId × Backends := backends.addDriver (.memory {})

def openTable (backends : Backends) : DriverId × Backends :=
  backends.addDatabase.2.addDriver (.table backends.addDatabase.1 .full)

/-- The table holds the rows of the records, each under a version that no append can exhaust. -/
structure Twins (memory : Memory) (table : Table) : Prop where
  rows : table.rows = memory.records.map Row.ofRecord
  plain : ∀ record ∈ memory.records, (Row.ofRecord record).Plain
  bounded : ∀ record ∈ memory.records, record.version < memory.records.length
  appends : memory.refusesAppends = false
  reads : memory.refusesReads = false

theorem twins_empty : Twins {} {} where
  rows := rfl
  plain := by simp
  bounded := by simp
  appends := rfl
  reads := rfl

theorem plain_keeping (memory : Memory) {stream : String} {envelope : Envelope}
    {categories : List String} (plain : (Operation.append stream envelope categories).Plain) :
    (Row.ofRecord (memory.keeping stream envelope categories)).Plain := by
  obtain ⟨streamClear, typeClear, idClear, categoriesClear⟩ := plain
  intro column text held
  rw [Option.mem_def] at held
  cases column with
  | id => cases held
  | eventVersion => cases held
  | eventStream => exact Option.some.inj held ▸ streamClear
  | eventId => exact Option.some.inj held ▸ idClear
  | eventName => exact Option.some.inj held ▸ typeClear
  | eventCategories => exact clear_joinCategories categoriesClear held
  | eventDate =>
    have written : text = Timestamp.format envelope.createdAt := (Option.some.inj held).symm
    rw [written, Timestamp.format, String.toList_ofList]
    exact clear_timestamp
  | aggregateId =>
    obtain ⟨uuid, _, rfl⟩ := Option.map_eq_some_iff.mp held
    rw [Uuid.format, String.toList_ofList]
    exact clear_uuid
  | data => exact clear_encodePayload held
  | metadata => exact clear_encodePayload held

section Append

variable {memory : Memory} {table : Table} {stream : String} {envelope : Envelope}
  {categories : List String}

theorem Twins.keep (twins : Twins memory table)
    (plain : (Operation.append stream envelope categories).Plain) :
    Twins { memory with records := memory.records ++ [memory.keeping stream envelope categories] }
      { rows := table.rows ++ [Row.ofRecord (memory.keeping stream envelope categories)] } where
  rows := by rw [twins.rows, List.map_append, List.map_singleton]
  plain := by
    intro record member
    rcases List.mem_append.mp member with old | new
    · exact twins.plain record old
    · rw [List.mem_singleton.mp new]
      exact plain_keeping memory plain
  bounded := by
    intro record member
    rw [List.length_append]
    rcases List.mem_append.mp member with old | new
    · exact Nat.lt_succ_of_lt (twins.bounded record old)
    · rw [List.mem_singleton.mp new]
      exact Nat.lt_succ_of_le (Memory.freshVersion_le_length stream twins.bounded)
  appends := twins.appends
  reads := twins.reads

theorem passes_of_plain (acceptable : Record.Acceptable stream categories)
    (plain : (Operation.append stream envelope categories).Plain) :
    Table.Passes stream envelope categories :=
  ⟨acceptable, Row.isWritableRow_iff.mpr (plain_keeping {} plain)⟩

theorem append_inserts (twins : Twins memory table) (room : memory.records.length < Row.versionLimit)
    (plain : (Operation.append stream envelope categories).Plain)
    (acceptable : Record.Acceptable stream categories) :
    table.append stream envelope categories =
      match table.insert (Row.ofRecord (memory.keeping stream envelope categories)) with
      | .ok table => (.ok (memory.freshVersion stream), table)
      | .error .idTaken => (.error (.duplicateEvent envelope.id), table)
      | .error .versionTaken =>
        (.error (.versionConflict stream (memory.freshVersion stream)), table) := by
  have fresh := Table.freshVersion_eq stream twins.rows
    fun record member => Nat.lt_of_le_of_lt (twins.bounded record member) room
  have kept : table.keeping stream envelope categories =
      memory.keeping stream envelope categories := by
    rw [Table.keeping, fresh]
    rfl
  have outcome := @Table.append_of_passes table _ _ _ (passes_of_plain acceptable plain)
  rw [kept, fresh] at outcome
  exact outcome

/-- The two look for a taken identifier and for the next version in different orders. This makes
no difference, because no row has the next version. -/
theorem append_agrees (twins : Twins memory table) (room : memory.records.length < Row.versionLimit)
    (plain : (Operation.append stream envelope categories).Plain) :
    (table.append stream envelope categories).1 = (memory.append stream envelope categories).1 ∧
      Twins (memory.append stream envelope categories).2
        (table.append stream envelope categories).2 := by
  rcases memory.append_cases stream envelope categories with
    ⟨refusing, _⟩ | ⟨_, fault, refused, outcome⟩ | ⟨_, acceptable, ⟨record, member, same⟩, outcome⟩ |
      ⟨_, acceptable, unknown, outcome⟩
  · rw [twins.appends] at refusing
    cases refusing
  · rw [outcome, Table.append, refused]
    exact ⟨rfl, twins⟩
  · have known : ∃ other ∈ table.rows, other.id = envelope.id :=
      ⟨Row.ofRecord record, by rw [twins.rows]; exact List.mem_map_of_mem member, same⟩
    rw [outcome, append_inserts twins room plain acceptable, Table.insert_of_known known]
    exact ⟨rfl, twins⟩
  · have unknownRows : ∀ other ∈ table.rows, other.id ≠ envelope.id := by
      rw [twins.rows, List.forall_mem_map]
      exact unknown
    have vacant : ∀ other ∈ table.rows, other.stream = stream →
        other.version ≠ Row.storedVersion (memory.freshVersion stream) := by
      rw [twins.rows, List.forall_mem_map]
      intro record member (sameStream : record.stream = stream) taken
      have lower := Memory.lt_freshVersion member
      have upper := Memory.freshVersion_le_length stream twins.bounded
      rw [sameStream] at lower
      have same := (Row.storedVersion_inj (by omega) (by omega)).mp taken
      omega
    rw [outcome, append_inserts twins room plain acceptable,
      Table.insert_of_fresh unknownRows vacant]
    exact ⟨rfl, twins.keep plain⟩

end Append

structure Paired (left : Backends) (listed : DriverId) (right : Backends) (tabled : DriverId)
    (memory : Memory) (index : Nat) : Prop where
  listed : left.driver listed = .memory memory
  tabled : right.driver tabled = .table index .full
  known : index < right.databases.length
  twins : Twins memory (right.database index)

section Drivers

variable {types : TypeHierarchy} {left right : Backends} {listed tabled : DriverId}
  {memory : Memory} {index : Nat}

theorem perform_append_agrees (types : TypeHierarchy)
    (paired : Paired left listed right tabled memory index)
    (room : memory.records.length < Row.versionLimit) {stream : String} {envelope : Envelope}
    {categories : List String} (plain : (Operation.append stream envelope categories).Plain) :
    (perform types tabled right (.append stream envelope categories)).1 =
        (perform types listed left (.append stream envelope categories)).1 ∧
      Paired (perform types listed left (.append stream envelope categories)).2 listed
        (perform types tabled right (.append stream envelope categories)).2 tabled
        (memory.append stream envelope categories).2 index := by
  obtain ⟨same, twins⟩ := append_agrees paired.twins room plain
  simp only [perform, Backends.append, paired.listed, paired.tabled, same]
  refine ⟨trivial, ?_, paired.tabled, ?_, ?_⟩
  · exact Backends.driver_setDriver (Backends.opened_of_memory paired.listed)
  · rw [Backends.setDatabase, List.length_set]
    exact paired.known
  · rw [Backends.database_setDatabase paired.known]
    exact twins

theorem perform_read_agrees (paired : Paired left listed right tabled memory index)
    (room : memory.records.length ≤ Row.versionLimit) {selector : Selector} (valid : selector.Valid)
    (plain : selector.Plain) (typesClear : ∀ name ∈ types.names, Clear name.toList) :
    perform types tabled right (.read selector valid) =
      ((perform types listed left (.read selector valid)).1, right) := by
  have small : ∀ record ∈ memory.records, record.version < Row.versionLimit := by
    intro record member
    have bounded := paired.twins.bounded record member
    omega
  simp only [perform, Backends.read, paired.listed, paired.tabled]
  rw [Table.read_eq paired.twins.rows paired.twins.plain small paired.twins.reads valid plain
    typesClear]

theorem perform_agrees (paired : Paired left listed right tabled memory index)
    (room : memory.records.length < Row.versionLimit) {operation : Operation} (plain : operation.Plain)
    (typesClear : ∀ name ∈ types.names, Clear name.toList) :
    (perform types tabled right operation).1 = (perform types listed left operation).1 ∧
      (∀ stream version, (perform types listed left operation).1 ≠
        .appended (.error (.versionConflict stream version))) ∧
      ∃ kept : Memory, kept.records.length ≤ memory.records.length + 1 ∧
        Paired (perform types listed left operation).2 listed
          (perform types tabled right operation).2 tabled kept index := by
  cases operation with
  | append stream envelope categories =>
    obtain ⟨same, still⟩ := perform_append_agrees types paired room plain
    refine ⟨same, ?_, _, Memory.length_append_le, still⟩
    intro other version answered
    rw [perform, Backends.append, paired.listed] at answered
    have outcome :=
      memory.append_ne_versionConflict stream envelope categories other version
    cases answer : (memory.append stream envelope categories).1 with
    | error fault => simp_all [Except.map]
    | ok assigned => simp_all [Except.map]
  | read selector valid =>
    have agreed := perform_read_agrees paired (Nat.le_of_lt room) valid plain typesClear
    rw [agreed]
    refine ⟨rfl, ?_, memory, Nat.le_succ _, paired⟩
    intro other version answered
    cases answered

theorem transcripts_of_paired {operations : List Operation}
    (paired : Paired left listed right tabled memory index)
    (room : memory.records.length + operations.length ≤ Row.versionLimit)
    (plain : ∀ operation ∈ operations, operation.Plain)
    (typesClear : ∀ name ∈ types.names, Clear name.toList) :
    transcript types tabled right operations = transcript types listed left operations ∧
      ∀ stream version, .appended (.error (.versionConflict stream version)) ∉
        transcript types listed left operations := by
  induction operations generalizing left right memory with
  | nil => exact ⟨rfl, fun _ _ impossible => by cases impossible⟩
  | cons operation operations ih =>
    obtain ⟨first, rest⟩ := List.forall_mem_cons.mp plain
    rw [List.length_cons] at room
    obtain ⟨answer, noConflict, kept, longer, still⟩ :=
      perform_agrees paired (by omega) first typesClear
    obtain ⟨answers, noConflicts⟩ := ih still (by omega) rest
    constructor
    · rw [transcript, transcript, answer, answers]
    · intro stream version member
      rcases List.mem_cons.mp member with now | later
      · exact noConflict stream version now.symm
      · exact noConflicts stream version later

end Drivers

theorem paired_opened (backends : Backends) :
    Paired (openList backends).2 (openList backends).1 (openTable backends).2
      (openTable backends).1 {} backends.addDatabase.1 where
  listed := Backends.driver_addDriver
  tabled := Backends.driver_addDriver
  known := by simp [openTable, Backends.addDriver, Backends.addDatabase]
  twins := by
    have fresh : (openTable backends).2.database backends.addDatabase.1 = {} := by
      simp [openTable, Backends.addDriver, Backends.addDatabase, Backends.database,
        List.getD_eq_getElem?_getD]
    exact fresh ▸ twins_empty

/-- A driver that keeps a list of records and one that keeps a table, both newly opened, answer
every sequence of appends and reads alike, and no answer is a version conflict. The database is
relied on for texts without null characters and for versions that a signed word can hold. -/
theorem transcripts_agree (types : TypeHierarchy) (backends : Backends)
    (operations : List Operation) (typesClear : ∀ name ∈ types.names, Clear name.toList)
    (plain : ∀ operation ∈ operations, operation.Plain) (room : operations.length ≤ Row.versionLimit) :
    transcript types (openTable backends).1 (openTable backends).2 operations =
        transcript types (openList backends).1 (openList backends).2 operations ∧
      ∀ stream version, .appended (.error (.versionConflict stream version)) ∉
        transcript types (openTable backends).1 (openTable backends).2 operations := by
  have none : ({} : Memory).records.length = 0 := rfl
  obtain ⟨same, noConflict⟩ :=
    transcripts_of_paired (paired_opened backends) (by omega) plain typesClear
  rw [same]
  exact ⟨rfl, noConflict⟩

/-- An append, its repetition under the same identifier, one that names no stream, and a read. -/
theorem transcripts_agree_repeated :
    let types : TypeHierarchy := ⟨[⟨"Placed", []⟩], by simp [Layered]⟩
    let operations : List Operation :=
      [.append "shop" { type := "Placed", id := "e1" } ["orders"],
        .append "shop" { type := "Placed", id := "e1" } [],
        .append "" { type := "Placed", id := "e2" } [],
        .read Selector.all Selector.valid_all]
    (∀ name ∈ types.names, Clear name.toList) ∧
      (∀ operation ∈ operations, operation.Plain) ∧
      transcript types (openTable {}).1 (openTable {}).2 operations =
        transcript types (openList {}).1 (openList {}).2 operations := by
  intro types operations
  have typesClear : ∀ name ∈ types.names, Clear name.toList := by decide +kernel
  have plain : ∀ operation ∈ operations, operation.Plain := by
    simp only [operations, List.forall_mem_cons, Operation.Plain]
    refine ⟨by decide +kernel, by decide +kernel, by decide +kernel, ?_, by simp⟩
    exact ⟨by decide +kernel, by simp [Selector.all], by simp [Selector.all]⟩
  have room : operations.length ≤ Row.versionLimit := by decide
  exact ⟨typesClear, plain, (transcripts_agree types {} operations typesClear plain room).1⟩

end EventStore.Proofs.DriverAgreement
