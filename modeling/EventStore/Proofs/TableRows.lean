import EventStore.Storage.Table
import EventStore.Proofs.MemorySteps
import Mathlib.Data.List.TakeWhile

/-! Records as rows of the relational table. Versions stay what they are while they fit a signed
word, and texts without null characters pass statements and patterns whole. -/

namespace EventStore
open Proofs.StoredTexts

namespace Row

/-- Versions from here on do not fit a signed word. -/
def versionLimit : Nat := 9223372036854775808

theorem toInt_storedVersion {version : Nat} (small : version < versionLimit) :
    (storedVersion version).toInt = version := by
  rw [storedVersion, UInt64.toInt64_ofNat', Int64.toInt_ofNat_of_lt small]

theorem toNat_storedVersion {version : Nat} (small : version < versionLimit) :
    (storedVersion version).toUInt64.toNat = version := by
  have fits : version < UInt64.size := Nat.lt_trans small (by decide)
  rw [storedVersion, UInt64.toUInt64_toInt64, UInt64.toNat_ofNat_of_lt' fits]

theorem storedVersion_lt {left right : Nat} (leftSmall : left < versionLimit)
    (rightSmall : right < versionLimit) :
    storedVersion left < storedVersion right ↔ left < right := by
  rw [Int64.lt_iff_toInt_lt, toInt_storedVersion leftSmall, toInt_storedVersion rightSmall,
    Int.ofNat_lt]

theorem storedVersion_inj {left right : Nat} (leftSmall : left < versionLimit)
    (rightSmall : right < versionLimit) : storedVersion left = storedVersion right ↔ left = right := by
  constructor
  · intro same
    have both := congrArg Int64.toInt same
    rw [toInt_storedVersion leftSmall, toInt_storedVersion rightSmall] at both
    exact Int.ofNat_inj.mp both
  · rintro rfl
    rfl

theorem foldl_storedVersion {first : Nat} {others : List Nat} (firstSmall : first < versionLimit)
    (small : ∀ version ∈ others, version < versionLimit) :
    (others.map storedVersion).foldl (fun left right => if left < right then right else left)
      (storedVersion first) = storedVersion (others.foldl max first) := by
  induction others generalizing first with
  | nil => rfl
  | cons next others ih =>
    obtain ⟨nextSmall, small⟩ := List.forall_mem_cons.mp small
    have greater : (if storedVersion first < storedVersion next then storedVersion next
        else storedVersion first) = storedVersion (max first next) := by
      split
      next less =>
        have less := (storedVersion_lt firstSmall nextSmall).mp less
        rw [Nat.max_eq_right (Nat.le_of_lt less)]
      next notLess =>
        rw [storedVersion_lt firstSmall nextSmall] at notLess
        rw [Nat.max_eq_left (Nat.le_of_not_lt notLess)]
    rw [List.map_cons, List.foldl_cons, List.foldl_cons, greater]
    exact ih (Nat.max_lt.mpr ⟨firstSmall, nextSmall⟩) small

/-- A record comes back from its row unless its version is too great for an unsigned word. -/
theorem toRecord_ofRecord {record : Record} (small : record.version < versionLimit) :
    (ofRecord record).toRecord = record := by
  cases record
  simp only [ofRecord, toRecord, toNat_storedVersion small]

end Row

namespace Table

def keeping (table : Table) (stream : String) (envelope : Envelope) (categories : List String) :
    Record :=
  { Record.prepared stream envelope categories with version := table.freshVersion stream }

theorem freshVersion_eq {table : Table} {memory : Memory} (stream : String)
    (rows : table.rows = memory.records.map Row.ofRecord)
    (small : ∀ record ∈ memory.records, record.version + 1 < Row.versionLimit) :
    table.freshVersion stream = memory.freshVersion stream := by
  have stored : (table.rows.filter (·.stream = stream)).map (·.version) =
      (memory.versions stream).map Row.storedVersion := by
    rw [rows, Memory.versions, List.filter_map, List.map_map, List.map_map]
    rfl
  have versionsSmall : ∀ version ∈ memory.versions stream, version + 1 < Row.versionLimit := by
    intro version member
    obtain ⟨record, kept, rfl⟩ := List.mem_map.mp member
    exact small record (List.mem_filter.mp kept).1
  cases cut : memory.versions stream with
  | nil =>
    rw [Memory.freshVersion_of_nil cut, freshVersion, stored, cut]
    rfl
  | cons first others =>
    rw [cut] at versionsSmall
    obtain ⟨firstSmall, othersSmall⟩ := List.forall_mem_cons.mp versionsSmall
    have greatestSmall : others.foldl max first + 1 < Row.versionLimit :=
      versionsSmall _ (List.max?_eq_some_iff.mp List.max?_cons').1
    have greatest := Row.foldl_storedVersion (Nat.lt_of_succ_lt firstSmall)
      fun version member => Nat.lt_of_succ_lt (othersSmall version member)
    rw [Memory.freshVersion_of_cons cut, freshVersion, stored, cut]
    simp only [List.map_cons]
    rw [greatest, UInt64.toNat_add, Row.toNat_storedVersion (Nat.lt_of_succ_lt greatestSmall)]
    exact Nat.mod_eq_of_lt (Nat.lt_trans greatestSmall (by decide))

theorem insert_of_known {table : Table} {row : Row} (known : ∃ other ∈ table.rows, other.id = row.id) :
    table.insert row = .error .idTaken := by
  rw [insert, if_pos (by simpa using known)]

theorem insert_of_fresh {table : Table} {row : Row}
    (unknown : ∀ other ∈ table.rows, other.id ≠ row.id)
    (vacant : ∀ other ∈ table.rows, other.stream = row.stream → other.version ≠ row.version) :
    table.insert row = .ok { rows := table.rows ++ [row] } := by
  rw [insert, if_neg (by simpa using unknown), if_neg (by simpa using vacant)]

theorem insert_of_taken {table : Table} {row : Row}
    (unknown : ∀ other ∈ table.rows, other.id ≠ row.id)
    (taken : ¬ ∀ other ∈ table.rows, other.stream = row.stream → other.version ≠ row.version) :
    table.insert row = .error .versionTaken := by
  rw [insert, if_neg (by simpa using unknown), if_pos (by simpa using taken)]

structure Passes (stream : String) (envelope : Envelope) (categories : List String) : Prop where
  acceptable : Record.Acceptable stream categories
  writable : isWritableRow (Row.ofRecord (Record.prepared stream envelope categories)) = true

section Append

variable {table : Table} {stream : String} {envelope : Envelope} {categories : List String}

/-- The version is not among the texts that have to be writable. -/
theorem append_of_passes (passes : Passes stream envelope categories) :
    table.append stream envelope categories =
      match table.insert (Row.ofRecord (table.keeping stream envelope categories)) with
      | .ok grown => (.ok (table.freshVersion stream), grown)
      | .error .idTaken => (.error (.duplicateEvent envelope.id), table)
      | .error .versionTaken =>
        (.error (.versionConflict stream (table.freshVersion stream)), table) := by
  rw [append, Record.encode_eq_ok_iff.mpr ⟨passes.acceptable, rfl⟩]
  exact if_pos passes.writable

theorem append_of_not_passes (stopped : ¬ Passes stream envelope categories) :
    ∃ fault, table.append stream envelope categories = (.error fault, table) ∧
      ∀ id, fault ≠ .duplicateEvent id := by
  rw [append]
  cases encoded : Record.encode stream envelope categories with
  | error fault =>
    obtain ⟨literal, rfl⟩ := Record.encode_eq_error encoded
    exact ⟨_, rfl, nofun⟩
  | ok record =>
    obtain ⟨acceptable, rfl⟩ := Record.encode_eq_ok_iff.mp encoded
    exact ⟨_, if_neg fun writable => stopped ⟨acceptable, writable⟩, nofun⟩

/-- The three outcomes of an append. An identifier that is taken is noticed before anything else
that the database sees to. -/
theorem append_cases (table : Table) (stream : String) (envelope : Envelope)
    (categories : List String) :
    ((¬ Passes stream envelope categories ∨ ∀ row ∈ table.rows, row.id ≠ envelope.id) ∧
      ∃ fault, table.append stream envelope categories = (.error fault, table) ∧
        ∀ id, fault ≠ .duplicateEvent id) ∨
    (Passes stream envelope categories ∧ (∃ row ∈ table.rows, row.id = envelope.id) ∧
      table.append stream envelope categories = (.error (.duplicateEvent envelope.id), table)) ∨
    (Passes stream envelope categories ∧ (∀ row ∈ table.rows, row.id ≠ envelope.id) ∧
      table.append stream envelope categories = (.ok (table.freshVersion stream),
        { rows := table.rows ++ [Row.ofRecord (table.keeping stream envelope categories)] })) := by
  by_cases passes : Passes stream envelope categories
  · rw [append_of_passes passes]
    by_cases known : ∃ row ∈ table.rows, row.id = envelope.id
    · rw [insert_of_known known]
      exact .inr (.inl ⟨passes, known, rfl⟩)
    · have unknown : ∀ row ∈ table.rows, row.id ≠ envelope.id := by simpa using known
      by_cases vacant : ∀ row ∈ table.rows, row.stream = stream →
          row.version ≠ Row.storedVersion (table.freshVersion stream)
      · rw [insert_of_fresh unknown vacant]
        exact .inr (.inr ⟨passes, unknown, rfl⟩)
      · rw [insert_of_taken unknown vacant]
        exact .inl ⟨.inr unknown, _, rfl, nofun⟩
  · exact .inl ⟨.inl passes, append_of_not_passes passes⟩

theorem rows_append (table : Table) (stream : String) (envelope : Envelope)
    (categories : List String) :
    (table.append stream envelope categories).2 = table ∨
      (∀ row ∈ table.rows, row.id ≠ envelope.id) ∧ ∃ row : Row, row.id = envelope.id ∧
        (table.append stream envelope categories).2 = { rows := table.rows ++ [row] } := by
  rcases table.append_cases stream envelope categories with
    ⟨_, _, outcome, _⟩ | ⟨_, _, outcome⟩ | ⟨_, unknown, outcome⟩
  · exact .inl (congrArg Prod.snd outcome)
  · exact .inl (congrArg Prod.snd outcome)
  · exact .inr ⟨unknown, _, rfl, congrArg Prod.snd outcome⟩

end Append

theorem isWritable_iff {value : String} : isWritable value = true ↔ Clear value.toList := by
  simp [isWritable, Clear]

/-- A pattern sees the whole of a text in which no null character ends it. -/
theorem accepts_of_clear {pattern text : List Char} (clear : Clear text) :
    accepts pattern text = Sql.like pattern text := by
  have whole : text.takeWhile (· ≠ '\x00') = text := by
    rw [List.takeWhile_eq_self_iff]
    intro char member
    rw [decide_eq_true_eq]
    rintro rfl
    exact clear member
  rw [accepts, whole]

end Table
end EventStore
