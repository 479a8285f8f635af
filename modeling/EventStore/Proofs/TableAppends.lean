import EventStore.Proofs.DriverAgreement

/-! Appends to a table of which nothing is known but its constraints. Rows may have been put there
by others, in any order and with gaps between the versions of a stream. The next version is above
all of them, so no place in a stream is taken twice, although nothing numbers the rows densely. -/

namespace EventStore
open Proofs.DriverAgreement

namespace Row

theorem version_toRecord {row : Row} (natural : 0 ≤ row.version.toInt) :
    (row.toRecord.version : Int) = row.version.toInt := by
  have signed : 0 ≤ row.version := Int64.le_iff_toInt_le.mpr natural
  rw [toRecord, Int64.toNat_toUInt64_of_le signed, Int64.toNatClampNeg, Int.toNat_of_nonneg natural]

end Row

namespace Record

end Record

namespace Backends

end Backends

namespace Table

/-- What the database itself sees to. -/
structure Lawful (table : Table) : Prop where
  ids : (table.rows.map (·.id)).Nodup
  places : (table.rows.map fun row => (row.stream, row.version)).Nodup

/-- No version is negative, and each leaves room for the one after it. -/
def Roomy (table : Table) : Prop :=
  ∀ row ∈ table.rows, 0 ≤ row.version.toInt ∧ row.version.toInt + 1 < Row.versionLimit

/-- The records that the rows stand for, as a list. -/
def listed (table : Table) : Memory := { records := table.records }

section Versions

variable {table : Table} {stream : String}

theorem Roomy.small (roomy : table.Roomy) :
    ∀ record ∈ table.listed.records, record.version + 1 < Row.versionLimit := by
  intro record member
  obtain ⟨row, inside, rfl⟩ := List.mem_map.mp member
  obtain ⟨natural, below⟩ := roomy row inside
  have same := Row.version_toRecord natural
  omega

end Versions

section Appends

variable {table : Table} {stream : String} {envelope : Envelope} {categories : List String}

theorem Lawful.concat {row : Row} (lawful : table.Lawful)
    (new : ∀ other ∈ table.rows, other.id ≠ row.id)
    (vacant : ∀ other ∈ table.rows, other.stream = row.stream → other.version ≠ row.version) :
    Lawful { rows := table.rows ++ [row] } where
  ids := by
    rw [List.map_append, List.nodup_append]
    refine ⟨lawful.ids, by simp, ?_⟩
    intro early member late single same
    obtain ⟨other, among, rfl⟩ := List.mem_map.mp member
    rw [List.map_singleton, List.mem_singleton] at single
    exact new other among (same.trans single)
  places := by
    rw [List.map_append, List.nodup_append]
    refine ⟨lawful.places, by simp, ?_⟩
    intro early member late single same
    obtain ⟨other, among, rfl⟩ := List.mem_map.mp member
    rw [List.map_singleton, List.mem_singleton] at single
    obtain ⟨sameStream, sameVersion⟩ := Prod.mk.inj (same.trans single)
    exact vacant other among sameStream sameVersion

end Appends
end Table

namespace Proofs.TableAppends

end Proofs.TableAppends
end EventStore
