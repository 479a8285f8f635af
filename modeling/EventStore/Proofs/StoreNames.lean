import EventStore.Settings.Basic
import Mathlib.Data.List.Nodup

/-! The names of configured stores. The check blames the first entry that repeats the name of an
earlier one, and finds nothing to blame exactly if the names are distinct. -/

namespace EventStore.Settings

def storeNames (entries : List StoreSettings) : List String := entries.map (·.name)

/-- The first entry that has the name of an earlier one has this name. -/
def Repeats (entries : List StoreSettings) (name : String) : Prop :=
  ∃ earlier entry later, entries = earlier ++ entry :: later ∧ entry.name = name ∧
    name ∈ storeNames earlier ∧ (storeNames earlier).Nodup

variable {seen : List String} {entries : List StoreSettings} {name : String} {settings : Settings}

theorem append_storeNames_cons (seen : List String) (entry : StoreSettings)
    (entries : List StoreSettings) :
    seen ++ storeNames (entry :: entries) = seen ++ [entry.name] ++ storeNames entries := by
  simp [storeNames]

theorem nodup_append_singleton (distinct : seen.Nodup) (new : name ∉ seen) :
    (seen ++ [name]).Nodup := by
  rw [← List.concat_eq_append]
  exact List.Nodup.concat new distinct

theorem repeatedName_eq_some_iff (distinct : seen.Nodup) :
    repeatedName seen entries = some name ↔
      ∃ earlier entry later, entries = earlier ++ entry :: later ∧ entry.name = name ∧
        name ∈ seen ++ storeNames earlier ∧ (seen ++ storeNames earlier).Nodup := by
  induction entries generalizing seen with
  | nil => simp [repeatedName]
  | cons first entries ih =>
    rw [repeatedName]
    split
    next held =>
      have known : first.name ∈ seen := List.contains_iff_mem.mp held
      -- The first entry repeats a name, so a later one has a repeated name before it.
      constructor
      · intro blamed
        cases blamed
        exact ⟨[], first, entries, rfl, rfl, by simpa [storeNames] using known,
          by simpa [storeNames] using distinct⟩
      · intro found
        obtain ⟨earlier, entry, later, order, named, _, alone⟩ := found
        cases earlier with
        | nil =>
          obtain ⟨rfl, _⟩ := List.cons.inj order
          rw [named]
        | cons head earlier =>
          obtain ⟨rfl, _⟩ := List.cons.inj order
          rw [append_storeNames_cons, List.append_assoc] at alone
          exact absurd (List.mem_append_left _ (List.mem_singleton_self _))
            (List.disjoint_of_nodup_append alone known)
    next missing =>
      have new : first.name ∉ seen := by simpa using missing
      rw [ih (nodup_append_singleton distinct new)]
      constructor
      · intro found
        obtain ⟨earlier, entry, later, rfl, rest⟩ := found
        rw [← append_storeNames_cons] at rest
        exact ⟨first :: earlier, entry, later, rfl, rest⟩
      · intro found
        obtain ⟨earlier, entry, later, order, named, among, alone⟩ := found
        cases earlier with
        | nil =>
          obtain ⟨rfl, _⟩ := List.cons.inj order
          simp only [storeNames, List.map_nil, List.append_nil] at among
          exact absurd (named ▸ among) new
        | cons head earlier =>
          obtain ⟨rfl, rfl⟩ := List.cons.inj order
          rw [append_storeNames_cons] at among alone
          exact ⟨earlier, entry, later, rfl, named, among, alone⟩

theorem repeatedName_eq_none_iff (distinct : seen.Nodup) :
    repeatedName seen entries = none ↔ (seen ++ storeNames entries).Nodup := by
  induction entries generalizing seen with
  | nil => simp [repeatedName, storeNames, distinct]
  | cons first entries ih =>
    rw [repeatedName, append_storeNames_cons]
    split
    next held =>
      have known : first.name ∈ seen := List.contains_iff_mem.mp held
      refine iff_of_false nofun ?_
      intro alone
      rw [List.append_assoc] at alone
      exact List.disjoint_of_nodup_append alone known
        (List.mem_append_left _ (List.mem_singleton_self _))
    next missing =>
      have new : first.name ∉ seen := by simpa using missing
      exact ih (nodup_append_singleton distinct new)

theorem checkNames_eq_error_iff :
    settings.checkNames = .error (.duplicateStore name) ↔ Repeats settings.stores name := by
  have found : repeatedName [] settings.stores = some name ↔ Repeats settings.stores name :=
    repeatedName_eq_some_iff List.nodup_nil
  rw [← found, checkNames]
  cases repeatedName [] settings.stores <;> simp

theorem checkNames_eq_ok_iff :
    settings.checkNames = .ok () ↔ (storeNames settings.stores).Nodup := by
  have none : repeatedName [] settings.stores = none ↔ (storeNames settings.stores).Nodup :=
    repeatedName_eq_none_iff List.nodup_nil
  rw [← none, checkNames]
  cases repeatedName [] settings.stores <;> simp

end EventStore.Settings
