import EventStore.Storage.Directory

/-! Places in the working directory. Making folders and files does not take a database away from
the file that holds it, and a path leads to the same place whatever has been made before. -/

namespace EventStore.Directory

variable {directory : Directory} {place other : Place} {entry : Entry}

theorem find?_add_self (inside : place.isOutside = false) :
    (directory.add place entry).find? place = some entry := by
  simp [find?, add, inside]

theorem lookup_filter_ne {entries : List (Place × Entry)} (different : other ≠ place) :
    (entries.filter (·.1 ≠ place)).lookup other = entries.lookup other := by
  induction entries with
  | nil => rfl
  | cons first entries ih =>
    rw [List.filter_cons, List.lookup_cons]
    by_cases same : first.1 = place
    · have missed : (other == first.1) = false := by
        rw [same]
        exact beq_false_of_ne different
      rw [if_neg (by simpa using same), missed, ih]
    · rw [if_pos (by simpa using same), List.lookup_cons, ih]

theorem find?_add_other (different : other ≠ place) :
    (directory.add place entry).find? other = directory.find? other := by
  have missed : (other == place) = false := beq_false_of_ne different
  rw [find?, find?, add, List.lookup_cons, missed, lookup_filter_ne different]

theorem inside_of_find? {found : Option Entry} (held : directory.find? place = found)
    (inside : found ≠ some .folder) : place.isOutside = false := by
  rw [Bool.eq_false_iff]
  intro outside
  rw [find?, if_pos outside] at held
  exact inside held.symm

/-- The same files hold the same databases. -/
def SameFiles (before after : Directory) : Prop :=
  ∀ place index, after.find? place = some (.database index) ↔ before.find? place = some (.database index)

theorem sameFiles_add (free : ∀ index, directory.find? place ≠ some (.database index))
    (plain : ∀ index, entry ≠ .database index) : SameFiles directory (directory.add place entry) := by
  intro other index
  by_cases same : other = place
  · subst same
    refine iff_of_false ?_ (free index)
    intro held
    by_cases outside : other.isOutside = true
    · rw [find?, if_pos outside] at held
      cases held
    · rw [find?_add_self (by simpa using outside)] at held
      exact plain index (Option.some.inj held)
  · rw [find?_add_other same]

theorem sameFiles_makeFolders {names : List Bytes} {made : Directory}
    (succeeds : directory.makeFolders place names = some made) : SameFiles directory made := by
  induction names generalizing directory place with
  | nil =>
    cases succeeds
    exact fun _ _ => Iff.rfl
  | cons name names ih =>
    rw [makeFolders] at succeeds
    split at succeeds
    next => exact ih succeeds
    next =>
      simp only at succeeds
      split at succeeds
      next => cases succeeds
      next =>
        split at succeeds
        next missing =>
          intro other index
          have free : ∀ index, directory.find? (place ++ [name]) ≠ some (.database index) := by
            simp [missing]
          have added : SameFiles directory (directory.add (place ++ [name]) .folder) :=
            sameFiles_add free nofun
          exact (ih succeeds other index).trans (added other index)
        next => exact ih succeeds
        next => cases succeeds

theorem sameFiles_makeParents {path : Bytes} {made : Directory}
    (succeeds : directory.makeParents path = some made) : SameFiles directory made := by
  rw [makeParents] at succeeds
  split at succeeds
  next => cases succeeds
  next => exact sameFiles_makeFolders succeeds

/-- What lies on the way decides whether names lead somewhere, but not where they lead. -/
theorem locate_unique {one another : Directory} {names : List Bytes} {left right : Place}
    (first : one.locate place names = some left) (second : another.locate place names = some right) :
    left = right := by
  induction names generalizing place with
  | nil =>
    cases first
    cases second
    rfl
  | cons name names ih =>
    rw [locate] at first second
    by_cases up : name = Place.above
    · rw [if_pos up] at first second
      exact ih first second
    · rw [if_neg up] at first second
      simp only at first second
      split at first
      next =>
        split at second
        next => exact ih first second
        next => cases second
      next => cases first

theorem locateDatabase_unique {one another : Directory} {path : Bytes} {left right : Place}
    (first : one.locateDatabase path = some left)
    (second : another.locateDatabase path = some right) : left = right := by
  obtain ⟨found, located, short⟩ := Option.bind_eq_some_iff.mp first
  obtain ⟨again, relocated, shortAgain⟩ := Option.bind_eq_some_iff.mp second
  split at short
  next =>
    split at shortAgain
    next =>
      rw [← Option.some.inj short, ← Option.some.inj shortAgain]
      exact locate_unique located relocated
    next => cases shortAgain
  next => cases short

end EventStore.Directory
