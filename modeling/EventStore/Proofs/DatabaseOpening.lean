import EventStore.Installation
import EventStore.Proofs.DirectoryPlaces
import EventStore.Proofs.DriverStates

/-! What opening a database leaves alone. Whatever is open stays as it was, files go on holding
their databases, and a name goes on standing for what it was shared as. So an address of a file
leads to one database, however often it is opened. -/

namespace EventStore.Installation

/-- Whatever stands for a database stands for one that there is, and a name under which a file is
shared stands for the database of that file. -/
structure Sound (installation : Installation) : Prop where
  files : ∀ place index, installation.directory.find? place = some (.database index) →
    index < installation.backends.databases.length
  shared : ∀ name handle, installation.shared.lookup name = some handle →
    handle.database < installation.backends.databases.length
  sharedFiles : ∀ system place handle,
    installation.shared.lookup (.file system place) = some handle →
      installation.directory.find? place = some (.database handle.database)
  drivers : ∀ index access, .table index access ∈ installation.backends.drivers →
    index < installation.backends.databases.length

theorem sound_empty : Sound {} where
  files place index held := by
    rw [Directory.find?] at held
    split at held <;> cases held
  shared _ _ named := by cases named
  sharedFiles _ _ _ named := by cases named
  drivers _ _ member := by cases member

/-- New drivers and databases are empty and come after the ones there were. -/
structure Grows (before after : Installation) : Prop where
  drivers : ∃ added, after.backends.drivers = before.backends.drivers ++ added ∧
    ∀ memory, .memory memory ∈ added → memory = {}
  databases : ∃ count,
    after.backends.databases = before.backends.databases ++ List.replicate count ({} : Table)
  files : ∀ place index, before.directory.find? place = some (.database index) →
    after.directory.find? place = some (.database index)
  shared : ∀ name handle, before.shared.lookup name = some handle →
    after.shared.lookup name = some handle

variable {installation before middle after : Installation} {place : Place} {handle : Handle}

theorem Grows.refl (installation : Installation) : Grows installation installation where
  drivers := ⟨[], by simp⟩
  databases := ⟨0, by simp⟩
  files _ _ held := held
  shared _ _ named := named

theorem Grows.trans (first : Grows before middle) (last : Grows middle after) :
    Grows before after where
  drivers := by
    obtain ⟨early, grown, earlyEmpty⟩ := first.drivers
    obtain ⟨late, grownAgain, lateEmpty⟩ := last.drivers
    refine ⟨early ++ late, by rw [grownAgain, grown, List.append_assoc], ?_⟩
    intro memory member
    rcases List.mem_append.mp member with member | member
    · exact earlyEmpty memory member
    · exact lateEmpty memory member
  databases := by
    obtain ⟨early, grown⟩ := first.databases
    obtain ⟨late, grownAgain⟩ := last.databases
    exact ⟨early + late, by rw [grownAgain, grown, List.append_assoc, List.replicate_append_replicate]⟩
  files place index held := last.files place index (first.files place index held)
  shared name handle named := last.shared name handle (first.shared name handle named)

theorem Grows.length_le (grows : Grows before after) :
    before.backends.databases.length ≤ after.backends.databases.length := by
  obtain ⟨count, grown⟩ := grows.databases
  rw [grown, List.length_append]
  omega

theorem Grows.drivers_length_le (grows : Grows before after) :
    before.backends.drivers.length ≤ after.backends.drivers.length := by
  obtain ⟨added, grown, _⟩ := grows.drivers
  rw [grown, List.length_append]
  exact Nat.le_add_right _ _

theorem Grows.driver {id : DriverId} (grows : Grows before after)
    (opened : id < before.backends.drivers.length) :
    after.backends.driver id = before.backends.driver id := by
  obtain ⟨added, grown, _⟩ := grows.drivers
  rw [Backends.driver, Backends.driver, grown, List.getD_eq_getElem?_getD,
    List.getElem?_append_left opened, List.getD_eq_getElem?_getD]

/-- New databases are empty, as what is not there counts as. -/
theorem Grows.database (grows : Grows before after) (index : Nat) :
    after.backends.database index = before.backends.database index := by
  obtain ⟨count, grown⟩ := grows.databases
  rw [Backends.database, Backends.database, grown, List.getD_eq_getElem?_getD,
    List.getD_eq_getElem?_getD]
  rcases Nat.lt_or_ge index before.backends.databases.length with old | new
  · rw [List.getElem?_append_left old]
  · rw [List.getElem?_append_right new, List.getElem?_eq_none new, List.getElem?_replicate]
    split <;> rfl

/-- An opening leaves what is open alone, and a handle that it answers is one on a database. -/
structure Opens (before : Installation) (opened : Opened) : Prop where
  grows : Grows before opened.2
  sound : opened.2.Sound
  drivers : opened.2.backends.drivers = before.backends.drivers
  known : ∀ handle, opened.1 = .ok handle →
    handle.database < opened.2.backends.databases.length

/-- An opening that no one else takes part in. -/
structure OpensAlone (before : Installation) (opened : Opened) : Prop extends Opens before opened where
  shared : opened.2.shared = before.shared

section Steps

theorem grows_addDatabase (installation : Installation) :
    Grows installation installation.addDatabase.2 where
  drivers := ⟨[], by simp [addDatabase, Backends.addDatabase]⟩
  databases := ⟨1, rfl⟩
  files _ _ held := held
  shared _ _ named := named

theorem Sound.addDatabase (sound : installation.Sound) : installation.addDatabase.2.Sound where
  files place index held := Nat.lt_of_lt_of_le (sound.files place index held)
    (grows_addDatabase installation).length_le
  shared name handle named := Nat.lt_of_lt_of_le (sound.shared name handle named)
    (grows_addDatabase installation).length_le
  sharedFiles := sound.sharedFiles
  drivers index access member := Nat.lt_of_lt_of_le (sound.drivers index access member)
    (grows_addDatabase installation).length_le

theorem known_addDatabase (installation : Installation) : installation.addDatabase.1.database <
    installation.addDatabase.2.backends.databases.length := by
  simp [Installation.addDatabase, Backends.addDatabase]

theorem Sound.setDirectory {directory : Directory} (sound : installation.Sound)
    (same : installation.directory.SameFiles directory) : Sound { installation with directory } where
  files place index held := sound.files place index ((same place index).mp held)
  shared := sound.shared
  sharedFiles system place handle named :=
    (same place handle.database).mpr (sound.sharedFiles system place handle named)
  drivers := sound.drivers

theorem grows_setDirectory {directory : Directory}
    (same : installation.directory.SameFiles directory) :
    Grows installation { installation with directory } where
  drivers := ⟨[], by simp⟩
  databases := ⟨0, by simp⟩
  files place index held := (same place index).mpr held
  shared _ _ named := named

theorem opensAlone_refused (sound : installation.Sound) (fault : DatabaseFault) :
    OpensAlone installation (.error fault, installation) where
  grows := .refl installation
  sound := sound
  drivers := rfl
  known _ answered := by cases answered
  shared := rfl

theorem opensAlone_createDatabase (sound : installation.Sound) (right : Right) :
    OpensAlone installation (createDatabase right installation) := by
  rw [createDatabase]
  split
  next => exact opensAlone_refused sound _
  next =>
    refine ⟨⟨grows_addDatabase installation, sound.addDatabase, rfl, ?_⟩, rfl⟩
    intro handle answered
    cases answered
    exact known_addDatabase installation

theorem grows_holdFile {index : Nat}
    (free : ∀ index, installation.directory.find? place ≠ some (.database index)) :
    Grows installation
      { installation with directory := installation.directory.add place (.database index) } where
  drivers := ⟨[], by simp⟩
  databases := ⟨0, by simp⟩
  files other index held := by
    have different : other ≠ place := by
      intro same
      exact free index (same ▸ held)
    rw [Directory.find?_add_other different]
    exact held
  shared _ _ named := named

theorem Sound.holdFile {index : Nat} (sound : installation.Sound)
    (inside : place.isOutside = false)
    (free : ∀ index, installation.directory.find? place ≠ some (.database index))
    (known : index < installation.backends.databases.length) :
    Sound { installation with directory := installation.directory.add place (.database index) } where
  files other held found := by
    by_cases same : other = place
    · rw [same, Directory.find?_add_self inside] at found
      cases found
      exact known
    · rw [Directory.find?_add_other same] at found
      exact sound.files other held found
  shared := sound.shared
  sharedFiles system other handle named :=
    (grows_holdFile free).files other _ (sound.sharedFiles system other handle named)
  drivers := sound.drivers

theorem opensAlone_fillFile (sound : installation.Sound) (inside : place.isOutside = false)
    (free : ∀ index, installation.directory.find? place ≠ some (.database index))
    (isReadOnly : Bool) : OpensAlone installation (installation.fillFile place isReadOnly) := by
  rw [fillFile]
  split
  next => exact opensAlone_refused sound _
  next =>
    have known := known_addDatabase installation
    refine ⟨⟨(grows_addDatabase installation).trans (grows_holdFile free),
      sound.addDatabase.holdFile inside free known, rfl, ?_⟩, rfl⟩
    intro handle answered
    cases answered
    exact known

theorem fillFile_ok {isReadOnly : Bool} (inside : place.isOutside = false)
    (answered : (installation.fillFile place isReadOnly).1 = .ok handle) :
    (installation.fillFile place isReadOnly).2.directory.find? place =
        some (.database handle.database) ∧ handle.access = .full ∧ isReadOnly = false := by
  rw [fillFile] at answered ⊢
  split at answered
  next => cases answered
  next writable =>
    cases answered
    rw [if_neg writable]
    refine ⟨Directory.find?_add_self inside, rfl, ?_⟩
    simp only [Bool.or_eq_true, not_or, Bool.not_eq_true] at writable
    exact writable.1

/-- What an address lets its file be used for. -/
def accessOf (address : Address) : Access :=
  if address.right = .readOnly || address.isImmutable then .readOnly else .full

theorem opensAlone_openFile (sound : installation.Sound) (address : Address) (place : Place) :
    OpensAlone installation (openFile address place installation) := by
  rw [openFile]
  split
  next database found =>
    refine ⟨⟨.refl installation, sound, rfl, ?_⟩, rfl⟩
    intro handle answered
    cases answered
    exact sound.files place database found
  next found =>
    exact opensAlone_fillFile sound (Directory.inside_of_find? found nofun) (by simp [found]) _
  next => exact opensAlone_refused sound _
  next => exact opensAlone_refused sound _
  next missing =>
    split
    next =>
      -- The blank file that is made first holds no database yet.
      have same : installation.directory.SameFiles (installation.directory.add place .blank) :=
        Directory.sameFiles_add (by simp [missing]) nofun
      have inside := Directory.inside_of_find? missing nofun
      have filled := opensAlone_fillFile (sound.setDirectory same) inside
        (by simp [Directory.find?_add_self inside])
        (address.right = .readOnly || address.isImmutable)
      exact ⟨⟨(grows_setDirectory same).trans filled.grows, filled.sound, filled.drivers,
        filled.known⟩, filled.shared⟩
    next => exact opensAlone_refused sound _

theorem openFile_ok {address : Address}
    (answered : (openFile address place installation).1 = .ok handle) :
    (openFile address place installation).2.directory.find? place =
        some (.database handle.database) ∧ handle.access = accessOf address := by
  rw [openFile] at answered ⊢
  split at answered
  next database found =>
    cases answered
    exact ⟨found, rfl⟩
  next found =>
    obtain ⟨held, full, writable⟩ :=
      fillFile_ok (Directory.inside_of_find? found nofun) answered
    exact ⟨held, by rw [full, accessOf, if_neg (by simpa using writable)]⟩
  next => cases answered
  next => cases answered
  next missing =>
    split at answered
    next creates =>
      obtain ⟨held, full, writable⟩ :=
        fillFile_ok (Directory.inside_of_find? missing nofun) answered
      rw [if_pos creates]
      exact ⟨held, by rw [full, accessOf, if_neg (by simpa using writable)]⟩
    next => cases answered

theorem sharing_cases (installation : Installation) (name : SharedName)
    (opening : Installation → Opened) :
    (∃ handle, installation.shared.lookup name = some handle ∧
      installation.sharing name opening = (.ok handle, installation)) ∨
    (installation.shared.lookup name = none ∧
      ∃ handle, (opening installation).1 = .ok handle ∧
        installation.sharing name opening = (.ok handle, { (opening installation).2 with
          shared := (name, handle) :: (opening installation).2.shared })) ∨
    (installation.shared.lookup name = none ∧
      ∃ fault, (opening installation).1 = .error fault ∧
        installation.sharing name opening = (.error fault, (opening installation).2)) := by
  rw [sharing]
  cases named : installation.shared.lookup name with
  | some handle => exact .inl ⟨handle, rfl, rfl⟩
  | none =>
    rcases opened : opening installation with ⟨answer, after⟩
    cases answer with
    | error fault => exact .inr (.inr ⟨rfl, fault, rfl, rfl⟩)
    | ok handle => exact .inr (.inl ⟨rfl, handle, rfl, rfl⟩)

theorem opens_sharing {name : SharedName} {opening : Installation → Opened}
    (sound : installation.Sound) (alone : OpensAlone installation (opening installation))
    (stands : ∀ system place, name = .file system place → ∀ handle,
      (opening installation).1 = .ok handle →
        (opening installation).2.directory.find? place = some (.database handle.database)) :
    Opens installation (installation.sharing name opening) := by
  rcases sharing_cases installation name opening with
    ⟨handle, named, outcome⟩ | ⟨unnamed, handle, answered, outcome⟩ | ⟨_, fault, _, outcome⟩
  · rw [outcome]
    refine ⟨.refl installation, sound, rfl, ?_⟩
    intro again same
    cases same
    exact sound.shared name handle named
  · rw [outcome]
    have known := alone.known handle answered
    have either : ∀ other found, ((name, handle) :: (opening installation).2.shared).lookup other =
        some found → other = name ∧ found = handle ∨
          (opening installation).2.shared.lookup other = some found := by
      intro other found looked
      rw [List.lookup_cons] at looked
      split at looked
      next same =>
        cases looked
        exact .inl ⟨eq_of_beq same, rfl⟩
      next => exact .inr looked
    refine ⟨⟨alone.grows.drivers, alone.grows.databases, alone.grows.files, ?_⟩,
      ⟨alone.sound.files, ?_, ?_, alone.sound.drivers⟩, alone.drivers, ?_⟩
    · intro other found looked
      -- The new name cannot hide one that was shared before, for it was not.
      have different : (other == name) = false := by
        apply beq_false_of_ne
        rintro rfl
        rw [unnamed] at looked
        cases looked
      rw [List.lookup_cons, different]
      exact alone.grows.shared other found looked
    · intro other found looked
      rcases either other found looked with ⟨_, rfl⟩ | old
      · exact known
      · exact alone.sound.shared other found old
    · intro system place found looked
      rcases either _ found looked with ⟨same, rfl⟩ | old
      · exact stands system place same.symm found answered
      · exact alone.sound.sharedFiles system place found old
    · intro again same
      cases same
      exact known
  · rw [outcome]
    exact ⟨alone.grows, alone.sound, alone.drivers, nofun⟩

theorem sharing_ok {name : SharedName} {opening : Installation → Opened}
    (answered : (installation.sharing name opening).1 = .ok handle) :
    (installation.sharing name opening).2.shared.lookup name = some handle := by
  rcases sharing_cases installation name opening with
    ⟨found, named, outcome⟩ | ⟨_, found, _, outcome⟩ | ⟨_, fault, _, outcome⟩
  · rw [outcome] at answered ⊢
    cases answered
    exact named
  · rw [outcome] at answered ⊢
    cases answered
    exact List.lookup_cons_self
  · rw [outcome] at answered
    cases answered

theorem opens_openMemoryFile (sound : installation.Sound) (right : Right) (system : String)
    (name : Bytes) : Opens installation (installation.openMemoryFile right (.memory system name)) := by
  have opens : Opens installation
      (installation.sharing (.memory system name) (createDatabase right)) :=
    opens_sharing sound (opensAlone_createDatabase sound right) nofun
  rw [openMemoryFile]
  split
  next handle after outcome =>
    rw [outcome] at opens
    refine ⟨opens.grows, opens.sound, opens.drivers, ?_⟩
    intro again same
    cases same
    exact opens.known handle rfl
  next => exact opens

theorem opens_openAddress (sound : installation.Sound) (address : Address) (connections : Nat) :
    Opens installation (installation.openAddress address connections) := by
  rw [openAddress]
  split
  next =>
    split
    next => exact (opensAlone_createDatabase sound _).toOpens
    next => exact (opensAlone_refused sound _).toOpens
  next => exact (opensAlone_createDatabase sound _).toOpens
  next system name _ =>
    split
    next => exact opens_openMemoryFile sound address.right system name
    next => exact opens_sharing sound (opensAlone_createDatabase sound _) nofun
  next =>
    split
    next => exact (opensAlone_refused sound _).toOpens
    next place located =>
      have alone := opensAlone_openFile sound address place
      split
      next =>
        apply opens_sharing sound alone
        rintro system again ⟨⟩ handle answered
        exact (openFile_ok answered).1
      next => exact alone.toOpens

end Steps

/-- What an address of a file has led to, and leads to from then on. -/
structure LeadsTo (installation : Installation) (address : Address) (path : Bytes) (place : Place)
    (handle : Handle) : Prop where
  located : ∃ directory : Directory, directory.locateDatabase path = some place
  together : address.sharesCache = true →
    installation.shared.lookup (.file address.system place) = some handle
  alone : address.sharesCache = false →
    installation.directory.find? place = some (.database handle.database) ∧
      handle.access = accessOf address

section Paths

variable {address : Address} {path : Bytes}

theorem LeadsTo.grow (leads : before.LeadsTo address path place handle)
    (grows : Grows before after) : after.LeadsTo address path place handle where
  located := leads.located
  together shares := grows.shared _ _ (leads.together shares)
  alone apart := by
    obtain ⟨held, granted⟩ := leads.alone apart
    exact ⟨grows.files _ _ held, granted⟩

theorem LeadsTo.unique {elsewhere : Place} {other : Handle}
    (first : installation.LeadsTo address path place handle)
    (second : installation.LeadsTo address path elsewhere other) : handle = other := by
  obtain ⟨_, located⟩ := first.located
  obtain ⟨_, relocated⟩ := second.located
  have same := Directory.locateDatabase_unique located relocated
  subst same
  cases shares : address.sharesCache with
  | true => exact Option.some.inj ((first.together shares).symm.trans (second.together shares))
  | false =>
    obtain ⟨held, granted⟩ := first.alone shares
    obtain ⟨again, grantedAgain⟩ := second.alone shares
    rw [held] at again
    cases handle
    cases other
    cases again
    rw [Handle.mk.injEq]
    exact ⟨rfl, granted.trans grantedAgain.symm⟩

theorem leadsTo_of_openAddress {connections : Nat} (file : address.home = .file path)
    (answered : (installation.openAddress address connections).1 = .ok handle) :
    ∃ place, (installation.openAddress address connections).2.LeadsTo address path place handle := by
  rw [openAddress, file] at answered ⊢
  simp only at answered ⊢
  split at answered
  next => cases answered
  next place located =>
    refine ⟨place, ⟨installation.directory, located⟩, ?_, ?_⟩
    · intro shares
      rw [if_pos shares] at answered ⊢
      exact sharing_ok answered
    · intro apart
      rw [if_neg (by simp [apart])] at answered ⊢
      exact openFile_ok answered

end Paths

end EventStore.Installation
