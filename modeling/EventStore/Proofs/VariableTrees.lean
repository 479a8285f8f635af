import EventStore.Proofs.LayerMerging
import EventStore.Proofs.LayerPrecedence
import EventStore.Settings.Sources

/-! The variables of the environment as one tree. Each of them is a tree with a single value, at
the path that its name spells; where no path leads on from another they make a tree together. -/

namespace EventStore

structure Assignment where
  path : List String
  value : Document
  deriving DecidableEq

namespace Document

def nest : List String → Document → Document
  | [], value => value
  | name :: path, value => .mapping [(name, nest path value)]

def nests (assignments : List Assignment) : List Document :=
  assignments.map fun assignment => nest assignment.path assignment.value

variable {leaf held : Document} {name : String} {path other : List String}
  {assignments : List Assignment}

theorem holding_nest_cons (name first : String) (other path : List String) (leaf : Document) :
    holding (name :: other) (nest (first :: path) leaf) =
      if name = first then holding other (nest path leaf) else .nothing := by
  rw [holding, nest, Document.entries, lookup_cons]
  split <;> rfl

theorem eq_of_holding_nest (found : holding other (nest path leaf) = .value held)
    (bare : leaf.entries = []) : other = path := by
  induction path generalizing other with
  | nil =>
    cases other with
    | nil => rfl
    | cons name other =>
      rw [nest, holding_eq_nothing_of_entries bare] at found
      cases found
  | cons first path ih =>
    cases other with
    | nil => cases found
    | cons name other =>
      rw [holding_nest_cons] at found
      split at found
      next same => rw [same, ih found]
      next => cases found

theorem prefix_of_holding_nest (found : holding other (nest path leaf) ≠ .nothing)
    (bare : leaf.entries = []) : other <+: path := by
  induction path generalizing other with
  | nil =>
    cases other with
    | nil => exact List.nil_prefix
    | cons name other => exact absurd (holding_eq_nothing_of_entries bare name other) found
  | cons first path ih =>
    cases other with
    | nil => exact List.nil_prefix
    | cons name other =>
      rw [holding_nest_cons] at found
      split at found
      next same => exact List.cons_prefix_cons.mpr ⟨same, ih found⟩
      next => exact absurd rfl found

theorem not_settles_nest (apart : Apart path other) (bare : leaf.entries = []) :
    settles other (nest path leaf) ≠ true := by
  intro settled
  rcases settles_iff.mp settled with ⟨above, held, start, found⟩ | ⟨name, found⟩
  · rw [eq_of_holding_nest found bare] at start
    exact apart.2 start
  · exact apart.1 ((List.prefix_append other [name]).trans (prefix_of_holding_nest found bare))

/-- A value at the end of a path is no difference beside the path. -/
theorem alikeBeside_nest (path : List String) (bare : leaf.entries = []) :
    AlikeBeside path (nest path leaf) (.mapping []) where
  above other start short value := by
    refine iff_of_false (fun found => short (eq_of_holding_nest found bare)) ?_
    cases other <;> nofun
  beside other apart := by
    have silent : holding other (nest path leaf) = .nothing := by
      by_contra found
      exact apart.1 (prefix_of_holding_nest found bare)
    rw [silent]
    cases other with
    | nil => exact absurd List.nil_prefix apart.1
    | cons name other => rfl

theorem lowered_nest (lower : ∀ name ∈ path, lowerCase name = name)
    (bare : lowered leaf = leaf) : lowered (nest path leaf) = nest path leaf := by
  induction path with
  | nil => exact bare
  | cons name path ih =>
    obtain ⟨head, rest⟩ := List.forall_mem_cons.mp lower
    rw [nest, lowered, loweredEntries, loweredEntries, head, ih rest]

theorem isPlain_nest (plain : ∀ name ∈ path, isPlainName name = true)
    (bare : isPlain leaf = true) : isPlain (nest path leaf) = true := by
  induction path with
  | nil => exact bare
  | cons name path ih =>
    obtain ⟨head, rest⟩ := List.forall_mem_cons.mp plain
    simp [nest, isPlain, isPlainEntries, head, ih rest]

theorem setAt_eq_putAll (target : Document) (name : String) (path : List String) :
    setAt leaf ((name :: path).map .child) target =
      putAll target (nest (name :: path) leaf).entries := by
  induction path generalizing name target with
  | nil => rfl
  | cons inner path ih =>
    have existing : ((target.entries.lookup (lowerCase name)).getD .null).entries =
        ((target.entries.lookup (lowerCase name)).getD (.mapping [])).entries := by
      cases target.entries.lookup (lowerCase name) <;> rfl
    have single (below : Document) : putAll below (nest (inner :: path) leaf).entries =
        put below inner (nest path leaf) := by
      rw [nest, Document.entries, putAll, putAll]
    calc setAt leaf ((name :: inner :: path).map .child) target
        = .mapping (setEntry (lowerCase name)
            (setAt leaf ((inner :: path).map .child)
              ((target.entries.lookup (lowerCase name)).getD .null)) target.entries) := by
          rw [List.map_cons, setAt]
          simp
      _ = .mapping (setEntry (lowerCase name)
            (put ((target.entries.lookup (lowerCase name)).getD (.mapping [])) inner
              (nest path leaf)) target.entries) := by
          rw [ih, single, put_eq, put_eq, existing]
      _ = put target name (nest (inner :: path) leaf) := by
          rw [← single, nest, put, Document.entries]
      _ = putAll target (nest (name :: inner :: path) leaf).entries := rfl

/-- A tree of assignments keeps what it settles when one apart from all of them is added. -/
theorem settles_overlay_nest (apart : ∀ assignment ∈ assignments, Apart assignment.path path)
    (bares : ∀ assignment ∈ assignments, assignment.value.entries = [])
    (bare : leaf.entries = []) (settled : settles other (overlays (nests assignments)) = true) :
    settles other (overlay (overlays (nests assignments)) (nest path leaf)) = true := by
  by_cases top : settles other (nest path leaf) = true
  · exact settles_overlay_of_later _ top
  · apply settles_iff.mpr
    rcases settles_iff.mp settled with ⟨above, held, start, found⟩ | ⟨name, found⟩
    -- A value in the tree is at the end of an assignment, and none of these is on the new path.
    · obtain ⟨earlier, layer, later, order, inside, -⟩ := holding_overlays_eq_value_iff.mp found
      have member : layer ∈ nests assignments := order ▸ List.mem_append_right _ List.mem_cons_self
      obtain ⟨assignment, listed, rfl⟩ := List.mem_map.mp member
      have ends : above = assignment.path := eq_of_holding_nest inside (bares _ listed)
      have silent : settles above (nest path leaf) ≠ true := by
        rw [ends]
        exact not_settles_nest (apart _ listed).symm bare
      refine .inl ⟨above, held, start, ?_⟩
      rw [holding_overlay, if_neg silent, found]
      rfl
    · refine .inr ⟨name, ?_⟩
      rw [holding_overlay, if_neg (fun child => top (settles_of_child child))]
      cases lower : holding (other ++ [name]) (overlays (nests assignments)) with
      | nothing => exact absurd lower found
      | _ => nofun

theorem holding_foldl_nests
    (apart : assignments.Pairwise fun first second => Apart first.path second.path)
    (bares : ∀ assignment ∈ assignments, assignment.value.entries = [])
    (target : Document) (path : List String) :
    holding path ((nests assignments).foldl overlay target) =
      holding path (overlay target (overlays (nests assignments))) := by
  induction assignments using List.reverseRecOn generalizing path with
  | nil => exact congrArg (holding path) (overlay_empty target).symm
  | append_singleton assignments assignment ih =>
    obtain ⟨lower, -, cross⟩ := List.pairwise_append.mp apart
    have added : nests (assignments ++ [assignment]) =
        nests assignments ++ [nest assignment.path assignment.value] := List.map_append
    have inner : ∀ assignment ∈ assignments, assignment.value.entries = [] :=
      fun other member => bares other (List.mem_append_left _ member)
    rw [added, List.foldl_concat, overlays_concat, holding_overlay, ih lower inner,
      ← holding_overlay, holding_overlay_assoc]
    intro other settled
    apply settles_overlay_nest _ inner (bares assignment List.mem_concat_self) settled
    exact fun first member => cross first member assignment List.mem_cons_self

end Document

namespace Sources
open Document

variable {name : String} {bindings : List (String × String)} {assignment : Assignment}

/-- The text up to two underscores, and the names between later ones. -/
def splitLevels : List Char → List Char × List String
  | '_' :: '_' :: rest => ([], String.ofList (splitLevels rest).1 :: (splitLevels rest).2)
  | char :: rest => (char :: (splitLevels rest).1, (splitLevels rest).2)
  | [] => ([], [])

/-- The setting that a variable makes, if its name says that it makes one. -/
def assignmentOf (name value : String) : Option Assignment :=
  let lower := (lowerCase name).toList
  if settingMark.toList.isPrefixOf lower then
    let levels := splitLevels (lower.drop settingMark.length)
    some ⟨String.ofList levels.1 :: levels.2, ofVariable value⟩
  else none

def assignments (bindings : List (String × String)) : List Assignment :=
  bindings.filterMap fun (name, value) => assignmentOf name value

/-- The variables make a tree of mappings with plain names. -/
structure Coherent (assignments : List Assignment) : Prop where
  plain : ∀ assignment ∈ assignments, ∀ name ∈ assignment.path, isPlainName name = true
  apart : assignments.Pairwise fun first second => Apart first.path second.path

def variableTree (bindings : List (String × String)) : Document :=
  overlays (nests (assignments bindings))

theorem pathOfVariable_eq (text : List Char) :
    pathOfVariable text = (splitLevels text).1 ++ pointed (splitLevels text).2 := by
  fun_induction splitLevels text with
  | case1 rest ih => rw [pathOfVariable, ih]; simp [pointed]
  | case2 char rest apart ih => rw [pathOfVariable, ih]; rfl; exact apart
  | case3 => rfl

theorem toNat_toLower (letter : Char) : letter.toLower.toNat =
    if 65 ≤ letter.toNat ∧ letter.toNat ≤ 90 then letter.toNat + 32 else letter.toNat := by
  by_cases upper : 'A'.val ≤ letter.val ∧ letter.val ≤ 'Z'.val
  · have code : 65 ≤ letter.toNat ∧ letter.toNat ≤ 90 := upper
    have lower : letter.toLower.val = letter.val + 32 := congrArg Char.val (dif_pos upper)
    rw [if_pos code, Char.toNat, lower, UInt32.toNat_add]
    change (letter.toNat + 32) % 2 ^ 32 = _
    omega
  · have code : ¬(65 ≤ letter.toNat ∧ letter.toNat ≤ 90) := upper
    have same : letter.toLower = letter := dif_neg upper
    rw [if_neg code, same]

/-- The kelvin sign has the lower case of a letter, but it is the lower case of none. -/
theorem eq_of_toLower_eq_kelvin {letter : Char} (same : letter.toLower = '\u212a') :
    letter = '\u212a' := by
  have code := toNat_toLower letter
  have sign : letter.toLower.toNat = 0x212a := congrArg Char.toNat same
  have original : letter.toNat = 0x212a := by
    split at code <;> omega
  exact Char.toNat_inj.mp original

theorem lowerLetter_lowerLetter (letter : Char) :
    lowerLetter (lowerLetter letter) = lowerLetter letter := by
  have again : letter.toLower.toLower = letter.toLower := by
    apply Char.toNat_inj.mp
    rw [toNat_toLower, if_neg]
    rw [toNat_toLower]
    split <;> omega
  rw [lowerLetter, lowerLetter]
  split
  next => rfl
  next apart => rw [if_neg (fun same => apart (eq_of_toLower_eq_kelvin same)), again]

theorem lowerCase_eq_self (lower : ∀ letter ∈ name.toList, lowerLetter letter = letter) :
    lowerCase name = name := by
  rw [lowerCase, List.map_congr_left lower, List.map_id', String.ofList_toList]

theorem lower_of_mem_lowerCase {letter : Char} (member : letter ∈ (lowerCase name).toList) :
    lowerLetter letter = letter := by
  rw [lowerCase, String.toList_ofList] at member
  obtain ⟨original, -, rfl⟩ := List.mem_map.mp member
  exact lowerLetter_lowerLetter original

theorem mem_of_mem_splitLevels (text : List Char) :
    (∀ letter ∈ (splitLevels text).1, letter ∈ text) ∧
      ∀ name ∈ (splitLevels text).2, ∀ letter ∈ name.toList, letter ∈ text := by
  fun_induction splitLevels text with
  | case1 rest ih =>
    refine ⟨nofun, ?_⟩
    intro name member letter inside
    apply List.mem_cons_of_mem
    apply List.mem_cons_of_mem
    rcases List.mem_cons.mp member with rfl | member
    · exact ih.1 letter (by rwa [String.toList_ofList] at inside)
    · exact ih.2 name member letter inside
  | case2 char rest apart ih =>
    constructor
    · intro letter member
      exact List.cons_subset_cons char ih.1 member
    · intro name member letter inside
      exact List.mem_cons_of_mem char (ih.2 name member letter inside)
  | case3 => exact ⟨nofun, nofun⟩

/-- What an assignment has that the name of a variable spells. -/
structure Spelled (assignment : Assignment) : Prop where
  nonempty : assignment.path ≠ []
  lower : ∀ name ∈ assignment.path, lowerCase name = name
  bare : ∀ entries, assignment.value ≠ .mapping entries

def entryOf (assignment : Assignment) : String × Document :=
  (String.ofList (pointed assignment.path).tail, assignment.value)

theorem settingOf_eq (name value : String) :
    settingOf name value = (assignmentOf name value).map entryOf := by
  rw [settingOf, assignmentOf]
  split
  next =>
    rw [Option.map_some, entryOf, pathOfVariable_eq]
    simp [pointed]
  next => rfl

theorem variableLayer_eq (bindings : List (String × String)) :
    variableLayer bindings = (assignments bindings).map entryOf := by
  rw [variableLayer, assignments, List.map_filterMap]
  simp only [settingOf_eq]

theorem ofVariable_ne_mapping (value : String) (entries : List (String × Document)) :
    ofVariable value ≠ .mapping entries := by
  rw [ofVariable]
  split
  · nofun
  · nofun
  · split <;> nofun

theorem spelled_of_mem (member : assignment ∈ assignments bindings) : Spelled assignment := by
  obtain ⟨⟨name, value⟩, -, made⟩ := List.mem_filterMap.mp member
  simp only [assignmentOf] at made
  split at made
  next =>
    cases made
    have inside := mem_of_mem_splitLevels ((lowerCase name).toList.drop settingMark.length)
    refine ⟨List.cons_ne_nil _ _, ?_, ofVariable_ne_mapping value⟩
    intro level among
    apply lowerCase_eq_self
    intro letter here
    apply lower_of_mem_lowerCase
    apply List.mem_of_mem_drop
    rcases List.mem_cons.mp among with rfl | among
    · exact inside.1 letter (by rwa [String.toList_ofList] at here)
    · exact inside.2 level among letter here
  next => cases made

theorem Spelled.leaf (spelled : Spelled assignment) : assignment.value.entries = [] ∧
    lowered assignment.value = assignment.value ∧ isPlain assignment.value = true := by
  have bare := spelled.bare
  cases leaf : assignment.value with
  | mapping entries => exact absurd leaf (bare entries)
  | _ => exact ⟨rfl, by simp [lowered], by simp [isPlain]⟩

/-- Each variable merges the tree that has only its value. -/
theorem setAt_entryOf (spelled : Spelled assignment) (target : Document)
    (plain : ∀ name ∈ assignment.path, isPlainName name = true) :
    ∃ entries, nest assignment.path assignment.value = .mapping entries ∧
      isPlain (.mapping entries) = true ∧ lowered (.mapping entries) = .mapping entries ∧
      setAt assignment.value (pathOf (entryOf assignment).1) target = putAll target entries := by
  obtain ⟨-, lower, bare⟩ := spelled.leaf
  have plainTree := isPlain_nest plain bare
  have lowerTree := lowered_nest spelled.lower lower
  obtain ⟨path, value⟩ := assignment
  cases path with
  | nil => exact absurd rfl spelled.nonempty
  | cons name path =>
    obtain ⟨head, rest⟩ := List.forall_mem_cons.mp plain
    refine ⟨_, rfl, plainTree, lowerTree, ?_⟩
    rw [entryOf, pointed, List.flatMap_cons, List.cons_append, List.tail_cons]
    exact (congrArg (setAt value · target) (pathOf_pointed name path head rest)).trans
      (setAt_eq_putAll target name path)

theorem tidy_variableTree (coherent : Coherent (assignments bindings)) :
    Tidy (variableTree bindings) := by
  apply tidy_overlays
  intro tree member
  obtain ⟨assignment, listed, rfl⟩ := List.mem_map.mp member
  have spelled := spelled_of_mem listed
  obtain ⟨-, lower, bare⟩ := spelled.leaf
  have tidy := tidy_lowered (isPlain_nest (coherent.plain assignment listed) bare)
  rwa [lowered_nest spelled.lower lower] at tidy

theorem twin_assignments {first second : Document} (list : List Assignment)
    (spelled : ∀ assignment ∈ list, Spelled assignment)
    (plain : ∀ assignment ∈ list, ∀ name ∈ assignment.path, isPlainName name = true)
    (twin : Twin first second) :
    Twin (mergeLayer first (list.map entryOf)) ((nests list).foldl overlay second) := by
  induction list generalizing first second with
  | nil => exact twin
  | cons assignment list ih =>
    obtain ⟨spelledHead, spelledRest⟩ := List.forall_mem_cons.mp spelled
    obtain ⟨plainHead, plainRest⟩ := List.forall_mem_cons.mp plain
    obtain ⟨entries, tree, plainTree, lower, merged⟩ := setAt_entryOf spelledHead first plainHead
    apply ih spelledRest plainRest
    have step : Twin (setAt assignment.value (pathOf (entryOf assignment).1) first)
        (overlay second (nest assignment.path assignment.value)) := by
      rw [merged, tree, ← lower]
      exact twin.putAll plainTree
    exact step

theorem twin_variables {first second : Document} (coherent : Coherent (assignments bindings))
    (twin : Twin first second) :
    Twin (mergeLayer first (variableLayer bindings)) (overlay second (variableTree bindings)) := by
  rw [variableLayer_eq]
  have single := twin_assignments _ (fun _ => spelled_of_mem) coherent.plain twin
  have bares : ∀ assignment ∈ assignments bindings, assignment.value.entries = [] :=
    fun _ member => (spelled_of_mem member).leaf.1
  refine ⟨?_, single.left, tidy_overlay _ _ twin.right (tidy_variableTree coherent)⟩
  intro path
  rw [single.same, holding_foldl_nests coherent.apart bares]
  rfl

end Sources
end EventStore
