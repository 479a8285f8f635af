import EventStore.Proofs.DocumentOverlay
import EventStore.Settings.Layers

/-! Layers merged entry by entry. Putting the entries of a layer one after the other into a tree
lays them over it with their names in lower case, as long as these names differ. -/

namespace EventStore.Document

mutual
/-- The tree with the names of its mappings in lower case. -/
def lowered : Document → Document
  | .mapping entries => .mapping (loweredEntries entries)
  | value => value

def loweredEntries : List (String × Document) → List (String × Document)
  | [] => []
  | (name, value) :: entries => (lowerCase name, lowered value) :: loweredEntries entries
end

/-- A name that spells no path. -/
def isPlainName (name : String) : Bool := name ≠ "" && name.toList.all isNameChar

mutual
/-- All names of mappings are plain, and in one mapping they differ by more than case. -/
def isPlain : Document → Bool
  | .mapping entries =>
    isPlainEntries entries && decide (entries.map fun entry => lowerCase entry.1).Nodup
  | _ => true

def isPlainEntries : List (String × Document) → Bool
  | [] => true
  | (name, value) :: entries => isPlainName name && isPlain value && isPlainEntries entries
end

/-- The first value whose name has this lower case. -/
def lookupLowered (name : String) (entries : List (String × Document)) : Option Document :=
  (entries.find? fun entry => lowerCase entry.1 = name).map (·.2)

/-- A value put where there may be another. -/
def graft (existing : Option Document) : Document → Document
  | .mapping incoming => putAll (existing.getD (.mapping [])) incoming
  | value => value

variable {target value first second : Document} {name : String} {path : List String}
  {entries : List (String × Document)}

theorem put_eq (target : Document) (name : String) (value : Document) :
    put target name value = .mapping (setEntry (lowerCase name)
      (graft (target.entries.lookup (lowerCase name)) value) target.entries) := by
  cases value with
  | mapping incoming => rw [put]; rfl
  | _ => rw [put, graft] <;> simp

theorem isPlain_entries (plain : isPlain (.mapping entries) = true) :
    (∀ entry ∈ entries, isPlainName entry.1 = true ∧ isPlain entry.2 = true) ∧
      (entries.map fun entry => lowerCase entry.1).Nodup := by
  rw [isPlain, Bool.and_eq_true, decide_eq_true_iff] at plain
  obtain ⟨all, distinct⟩ := plain
  refine ⟨?_, distinct⟩
  clear distinct
  induction entries with
  | nil => nofun
  | cons first entries ih =>
    obtain ⟨name, value⟩ := first
    rw [isPlainEntries, Bool.and_eq_true, Bool.and_eq_true] at all
    intro entry member
    rcases List.mem_cons.mp member with rfl | member
    · exact all.1
    · exact ih all.2 entry member

theorem isPlain_of_lookupLowered (plain : isPlain (.mapping entries) = true)
    (found : lookupLowered name entries = some value) : isPlain value = true := by
  obtain ⟨entry, first, rfl⟩ := Option.map_eq_some_iff.mp found
  exact ((isPlain_entries plain).1 entry (List.mem_of_find?_eq_some first)).2

theorem lookupLowered_cons (first : String) (kept : Document)
    (entries : List (String × Document)) : lookupLowered name ((first, kept) :: entries) =
      if lowerCase first = name then some kept else lookupLowered name entries := by
  rw [lookupLowered, List.find?_cons]
  by_cases here : lowerCase first = name <;> simp [here, lookupLowered]

theorem lookupLowered_eq_none (entries : List (String × Document))
    (missing : name ∉ entries.map fun entry => lowerCase entry.1) :
    lookupLowered name entries = none := by
  rw [lookupLowered, Option.map_eq_none_iff, List.find?_eq_none]
  intro entry member same
  exact missing (List.mem_map.mpr ⟨entry, member, of_decide_eq_true same⟩)

theorem lookup_loweredEntries (entries : List (String × Document)) :
    (loweredEntries entries).lookup name = (lookupLowered name entries).map lowered := by
  induction entries with
  | nil => rfl
  | cons first entries ih =>
    obtain ⟨head, kept⟩ := first
    rw [loweredEntries, lookup_cons, lookupLowered_cons, ih]
    by_cases here : lowerCase head = name
    · rw [if_pos here, if_pos here.symm, Option.map_some]
    · rw [if_neg here, if_neg (Ne.symm here)]

theorem names_loweredEntries (entries : List (String × Document)) :
    (loweredEntries entries).map (·.1) = entries.map fun entry => lowerCase entry.1 := by
  induction entries with
  | nil => rfl
  | cons first entries ih =>
    obtain ⟨head, kept⟩ := first
    rw [loweredEntries, List.map_cons, List.map_cons, ih]

/-- Each name of the layer meets what the tree had under it, for no other entry comes there. -/
theorem lookup_putAll (target : Document)
    (distinct : (entries.map fun entry => lowerCase entry.1).Nodup) :
    (putAll target entries).entries.lookup name =
      (lookupLowered name entries).elim (target.entries.lookup name)
        fun value => some (graft (target.entries.lookup name) value) := by
  induction entries generalizing target with
  | nil => rfl
  | cons first entries ih =>
    obtain ⟨head, value⟩ := first
    obtain ⟨new, rest⟩ := List.nodup_cons.mp distinct
    rw [putAll, ih _ rest, lookupLowered_cons, put_eq, Document.entries, lookup_setEntry]
    by_cases here : lowerCase head = name
    · subst here
      rw [lookupLowered_eq_none entries new, if_pos rfl, if_pos rfl]
      rfl
    · rw [if_neg here, if_neg (Ne.symm here)]

theorem holding_root_putAll_mapping (kept entries : List (String × Document)) :
    holding [] (putAll (.mapping kept) entries) = .mapping := by
  induction entries generalizing kept with
  | nil => rfl
  | cons first entries ih =>
    rw [putAll, put_eq]
    exact ih _

theorem holding_root_putAll (target : Document) (entries : List (String × Document)) :
    holding [] (putAll target entries) =
      holding [] (overlay target (lowered (.mapping entries))) := by
  rw [holding_overlay]
  cases entries with
  | nil => cases target <;> rfl
  | cons first entries =>
    rw [putAll, put_eq, holding_root_putAll_mapping]
    rfl

theorem holding_overlay_bottom (path : List String) (tree : Document) :
    holding path (overlay (.mapping []) tree) = holding path tree := by
  rw [holding_overlay]
  cases path with
  | nil =>
    cases tree with
    | mapping entries => exact ite_self _
    | _ => rfl
  | cons name path => exact ite_self _

/-- Merging a layer entry by entry lays it over the tree. -/
theorem holding_putAll (path : List String) (target : Document)
    (plain : isPlain (.mapping entries) = true) :
    holding path (putAll target entries) =
      holding path (overlay target (lowered (.mapping entries))) := by
  induction path generalizing target entries with
  | nil => exact holding_root_putAll target entries
  | cons name path ih =>
    have grafted (existing : Option Document) (value : Document)
        (found : lookupLowered name entries = some value) : holding path (graft existing value) =
          holding path (overlay (existing.getD (.mapping [])) (lowered value)) := by
      cases value with
      | mapping incoming => exact ih _ (isPlain_of_lookupLowered plain found)
      | _ => rw [lowered, overlay_value _ rfl, graft] <;> simp
    rw [holding, holding, lookup_putAll target (isPlain_entries plain).2, lowered, lookup_overlay,
      lookup_loweredEntries]
    cases found : lookupLowered name entries with
    | none => cases target.entries.lookup name <;> rfl
    | some value =>
      cases target.entries.lookup name with
      | none => exact (grafted none value found).trans (holding_overlay_bottom path _)
      | some kept => exact grafted (some kept) value found

theorem nodup_names_putAll (target : Document) (entries : List (String × Document))
    (distinct : (target.entries.map (·.1)).Nodup) :
    ((putAll target entries).entries.map (·.1)).Nodup := by
  induction entries generalizing target with
  | nil => exact distinct
  | cons first entries ih =>
    apply ih
    rw [put_eq]
    exact nodup_names_setEntry distinct

theorem tidy_putAll (target : Document) (tidy : Tidy target)
    (plain : isPlain (.mapping entries) = true) : Tidy (putAll target entries) := by
  intro path
  induction path generalizing target entries with
  | nil => exact nodup_names_putAll target entries tidy.root
  | cons name path ih =>
    rw [namesAt, lookup_putAll target (isPlain_entries plain).2]
    cases found : lookupLowered name entries with
    | none => exact tidy (name :: path)
    | some value =>
      cases value with
      | mapping incoming =>
        apply ih _ _ (isPlain_of_lookupLowered plain found)
        cases held : target.entries.lookup name with
        | none => exact tidy_of_entries rfl
        | some kept => exact tidy.child held
      | _ => exact tidy_of_entries rfl path

theorem tidy_lowered {tree : Document} (plain : isPlain tree = true) : Tidy (lowered tree) := by
  intro path
  induction path generalizing tree with
  | nil =>
    cases tree with
    | mapping entries =>
      rw [lowered, namesAt, Document.entries, names_loweredEntries]
      exact (isPlain_entries plain).2
    | _ => exact List.nodup_nil
  | cons name path ih =>
    cases tree with
    | mapping entries =>
      rw [lowered, namesAt, Document.entries, lookup_loweredEntries]
      cases found : lookupLowered name entries with
      | none => exact List.nodup_nil
      | some value => exact ih (isPlain_of_lookupLowered plain found)
    | _ => exact List.nodup_nil

theorem Twin.putAll (twin : Twin first second) (plain : isPlain (.mapping entries) = true) :
    Twin (putAll first entries) (overlay second (lowered (.mapping entries))) := by
  refine ⟨?_, tidy_putAll first twin.left plain, tidy_overlay _ _ twin.right (tidy_lowered plain)⟩
  intro path
  rw [holding_putAll path first plain, holding_overlay, holding_overlay, twin.same]

/-- Names after points, as in the later part of a path. -/
def pointed (names : List String) : List Char := names.flatMap fun name => '.' :: name.toList

theorem isPlainName_iff : isPlainName name = true ↔
    name.toList.isEmpty = false ∧ name.toList.all isNameChar = true := by
  rw [isPlainName, Bool.and_eq_true, decide_eq_true_iff, List.isEmpty_eq_false_iff, ne_eq, ne_eq,
    String.toList_eq_nil_iff]

theorem length_le_pointed (names : List String) : names.length ≤ (pointed names).length := by
  induction names with
  | nil => exact Nat.le_refl 0
  | cons name names ih =>
    have text : pointed (name :: names) = '.' :: (name.toList ++ pointed names) := rfl
    rw [text, List.length_cons, List.length_cons, List.length_append]
    omega

theorem run_pointed (names : List String) (text : List Char) (plain : text.all isNameChar = true) :
    (text ++ pointed names).takeWhile isNameChar = text ∧
      (text ++ pointed names).dropWhile isNameChar = pointed names := by
  have all : ∀ char ∈ text, isNameChar char = true := List.all_eq_true.mp plain
  rw [List.takeWhile_append_of_pos all, List.dropWhile_append_of_pos all]
  cases names with
  | nil => exact ⟨List.append_nil text, rfl⟩
  | cons name names => exact ⟨List.append_nil text, rfl⟩

theorem readSteps_pointed (names : List String) (fuel : Nat) (enough : names.length ≤ fuel)
    (plain : ∀ name ∈ names, isPlainName name = true) :
    readSteps fuel (pointed names) = some (names.map .child) := by
  induction names generalizing fuel with
  | nil => cases fuel <;> rfl
  | cons name names ih =>
    obtain ⟨head, rest⟩ := List.forall_mem_cons.mp plain
    obtain ⟨present, plain⟩ := isPlainName_iff.mp head
    obtain ⟨fuel, rfl⟩ : ∃ left, fuel = left + 1 := Nat.exists_eq_add_one_of_ne_zero (by
      rw [List.length_cons] at enough; omega)
    obtain ⟨taken, dropped⟩ := run_pointed names name.toList plain
    have text : pointed (name :: names) = '.' :: (name.toList ++ pointed names) := rfl
    rw [text, readSteps, taken, dropped, present, ih fuel (Nat.le_of_succ_le_succ enough) rest]
    simp

theorem pathOf_pointed (first : String) (names : List String) (head : isPlainName first = true)
    (plain : ∀ name ∈ names, isPlainName name = true) :
    pathOf (String.ofList (first.toList ++ pointed names)) =
      .child first :: names.map .child := by
  obtain ⟨present, chars⟩ := isPlainName_iff.mp head
  obtain ⟨taken, dropped⟩ := run_pointed names first.toList chars
  have enough : names.length ≤ (String.ofList (first.toList ++ pointed names)).length := by
    rw [String.length_ofList, List.length_append]
    exact Nat.le_add_left_of_le (length_le_pointed names)
  rw [pathOf, String.toList_ofList, taken, dropped, present, readSteps_pointed names _ enough plain]
  simp

theorem mergeLayer_eq_putAll (target : Document)
    (plain : ∀ entry ∈ entries, isPlainName entry.1 = true) :
    mergeLayer target entries = putAll target entries := by
  induction entries generalizing target with
  | nil => rfl
  | cons first entries ih =>
    obtain ⟨name, value⟩ := first
    obtain ⟨head, rest⟩ := List.forall_mem_cons.mp plain
    have spelled : pathOf name = [.child name] := by
      have single := pathOf_pointed name [] head nofun
      rwa [pointed, List.flatMap_nil, List.append_nil, String.ofList_toList] at single
    have step : mergeLayer target ((name, value) :: entries) =
        mergeLayer (setAt value (pathOf name) target) entries := rfl
    rw [step, spelled]
    exact ih (put target name value) rest

theorem Twin.mergeLayer (twin : Twin first second) (plain : isPlain (.mapping entries) = true) :
    Twin (mergeLayer first entries) (overlay second (lowered (.mapping entries))) := by
  rw [mergeLayer_eq_putAll first fun entry member => ((isPlain_entries plain).1 entry member).1]
  exact twin.putAll plain

end EventStore.Document
