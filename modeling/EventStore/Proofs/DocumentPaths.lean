import EventStore.Settings.Document
import Mathlib.Data.List.Nodup
import Mathlib.Data.List.Perm.Basic

/-! A settings tree by its paths. A path leads through mappings only, so to it a list is a value
like any other. -/

namespace EventStore.Document

inductive Holding
  | nothing
  | mapping
  | value (document : Document)

namespace Holding

def orElse : Holding → Holding → Holding
  | .nothing, other => other
  | held, _ => held

@[simp] theorem orElse_nothing (held : Holding) : held.orElse .nothing = held := by
  cases held <;> rfl

theorem orElse_assoc (first second third : Holding) :
    (first.orElse second).orElse third = first.orElse (second.orElse third) := by
  cases first <;> rfl

end Holding

/-- What a tree holds at the end of a path. -/
def holding : List String → Document → Holding
  | [], .mapping _ => .mapping
  | [], value => .value value
  | name :: path, tree => (tree.entries.lookup name).elim .nothing (holding path)

/-- The names of the mapping at the end of a path. -/
def namesAt : List String → Document → List String
  | [], tree => tree.entries.map (·.1)
  | name :: path, tree => (tree.entries.lookup name).elim [] (namesAt path)

/-- No mapping that a path leads to has a name twice. -/
def Tidy (tree : Document) : Prop := ∀ path, (namesAt path tree).Nodup

/-- Trees that hold the same at every path, in whatever order. -/
structure Twin (first second : Document) : Prop where
  same : ∀ path, holding path first = holding path second
  left : Tidy first
  right : Tidy second

variable {tree value first second : Document} {name other : String} {path : List String}
  {entries others : List (String × Document)}

theorem holding_root_ne_nothing (tree : Document) : holding [] tree ≠ .nothing := by
  cases tree <;> nofun

theorem eq_of_holding_root (held : holding [] tree = .value value) : tree = value := by
  cases tree with
  | mapping entries => cases held
  | _ => exact Holding.value.inj held

theorem holding_eq_nothing_of_entries (bare : tree.entries = []) (name : String)
    (path : List String) : holding (name :: path) tree = .nothing := by
  rw [holding, bare]
  rfl

theorem holding_ne_nothing_of_append (path rest : List String)
    (held : holding (path ++ rest) tree ≠ .nothing) : holding path tree ≠ .nothing := by
  induction path generalizing tree with
  | nil => exact holding_root_ne_nothing tree
  | cons name path ih =>
    rw [List.cons_append, holding] at held
    rw [holding]
    cases found : tree.entries.lookup name with
    | none => simp [found] at held
    | some inner =>
      rw [found] at held
      exact ih held

theorem tidy_of_entries (bare : tree.entries = []) : Tidy tree := by
  intro path
  cases path <;> simp [namesAt, bare]

theorem Tidy.root (tidy : Tidy tree) : (tree.entries.map (·.1)).Nodup := tidy []

theorem Tidy.child (tidy : Tidy tree) (held : tree.entries.lookup name = some value) :
    Tidy value := by
  intro path
  have inner := tidy (name :: path)
  rwa [namesAt, held] at inner

theorem lookup_cons (first : String) (kept : Document) (entries : List (String × Document)) :
    ((first, kept) :: entries).lookup name =
      if name = first then some kept else entries.lookup name := by
  rw [List.lookup_cons]
  by_cases here : name = first
  · simp [here]
  · rw [beq_eq_false_iff_ne.mpr here, if_neg here]

theorem isNone_lookup_iff : (entries.lookup name).isNone = true ↔ name ∉ entries.map (·.1) := by
  simp only [Option.isNone_iff_eq_none, List.lookup_eq_none_iff, List.mem_map, not_exists, not_and,
    bne_iff_ne]
  exact ⟨fun apart entry member same => apart entry member same.symm,
    fun apart entry member same => apart entry member same.symm⟩

theorem Twin.eq_or_mappings (twin : Twin first second) :
    first = second ∨ ∃ entries others, first = .mapping entries ∧ second = .mapping others := by
  have root := twin.same []
  cases first with
  | mapping entries =>
    cases second with
    | mapping others => exact .inr ⟨entries, others, rfl, rfl⟩
    | _ => cases root
  | _ => exact .inl (eq_of_holding_root root.symm).symm

theorem Twin.lookup (twin : Twin first second) (name : String) :
    Option.Rel Twin (first.entries.lookup name) (second.entries.lookup name) := by
  have below (path : List String) := twin.same (name :: path)
  simp only [holding] at below
  cases held : first.entries.lookup name with
  | none =>
    cases other : second.entries.lookup name with
    | none => exact .none
    | some value =>
      simp only [held, other] at below
      exact absurd (below []).symm (holding_root_ne_nothing value)
  | some value =>
    cases other : second.entries.lookup name with
    | none =>
      simp only [held, other] at below
      exact absurd (below []) (holding_root_ne_nothing value)
    | some twinValue =>
      simp only [held, other] at below
      exact .some ⟨below, twin.left.child held, twin.right.child other⟩

theorem Twin.names (twin : Twin (.mapping entries) (.mapping others)) :
    (entries.map (·.1)).Perm (others.map (·.1)) := by
  apply (List.perm_ext_iff_of_nodup twin.left.root twin.right.root).mpr
  intro name
  rw [← not_iff_not]
  change name ∉ entries.map (·.1) ↔ name ∉ others.map (·.1)
  rw [← isNone_lookup_iff, ← isNone_lookup_iff]
  have related : Option.Rel Twin (entries.lookup name) (others.lookup name) := twin.lookup name
  generalize entries.lookup name = held at related
  generalize others.lookup name = found at related
  cases related <;> exact Iff.rfl

theorem lookup_setEntry (entries : List (String × Document)) :
    (setEntry name value entries).lookup other =
      if other = name then some value else entries.lookup other := by
  induction entries with
  | nil => exact lookup_cons name value []
  | cons entry entries ih =>
    obtain ⟨first, kept⟩ := entry
    rw [setEntry]
    split
    next found =>
      rw [lookup_cons, lookup_cons, found]
      split <;> rfl
    next apart =>
      rw [lookup_cons, lookup_cons, ih]
      by_cases here : other = first
      · rw [if_pos here, if_neg (here.trans_ne apart), if_pos here]
      · rw [if_neg here, if_neg here]

theorem names_setEntry (entries : List (String × Document)) :
    (setEntry name value entries).map (·.1) =
      if name ∈ entries.map (·.1) then entries.map (·.1) else entries.map (·.1) ++ [name] := by
  induction entries with
  | nil => rfl
  | cons entry entries ih =>
    obtain ⟨first, kept⟩ := entry
    rw [setEntry]
    by_cases found : first = name
    · simp [found]
    · simp only [found, if_false, List.map_cons, ih, List.mem_cons, Ne.symm found, false_or]
      split <;> rfl

theorem nodup_names_setEntry (distinct : (entries.map (·.1)).Nodup) :
    ((setEntry name value entries).map (·.1)).Nodup := by
  rw [names_setEntry]
  split
  next => exact distinct
  next new =>
    rw [← List.concat_eq_append]
    exact List.Nodup.concat new distinct

theorem lookup_filter_missing (entries kept : List (String × Document)) :
    (entries.filter fun entry => (kept.lookup entry.1).isNone).lookup name =
      if (kept.lookup name).isNone then entries.lookup name else none := by
  induction entries with
  | nil => exact (ite_self none).symm
  | cons entry entries ih =>
    obtain ⟨first, value⟩ := entry
    rw [List.filter_cons, lookup_cons]
    by_cases here : name = first
    · subst here
      cases missing : (kept.lookup name).isNone with
      | false => simpa only [missing, Bool.false_eq_true, if_false] using ih
      | true => simp only [if_true, lookup_cons]
    · cases (kept.lookup first).isNone with
      | false => simpa only [Bool.false_eq_true, if_false, here] using ih
      | true => simpa only [if_true, lookup_cons, here, if_false] using ih

end EventStore.Document
