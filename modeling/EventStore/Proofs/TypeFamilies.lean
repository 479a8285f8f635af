import EventStore.Proofs.ByteOrder
import EventStore.Proofs.Registrations
import EventStore.Proofs.SelectionCondition
import Mathlib.Data.List.Sort

/-! The families of event types. A family is settled by the relation between the names alone: it
is the one list in ascending order of what derives from a name. So neither the order in which the
types were declared nor the one in which supertypes were named can be told from it. -/

namespace EventStore.TypeHierarchy
open Proofs.TypeDerivation Relation

variable {types others : TypeHierarchy}

theorem nodup_names (types : TypeHierarchy) : types.names.Nodup := by
  have distinct : ∀ declarations, Layered declarations → (declarations.map (·.name)).Nodup := by
    intro declarations layered
    induction declarations with
    | nil => exact List.nodup_nil
    | cons newest older ih => exact List.nodup_cons.mpr ⟨layered.1, ih layered.2.2⟩
  exact distinct types.declarations types.layered

/-- What stands behind the name in its family. -/
structure Descendants (types : TypeHierarchy) (name : String) (names : List String) : Prop where
  ascending : names.Pairwise (· < ·)
  mem_iff : ∀ other, other ∈ names ↔ other ≠ name ∧ types.derives other name = true

theorem exists_descendants (types : TypeHierarchy) (name : String) :
    ∃ names, types.family name = name :: names ∧ types.Descendants name names := by
  let below := types.names.filter fun other => other ≠ name && types.derives other name
  let names := below.mergeSort fun left right => decide (left ≤ right)
  have sorted : names.Pairwise fun left right => decide (left ≤ right) = true := by
    apply List.pairwise_mergeSort
    · intro first second third low high
      rw [decide_eq_true_eq] at low high ⊢
      exact String.le_trans low high
    · intro left right
      simpa using String.le_total left right
  have distinct : names.Nodup :=
    (List.mergeSort_perm below _).nodup_iff.mpr (types.nodup_names.filter _)
  refine ⟨names, rfl, ?_, ?_⟩
  · apply (sorted.and distinct).imp
    rintro left right ⟨low, different⟩
    exact Std.lt_of_le_of_ne (of_decide_eq_true low) different
  · intro other
    simp only [names, below, List.mem_mergeSort, List.mem_filter, Bool.and_eq_true,
      decide_eq_true_eq, and_iff_right_iff_imp]
    rintro ⟨different, derived⟩
    exact (derives_iff.mp derived).declared different

theorem Descendants.nodup {name : String} {names : List String}
    (descendants : types.Descendants name names) : (name :: names).Nodup := by
  refine List.nodup_cons.mpr ⟨?_, descendants.ascending.imp String.ne_of_lt⟩
  intro member
  exact ((descendants.mem_iff name).mp member).1 rfl

theorem nodup_family (types : TypeHierarchy) (name : String) : (types.family name).Nodup := by
  obtain ⟨names, family, descendants⟩ := types.exists_descendants name
  rw [family]
  exact descendants.nodup

theorem family_congr (same : ∀ name other, types.derives name other = others.derives name other)
    (name : String) : types.family name = others.family name := by
  obtain ⟨names, family, descendants⟩ := types.exists_descendants name
  obtain ⟨otherNames, otherFamily, otherDescendants⟩ := others.exists_descendants name
  have perm : names.Perm otherNames := by
    rw [List.perm_ext_iff_of_nodup descendants.nodup.of_cons otherDescendants.nodup.of_cons]
    intro other
    rw [descendants.mem_iff, otherDescendants.mem_iff, same]
  rw [family, otherFamily,
    perm.eq_of_pairwise (fun _ _ _ _ up down => absurd down (String.lt_asymm up))
      descendants.ascending otherDescendants.ascending]

/-- The same types are declared, each under the same supertypes. In which order, and how often a
supertype is named, makes no difference. -/
def SameTypes (first second : List Declaration) : Prop :=
  (∀ call ∈ first, ∃ other ∈ second, other.name = call.name ∧
      ∀ supertype, supertype ∈ other.supertypes ↔ supertype ∈ call.supertypes) ∧
    ∀ call ∈ second, ∃ other ∈ first, other.name = call.name ∧
      ∀ supertype, supertype ∈ other.supertypes ↔ supertype ∈ call.supertypes

theorem SameTypes.direct_iff {first second : List Declaration} (same : SameTypes first second)
    {name supertype : String} : Direct first name supertype ↔ Direct second name supertype := by
  obtain ⟨forth, back⟩ := same
  constructor
  · rintro ⟨call, member, rfl, inside⟩
    obtain ⟨other, found, named, supertypes⟩ := forth call member
    exact ⟨other, found, named, (supertypes supertype).mpr inside⟩
  · rintro ⟨call, member, rfl, inside⟩
    obtain ⟨other, found, named, supertypes⟩ := back call member
    exact ⟨other, found, named, (supertypes supertype).mpr inside⟩

theorem direct_declareAll {calls : List Declaration} (accepted : declareAll calls = .ok types) :
    Direct types.declarations = Direct calls := by
  funext name supertype
  rw [declarations_of_declareAll accepted]
  simp [Direct]

theorem derives_eq_of_sameTypes {first second : List Declaration}
    (firstAccepted : declareAll first = .ok types) (secondAccepted : declareAll second = .ok others)
    (same : SameTypes first second) (name other : String) :
    types.derives name other = others.derives name other := by
  have direct : Direct types.declarations = Direct others.declarations := by
    rw [direct_declareAll firstAccepted, direct_declareAll secondAccepted]
    funext name supertype
    exact propext same.direct_iff
  rw [Bool.eq_iff_iff, derives_iff, derives_iff, Derives, Derives, direct]

end EventStore.TypeHierarchy

namespace EventStore.Proofs.TypeFamilies
open TypeHierarchy SelectionCondition

theorem foldl_distinct {names : List String} (unique : names.Nodup) (found : List String) :
    names.foldl (fun found name => if found.contains name then found else found ++ [name]) found =
      found ++ names.filter fun name => !found.contains name := by
  induction names generalizing found with
  | nil => simp
  | cons name names ih =>
    obtain ⟨fresh, distinct⟩ := List.nodup_cons.mp unique
    rw [List.foldl_cons, ih distinct]
    by_cases known : name ∈ found
    · simp [known]
    · have same : (names.filter fun other => !(found ++ [name]).contains other) =
          names.filter fun other => !found.contains other := by
        apply List.filter_congr
        intro other member
        have different : other ≠ name := fun equal => fresh (equal ▸ member)
        simp [different]
      simp only [List.contains_iff_mem, known, if_false, same]
      simp [known]

theorem admittedNames_concat (types : TypeHierarchy) (events : List String) (event : String) :
    Sql.admittedNames types (events ++ [event]) = Sql.admittedNames types events ++
      (types.family event).filter fun name => !(Sql.admittedNames types events).contains name := by
  rw [Sql.admittedNames, List.foldl_append]
  exact foldl_distinct (types.nodup_family event) _

theorem nodup_admittedNames (types : TypeHierarchy) (events : List String) :
    (Sql.admittedNames types events).Nodup := by
  induction events using List.reverseRecOn with
  | nil => exact List.nodup_nil
  | append_singleton events event ih =>
    rw [admittedNames_concat, List.nodup_append]
    refine ⟨ih, (types.nodup_family event).filter _, ?_⟩
    rintro name known other added rfl
    simp [known] at added

/-- Whatever is registered, the family of a name is the name and then, in ascending order of their
bytes and each once, all others that derive from it. A condition on some event types lists each
name of their families once; a further event type adds the names that are still missing. All of
this is the same for any two orders in which the same types can be registered. -/
theorem families_settled_by_derivation :
    (∀ calls name,
      let types := afterCalls calls
      ∃ names, types.family name = name :: names ∧
        names.Pairwise (fun left right => Bytes.ofText left < Bytes.ofText right) ∧
        (name :: names).Nodup ∧
        ∀ other, other ∈ types.family name ↔ types.derives other name = true) ∧
    (∀ calls events,
      let types := afterCalls calls
      let names := Sql.admittedNames types events
      (events ≠ [] → Sql.eventsCondition types events = some (.among .eventName names)) ∧
        names.Nodup ∧
        (∀ name, name ∈ names ↔ ∃ event ∈ events, types.derives name event = true) ∧
        ∀ event, Sql.admittedNames types (events ++ [event]) =
          names ++ (types.family event).filter fun name => !names.contains name) ∧
    ∀ first second types others, declareAll first = .ok types → declareAll second = .ok others →
      SameTypes first second →
      types.derives = others.derives ∧ types.family = others.family ∧
        Sql.eventsCondition types = Sql.eventsCondition others := by
  refine ⟨?_, ?_, ?_⟩
  · intro calls name types
    obtain ⟨names, family, descendants⟩ := types.exists_descendants name
    refine ⟨names, family, ?_, descendants.nodup, fun other => mem_family⟩
    exact descendants.ascending.imp ByteOrder.ofText_lt_iff.mpr
  · intro calls events types names
    refine ⟨?_, nodup_admittedNames types events, fun name => mem_admittedNames,
      admittedNames_concat types events⟩
    intro some
    rw [Sql.eventsCondition, if_neg (by simpa using some)]
  · intro first second types others firstAccepted secondAccepted same
    have derives := derives_eq_of_sameTypes firstAccepted secondAccepted same
    have families : types.family = others.family :=
      funext (family_congr fun name other => derives name other)
    refine ⟨funext fun name => funext (derives name), families, ?_⟩
    funext events
    rw [Sql.eventsCondition, Sql.eventsCondition, Sql.admittedNames, Sql.admittedNames, families]

/-- Two types change places, and one of them names its supertype twice. -/
theorem families_settled_by_derivation_reordered :
    let first : List Declaration := [⟨"Event", []⟩, ⟨"Ωmega", ["Event"]⟩, ⟨"Paid", ["Event"]⟩]
    let second : List Declaration :=
      [⟨"Event", []⟩, ⟨"Paid", ["Event", "Event"]⟩, ⟨"Ωmega", ["Event"]⟩]
    ∃ types others, declareAll first = .ok types ∧ declareAll second = .ok others ∧
      SameTypes first second ∧ others.family "Event" = ["Event", "Paid", "Ωmega"] ∧
      Sql.eventsCondition types ["Paid", "Event"] = Sql.eventsCondition others ["Paid", "Event"] := by
  intro first second
  let types : TypeHierarchy := ⟨first.reverse, by simp [first, Layered]⟩
  let others : TypeHierarchy := ⟨second.reverse, by simp [second, Layered]⟩
  have firstAccepted : declareAll first = .ok types := rfl
  have secondAccepted : declareAll second = .ok others := rfl
  have same : SameTypes first second := by
    simp [SameTypes, first, second]
  obtain ⟨_, families, conditions⟩ :=
    families_settled_by_derivation.2.2 first second types others firstAccepted secondAccepted same
  refine ⟨types, others, firstAccepted, secondAccepted, same, ?_, by rw [conditions]⟩
  have below : (types.names.filter fun name => name ≠ "Event" && types.derives name "Event") =
      ["Paid", "Ωmega"] := by decide +kernel
  have sorted : ["Paid", "Ωmega"].Pairwise fun left right => decide (left ≤ right) = true := by
    decide +kernel
  rw [← families, family, below, List.mergeSort_of_pairwise sorted]

end EventStore.Proofs.TypeFamilies
