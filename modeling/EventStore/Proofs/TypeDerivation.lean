import EventStore.TypeHierarchy
import Mathlib.Logic.Relation

/-! What it means to derive from a type: a chain of direct supertypes leads there. One pass over
the declarations finds every such chain, because no chain returns to a newer declaration. -/

namespace EventStore.Proofs.TypeDerivation
open TypeHierarchy Relation

def Direct (declarations : List Declaration) (name supertype : String) : Prop :=
  ∃ declaration ∈ declarations, declaration.name = name ∧ supertype ∈ declaration.supertypes

theorem Direct.older {newest : Declaration} {older : List Declaration} {name supertype : String}
    (direct : Direct older name supertype) : Direct (newest :: older) name supertype := by
  obtain ⟨declaration, member, named⟩ := direct
  exact ⟨declaration, List.mem_cons_of_mem _ member, named⟩

theorem Direct.declared {declarations : List Declaration} {name supertype : String}
    (direct : Direct declarations name supertype) : name ∈ declarations.map (·.name) := by
  obtain ⟨declaration, member, rfl, _⟩ := direct
  exact List.mem_map_of_mem member

/-- Supertypes are declared themselves, and before the types that name them. -/
theorem Direct.supertype_declared {declarations : List Declaration} {name supertype : String}
    (layered : Layered declarations) (direct : Direct declarations name supertype) :
    supertype ∈ declarations.map (·.name) := by
  induction declarations with
  | nil =>
    obtain ⟨_, impossible, _⟩ := direct
    cases impossible
  | cons newest older ih =>
    obtain ⟨_, known, olderLayered⟩ := layered
    obtain ⟨declaration, member, same, inside⟩ := direct
    rcases List.mem_cons.mp member with rfl | member
    · exact List.mem_cons_of_mem _ (known supertype inside)
    · exact List.mem_cons_of_mem _ (ih olderLayered ⟨declaration, member, same, inside⟩)

/-- A chain uses the newest declaration in its first step or not at all. -/
theorem chain_cases {newest : Declaration} {older : List Declaration} {name ancestor : String}
    (layered : Layered (newest :: older))
    (chain : ReflTransGen (Direct (newest :: older)) name ancestor) :
    ReflTransGen (Direct older) name ancestor ∨
      name = newest.name ∧ ∃ supertype ∈ newest.supertypes,
        ReflTransGen (Direct older) supertype ancestor := by
  obtain ⟨fresh, known, olderLayered⟩ := layered
  induction chain using ReflTransGen.head_induction_on with
  | refl => exact .inl .refl
  | @head name supertype direct chain ih =>
    obtain ⟨declaration, member, named, inside⟩ := direct
    have declaredBefore : supertype ∈ older.map (·.name) := by
      rcases List.mem_cons.mp member with rfl | member
      · exact known supertype inside
      · exact Direct.supertype_declared olderLayered ⟨declaration, member, named, inside⟩
    have continues : ReflTransGen (Direct older) supertype ancestor := by
      rcases ih with continues | ⟨rfl, _⟩
      · exact continues
      · exact absurd declaredBefore fresh
    rcases List.mem_cons.mp member with rfl | member
    · exact .inr ⟨named.symm, supertype, inside, continues⟩
    · exact .inl (continues.head ⟨declaration, member, named, inside⟩)

theorem mem_collected {declarations : List Declaration} (layered : Layered declarations)
    {reached : List String} {ancestor : String} :
    ancestor ∈ collected reached declarations ↔
      ∃ name ∈ reached, ReflTransGen (Direct declarations) name ancestor := by
  induction declarations generalizing reached with
  | nil =>
    have stuck : ∀ name, ReflTransGen (Direct []) name ancestor → name = ancestor := by
      intro name chain
      induction chain using ReflTransGen.head_induction_on with
      | refl => rfl
      | head direct _ _ =>
        obtain ⟨_, impossible, _⟩ := direct
        cases impossible
    constructor
    · exact fun member => ⟨ancestor, member, .refl⟩
    · rintro ⟨name, member, chain⟩
      exact stuck name chain ▸ member
  | cons newest older ih =>
    rw [collected, List.foldl_cons]
    change ancestor ∈ collected _ older ↔ _
    rw [ih layered.2.2]
    constructor
    · rintro ⟨name, member, chain⟩
      have longer : ReflTransGen (Direct (newest :: older)) name ancestor :=
        ReflTransGen.mono (fun _ _ => Direct.older) _ _ chain
      split at member
      next met =>
        rcases List.mem_append.mp member with member | inside
        · exact ⟨name, member, longer⟩
        · exact ⟨newest.name, by simpa using met,
            longer.head ⟨newest, List.mem_cons_self, rfl, inside⟩⟩
      next => exact ⟨name, member, longer⟩
    · rintro ⟨name, member, chain⟩
      -- Nothing older names the newest type, so a chain can use it in its first step only.
      rcases chain_cases layered chain with chain | ⟨rfl, supertype, inside, chain⟩
      · refine ⟨name, ?_, chain⟩
        split
        · exact List.mem_append_left _ member
        · exact member
      · refine ⟨supertype, ?_, chain⟩
        rw [if_pos (by simpa using member)]
        exact List.mem_append_right _ inside

end EventStore.Proofs.TypeDerivation

namespace EventStore.TypeHierarchy
open Proofs.TypeDerivation

/-- One name equals the other or derives from it. -/
def Derives (types : TypeHierarchy) : String → String → Prop :=
  Relation.ReflTransGen (Direct types.declarations)

theorem derives_iff {types : TypeHierarchy} {candidate supertype : String} :
    types.derives candidate supertype = true ↔ types.Derives candidate supertype := by
  rw [derives, List.contains_iff_mem, ancestors, mem_collected types.layered]
  simp [Derives]

theorem Derives.eq_of_not_declared {types : TypeHierarchy} {candidate supertype : String}
    (derived : types.Derives candidate supertype) (unknown : candidate ∉ types.names) :
    candidate = supertype := by
  rcases derived.cases_head with same | ⟨_, direct, _⟩
  · exact same
  · exact absurd direct.declared unknown

theorem Derives.declared {types : TypeHierarchy} {candidate supertype : String}
    (derived : types.Derives candidate supertype) (different : candidate ≠ supertype) :
    candidate ∈ types.names :=
  Classical.byContradiction fun unknown => different (derived.eq_of_not_declared unknown)

theorem mem_family {types : TypeHierarchy} {name other : String} :
    other ∈ types.family name ↔ types.derives other name = true := by
  rw [family, List.mem_cons, List.mem_mergeSort, List.mem_filter]
  constructor
  · rintro (rfl | ⟨_, kept⟩)
    · exact derives_iff.mpr .refl
    · simp only [Bool.and_eq_true] at kept
      exact kept.2
  · intro derived
    by_cases same : other = name
    · exact .inl same
    · exact .inr ⟨(derives_iff.mp derived).declared same, by simp [same, derived]⟩

end EventStore.TypeHierarchy
