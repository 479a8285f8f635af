import EventStore.Proofs.Outcomes
import EventStore.Proofs.TypeDerivation
import Mathlib.Data.List.Induction

/-! Declarations that callers ask for one after the other. Those that are accepted make up the
hierarchy, and those that are refused leave no trace in it. -/

namespace EventStore.TypeHierarchy
open Proofs.TypeDerivation Proofs.Outcomes

/-- The hierarchy after a call, which is as it was if the call is refused. -/
def afterCall (types : TypeHierarchy) (call : Declaration) : TypeHierarchy :=
  match types.declare call.name call.supertypes with
  | .ok grown => grown
  | .error _ => types

def afterCalls (calls : List Declaration) : TypeHierarchy := calls.foldl afterCall empty

/-- The hierarchy of calls that are all accepted. One that is refused makes the whole fail. -/
def declareAll (calls : List Declaration) : Except DeclarationFault TypeHierarchy :=
  calls.foldlM (fun types call => types.declare call.name call.supertypes) empty

/-- A call that was accepted where it stands declared the name under the supertype. -/
def DeclaredBy (calls : List Declaration) (name supertype : String) : Prop :=
  ∃ earlier call later, calls = earlier ++ call :: later ∧
    (∃ grown, (afterCalls earlier).declare call.name call.supertypes = .ok grown) ∧
    call.name = name ∧ supertype ∈ call.supertypes

theorem declare_cases (types : TypeHierarchy) (name : String) (supertypes : List String) :
    (∃ fault, types.declare name supertypes = .error fault) ∨
      ∃ grown, types.declare name supertypes = .ok grown ∧
        grown.declarations = ⟨name, supertypes⟩ :: types.declarations := by
  unfold declare
  split
  · exact .inl ⟨_, rfl⟩
  · split
    · exact .inl ⟨_, rfl⟩
    · exact .inr ⟨_, rfl, rfl⟩

theorem declarations_of_declare {types grown : TypeHierarchy} {name : String}
    {supertypes : List String} (declared : types.declare name supertypes = .ok grown) :
    grown.declarations = ⟨name, supertypes⟩ :: types.declarations := by
  rcases types.declare_cases name supertypes with ⟨_, refused⟩ | ⟨_, accepted, declarations⟩
  · rw [refused] at declared
    cases declared
  · rw [accepted] at declared
    cases declared
    exact declarations

theorem declarations_of_declareAll {calls : List Declaration} {types : TypeHierarchy}
    (accepted : declareAll calls = .ok types) : types.declarations = calls.reverse := by
  induction calls using List.reverseRecOn generalizing types with
  | nil =>
    cases accepted
    rfl
  | append_singleton calls call ih =>
    rw [declareAll, List.foldlM_append] at accepted
    obtain ⟨before, earlier, accepted⟩ := bind_eq_ok_iff.mp accepted
    obtain ⟨after, last, same⟩ := bind_eq_ok_iff.mp accepted
    cases same
    rw [declarations_of_declare last, ih earlier, List.reverse_concat]

theorem direct_cons {newest : Declaration} {older : List Declaration} {name supertype : String} :
    Direct (newest :: older) name supertype ↔
      newest.name = name ∧ supertype ∈ newest.supertypes ∨ Direct older name supertype := by
  simp [Direct, or_and_right, exists_or]

theorem afterCalls_concat (calls : List Declaration) (call : Declaration) :
    afterCalls (calls ++ [call]) = (afterCalls calls).afterCall call := by
  rw [afterCalls, List.foldl_append]
  rfl

theorem declaredBy_concat {calls : List Declaration} {call : Declaration} {name supertype : String} :
    DeclaredBy (calls ++ [call]) name supertype ↔ DeclaredBy calls name supertype ∨
      (∃ grown, (afterCalls calls).declare call.name call.supertypes = .ok grown) ∧
        call.name = name ∧ supertype ∈ call.supertypes := by
  constructor
  · intro declared
    obtain ⟨earlier, accepted, later, split, rest⟩ := declared
    cases later using List.reverseRecOn with
    | nil =>
      obtain ⟨rfl, same⟩ := List.append_inj' split rfl
      obtain rfl := (List.cons.inj same).1
      exact .inr rest
    | append_singleton later last =>
      rw [← List.cons_append, ← List.append_assoc] at split
      exact .inl ⟨earlier, accepted, later, (List.append_inj' split rfl).1, rest⟩
  · intro either
    rcases either with ⟨earlier, accepted, later, rfl, rest⟩ | last
    · exact ⟨earlier, accepted, later ++ [call], by simp, rest⟩
    · exact ⟨calls, call, [], rfl, last⟩

theorem direct_afterCalls {calls : List Declaration} {name supertype : String} :
    Direct (afterCalls calls).declarations name supertype ↔ DeclaredBy calls name supertype := by
  induction calls using List.reverseRecOn with
  | nil =>
    constructor
    · intro direct
      obtain ⟨_, impossible, _⟩ := direct
      cases impossible
    · intro declared
      obtain ⟨_, _, _, impossible, _⟩ := declared
      simp at impossible
  | append_singleton calls call ih =>
    rw [afterCalls_concat, declaredBy_concat, afterCall]
    rcases (afterCalls calls).declare_cases call.name call.supertypes with
      ⟨fault, refused⟩ | ⟨grown, accepted, declarations⟩
    · simp only [refused, ih, reduceCtorEq, exists_false, false_and, or_false]
    · simp only [accepted, declarations, direct_cons, ih, Except.ok.injEq, exists_eq', true_and]
      exact or_comm

end EventStore.TypeHierarchy
