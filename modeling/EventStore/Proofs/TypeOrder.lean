import EventStore.Proofs.Registrations
import Mathlib.Algebra.Order.BigOperators.Group.List
import Mathlib.Algebra.Order.Group.Nat
import Mathlib.Algebra.GroupWithZero.Nat

/-! Deriving is a partial order, because a type is declared after its supertypes and so can never
come back to itself. A search that goes from supertype to supertype decides it: the search comes
past every declaration once at most, so it ends however often the ways to a supertype meet. -/

namespace EventStore.Proofs.TypeOrder
open TypeHierarchy TypeDerivation Relation

theorem eq_newest_of_chain {newest : Declaration} {older : List Declaration} {name : String}
    (layered : Layered (newest :: older))
    (chain : ReflTransGen (Direct (newest :: older)) name newest.name) : name = newest.name := by
  rcases chain_cases layered chain with chain | ⟨same, _⟩
  · rcases chain.cases_tail with same | ⟨_, _, last⟩
    · exact same.symm
    · exact absurd (last.supertype_declared layered.2.2) layered.1
  · exact same

theorem chain_antisymm {declarations : List Declaration} (layered : Layered declarations)
    {name other : String} (up : ReflTransGen (Direct declarations) name other)
    (down : ReflTransGen (Direct declarations) other name) : name = other := by
  induction declarations with
  | nil =>
    rcases up.cases_head with same | ⟨_, direct, _⟩
    · exact same
    · exact absurd direct.declared List.not_mem_nil
  | cons newest older ih =>
    rcases chain_cases layered up with olderUp | ⟨rfl, _⟩
    · rcases chain_cases layered down with olderDown | ⟨rfl, _⟩
      · exact ih layered.2.2 olderUp olderDown
      · exact eq_newest_of_chain layered up
    · exact (eq_newest_of_chain layered down).symm

theorem eq_of_unregistered {types : TypeHierarchy} {name other : String}
    (related : types.Derives name other) (unknown : name ∉ types.names ∨ other ∉ types.names) :
    name = other := by
  rcases unknown with unknown | unknown
  · exact related.eq_of_not_declared unknown
  · rcases related.cases_tail with same | ⟨_, _, last⟩
    · exact same.symm
    · exact absurd (last.supertype_declared types.layered) unknown

end EventStore.Proofs.TypeOrder

namespace EventStore.TypeHierarchy
open Proofs.TypeDerivation Relation

def supertypesOf? (types : TypeHierarchy) (name : String) : Option (List String) :=
  (types.declarations.find? (·.name = name)).map (·.supertypes)

def links (types : TypeHierarchy) : Nat := (types.declarations.map (·.supertypes.length)).sum

structure Search where
  visited : List String := []
  queue : List String

namespace Search

/-- Takes one name off the queue. There is an answer as soon as the name sought is met, or when
nothing is left to look at. -/
def round (types : TypeHierarchy) (sought : String) (search : Search) : Bool ⊕ Search :=
  match search.queue with
  | [] => .inl false
  | name :: queue =>
    if search.visited.contains name then .inr { search with queue }
    else
      let visited := name :: search.visited
      match types.supertypesOf? name with
      | none => .inr { visited, queue }
      | some supertypes =>
        if supertypes.contains sought then .inl true
        else .inr { visited, queue := queue ++ supertypes }

def run (types : TypeHierarchy) (sought : String) : Nat → Search → Option Bool
  | 0, _ => none
  | rounds + 1, search =>
    match search.round types sought with
    | .inl answer => some answer
    | .inr next => run types sought rounds next

end Search

def search (types : TypeHierarchy) (candidate sought : String) (rounds : Nat) : Option Bool :=
  if candidate = sought then some true else Search.run types sought rounds { queue := [candidate] }

section Search

variable {types : TypeHierarchy} {candidate sought : String} {search : Search}

theorem direct_iff {name supertype : String} :
    Direct types.declarations name supertype ↔
      ∃ supertypes, types.supertypesOf? name = some supertypes ∧ supertype ∈ supertypes := by
  obtain ⟨declarations, layered⟩ := types
  simp only [supertypesOf?]
  induction declarations with
  | nil =>
    constructor
    · intro direct
      exact absurd direct.declared List.not_mem_nil
    · intro found
      obtain ⟨_, impossible, _⟩ := found
      cases impossible
  | cons newest older ih =>
    rw [direct_cons, ih layered.2.2, List.find?_cons]
    by_cases same : newest.name = name
    · have first : older.find? (·.name = name) = none := by
        rw [List.find?_eq_none]
        intro declaration member
        rw [decide_eq_true_eq]
        intro repeated
        exact layered.1 (same ▸ repeated ▸ List.mem_map_of_mem member)
      simp [same, first]
    · simp [same]

def unseenLinks (declarations : List Declaration) (visited : List String) : Nat :=
  (declarations.map fun declaration =>
    if declaration.name ∈ visited then 0 else declaration.supertypes.length).sum

theorem unseenLinks_cons_le (declarations : List Declaration) (visited : List String) (name : String) :
    unseenLinks declarations (name :: visited) ≤ unseenLinks declarations visited := by
  apply List.sum_le_sum
  intro declaration _
  simp only [List.mem_cons]
  split
  · exact Nat.zero_le _
  next missing => rw [if_neg fun present => missing (.inr present)]

theorem unseenLinks_visit {declarations : List Declaration} {visited : List String} {name : String}
    {declaration : Declaration} (fresh : name ∉ visited)
    (found : declarations.find? (·.name = name) = some declaration) :
    unseenLinks declarations (name :: visited) + declaration.supertypes.length ≤
      unseenLinks declarations visited := by
  induction declarations with
  | nil => cases found
  | cons newest older ih =>
    rw [List.find?_cons] at found
    simp only [unseenLinks, List.map_cons, List.sum_cons, List.mem_cons]
    by_cases same : newest.name = name
    · have later := unseenLinks_cons_le older visited name
      simp only [same, decide_true, Option.some.injEq] at found
      subst found
      simp only [unseenLinks, List.mem_cons] at later
      simp only [same, fresh, true_or, if_true, if_false]
      omega
    · simp only [same, decide_false] at found
      have later := ih found
      simp only [unseenLinks, List.mem_cons] at later
      simp only [same, false_or]
      omega

/-- The rounds that a search can still take. A repeated name costs the one round in which it is
taken off the queue. -/
def Search.budget (types : TypeHierarchy) (search : Search) : Nat :=
  search.queue.length + unseenLinks types.declarations search.visited

/-- Everything that is looked at derives from the candidate, and whatever a name looked at leads
to is looked at as well. -/
structure Search.Sound (types : TypeHierarchy) (candidate sought : String) (search : Search) :
    Prop where
  begun : candidate ∈ search.visited ∨ candidate ∈ search.queue
  queued : ∀ name ∈ search.queue, types.Derives candidate name
  passed : ∀ name ∈ search.visited, ∀ supertype, Direct types.declarations name supertype →
    supertype ≠ sought ∧ (supertype ∈ search.visited ∨ supertype ∈ search.queue)

theorem Search.sound_start (types : TypeHierarchy) (candidate sought : String) :
    Search.Sound types candidate sought { queue := [candidate] } where
  begun := .inr List.mem_cons_self
  queued _ member := List.mem_singleton.mp member ▸ .refl
  passed _ member := absurd member List.not_mem_nil

/-- With nothing left in the queue, the names looked at are closed under direct supertypes. -/
theorem Search.Sound.not_derives (sound : search.Sound types candidate sought)
    (different : candidate ≠ sought) (done : search.queue = []) :
    ¬ types.Derives candidate sought := by
  have visited : ∀ name, types.Derives candidate name → name ∈ search.visited := by
    intro name chain
    induction chain with
    | refl => simpa [done] using sound.begun
    | tail _ direct ih => simpa [done] using (sound.passed _ ih _ direct).2
  intro derived
  rcases derived.cases_tail with same | ⟨name, chain, direct⟩
  · exact different same.symm
  · exact (sound.passed name (visited name chain) sought direct).1 rfl

theorem Search.Sound.skip {visited queue : List String} {name : String}
    (sound : Search.Sound types candidate sought ⟨visited, name :: queue⟩) (seen : name ∈ visited) :
    Search.Sound types candidate sought ⟨visited, queue⟩ := by
  have kept : ∀ other, other ∈ visited ∨ other ∈ name :: queue → other ∈ visited ∨ other ∈ queue := by
    intro other held
    rcases held with held | held
    · exact .inl held
    · rcases List.mem_cons.mp held with rfl | held
      · exact .inl seen
      · exact .inr held
  constructor
  · exact kept _ sound.begun
  · intro other member
    exact sound.queued other (List.mem_cons_of_mem _ member)
  · intro other member supertype direct
    obtain ⟨apart, held⟩ := sound.passed other member supertype direct
    exact ⟨apart, kept _ held⟩

theorem Search.Sound.visit {visited queue added : List String} {name : String}
    (sound : Search.Sound types candidate sought ⟨visited, name :: queue⟩)
    (supertypes : ∀ supertype, Direct types.declarations name supertype ↔ supertype ∈ added)
    (missing : sought ∉ added) :
    Search.Sound types candidate sought ⟨name :: visited, queue ++ added⟩ := by
  have kept : ∀ other, other ∈ visited ∨ other ∈ name :: queue →
      other ∈ name :: visited ∨ other ∈ queue ++ added := by
    intro other held
    rcases held with held | held
    · exact .inl (List.mem_cons_of_mem _ held)
    · rcases List.mem_cons.mp held with rfl | held
      · exact .inl List.mem_cons_self
      · exact .inr (List.mem_append_left _ held)
  have reached := sound.queued name List.mem_cons_self
  constructor
  · exact kept _ sound.begun
  · intro other member
    rcases List.mem_append.mp member with old | new
    · exact sound.queued other (List.mem_cons_of_mem _ old)
    · exact reached.tail ((supertypes other).mpr new)
  · intro other member supertype direct
    rcases List.mem_cons.mp member with rfl | old
    · have new := (supertypes supertype).mp direct
      refine ⟨?_, .inr (List.mem_append_right _ new)⟩
      rintro rfl
      exact missing new
    · obtain ⟨apart, held⟩ := sound.passed other old supertype direct
      exact ⟨apart, kept _ held⟩

theorem Search.Sound.round (sound : search.Sound types candidate sought)
    (different : candidate ≠ sought) :
    search.round types sought = .inl (types.derives candidate sought) ∨
      ∃ next, search.round types sought = .inr next ∧ next.Sound types candidate sought ∧
        next.budget types < search.budget types := by
  obtain ⟨visited, queue⟩ := search
  cases queue with
  | nil =>
    have refused : types.derives candidate sought = false := by
      rw [← Bool.not_eq_true, derives_iff]
      exact sound.not_derives different rfl
    rw [refused]
    exact .inl rfl
  | cons name queue =>
    by_cases seen : name ∈ visited
    · refine .inr ⟨⟨visited, queue⟩, ?_, sound.skip seen, ?_⟩
      · simp [Search.round, seen]
      · simp [budget]
    · cases found : types.declarations.find? (·.name = name) with
      | none =>
        -- A name that is not registered leads nowhere, so looking at it ends there.
        have unknown : types.supertypesOf? name = none := by rw [supertypesOf?, found]; rfl
        have none : ∀ supertype, Direct types.declarations name supertype ↔ supertype ∈ [] := by
          simp [direct_iff, unknown]
        have visit := sound.visit none List.not_mem_nil
        rw [List.append_nil] at visit
        refine .inr ⟨⟨name :: visited, queue⟩, ?_, visit, ?_⟩
        · simp [Search.round, seen, unknown]
        · have fewer := unseenLinks_cons_le types.declarations visited name
          simp only [budget, List.length_cons]
          omega
      | some declaration =>
        have known : types.supertypesOf? name = some declaration.supertypes := by
          rw [supertypesOf?, found]
          rfl
        have supertypes : ∀ supertype,
            Direct types.declarations name supertype ↔ supertype ∈ declaration.supertypes := by
          simp [direct_iff, known]
        by_cases met : sought ∈ declaration.supertypes
        · have reached := sound.queued name List.mem_cons_self
          have derived := derives_iff.mpr (reached.tail ((supertypes sought).mpr met))
          refine .inl ?_
          simp [Search.round, seen, known, met, derived]
        · refine .inr ⟨⟨name :: visited, queue ++ declaration.supertypes⟩, ?_,
            sound.visit supertypes met, ?_⟩
          · simp [Search.round, seen, known, met]
          · have fewer := unseenLinks_visit seen found
            simp only [budget, List.length_cons, List.length_append]
            omega

theorem Search.Sound.run (sound : search.Sound types candidate sought)
    (different : candidate ≠ sought) {rounds : Nat} (enough : search.budget types < rounds) :
    Search.run types sought rounds search = some (types.derives candidate sought) := by
  induction rounds generalizing search with
  | zero => exact absurd enough (Nat.not_lt_zero _)
  | succ rounds ih =>
    rw [Search.run]
    rcases sound.round different with answered | ⟨next, going, still, fewer⟩
    · rw [answered]
    · rw [going]
      exact ih still (Nat.lt_of_lt_of_le fewer (Nat.le_of_lt_succ enough))

theorem search_eq (types : TypeHierarchy) (candidate sought : String) {rounds : Nat}
    (enough : types.links + 1 < rounds) :
    types.search candidate sought rounds = some (types.derives candidate sought) := by
  rw [search]
  split
  next same => rw [derives_iff.mpr (same ▸ .refl)]
  next different =>
    apply (Search.sound_start types candidate sought).run different
    have all : unseenLinks types.declarations [] = types.links := by simp [unseenLinks, links]
    rw [Search.budget, all, List.length_singleton]
    omega

end Search
end EventStore.TypeHierarchy

namespace EventStore.Proofs.TypeOrder
open TypeHierarchy TypeDerivation Relation

/-- Whatever is registered, and whatever is refused, one name derives from another exactly if a
chain of declared supertypes leads there. This is a partial order in which a name that is not
registered stands alone, and a search along the supertypes ends with its answer. -/
theorem derives_orders_registered_types (calls : List Declaration) :
    let types := afterCalls calls
    (∀ name other, types.derives name other = true ↔ ReflTransGen (DeclaredBy calls) name other) ∧
      (∀ name, types.derives name name = true) ∧
      (∀ name other last, types.derives name other = true → types.derives other last = true →
        types.derives name last = true) ∧
      (∀ name other, types.derives name other = true → types.derives other name = true →
        name = other) ∧
      (∀ name other, types.declares name = false → types.derives name other = true ∨
        types.derives other name = true → name = other) ∧
      ∀ candidate sought rounds, types.links + 1 < rounds →
        types.search candidate sought rounds = some (types.derives candidate sought) := by
  intro types
  have declared : Direct types.declarations = DeclaredBy calls := by
    funext name supertype
    exact propext direct_afterCalls
  refine ⟨?_, ?_, ?_, ?_, ?_, ?_⟩
  · intro name other
    rw [derives_iff, Derives, declared]
  · intro name
    exact derives_iff.mpr .refl
  · intro name other last first second
    rw [derives_iff] at first second ⊢
    exact first.trans second
  · intro name other up down
    exact chain_antisymm types.layered (derives_iff.mp up) (derives_iff.mp down)
  · intro name other unknown related
    have absent : name ∉ types.names := by simpa [declares] using unknown
    rcases related with up | down
    · exact eq_of_unregistered (derives_iff.mp up) (.inl absent)
    · exact (eq_of_unregistered (derives_iff.mp down) (.inr absent)).symm
  · intro candidate sought rounds enough
    exact search_eq types candidate sought enough

/-- Two ways lead up to one type, which is named twice on the second; two calls are refused. -/
theorem derives_orders_registered_types_diamond :
    let calls : List Declaration :=
      [⟨"Event", []⟩, ⟨"Order", ["Event"]⟩, ⟨"Paid", ["Event", "Event"]⟩, ⟨"Order", ["Paid"]⟩,
        ⟨"Placed", ["Paid", "Order"]⟩, ⟨"Lost", ["Missing"]⟩]
    let types := afterCalls calls
    types.links + 1 < 7 ∧ types.search "Placed" "Event" 7 = some true ∧
      ReflTransGen (DeclaredBy calls) "Placed" "Event" ∧
      (types.declares "Lost" = false ∧ types.derives "Lost" "Missing" = false) := by
  intro calls types
  obtain ⟨chains, _, _, _, _, ends⟩ := derives_orders_registered_types calls
  have derived : types.derives "Placed" "Event" = true := by decide +kernel
  have enough : types.links + 1 < 7 := by decide +kernel
  refine ⟨enough, ?_, (chains "Placed" "Event").mp derived, by decide +kernel⟩
  rw [ends "Placed" "Event" 7 enough, derived]

end EventStore.Proofs.TypeOrder
