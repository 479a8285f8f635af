import EventStore.Pool
import EventStore.Storage.Memory
import EventStore.Proofs.SelectorContainment
import EventStore.Proofs.TypeFamilies

/-! Hierarchies that further calls make larger. A type keeps its supertypes once it is declared,
and these were declared before it, so nothing about it can change; a name that was not registered
may come to derive from others, which only adds to what selectors cover and admit. -/

namespace EventStore.TypeHierarchy
open Proofs.TypeDerivation Relation

variable {types grown : TypeHierarchy} {name other : String}

/-- All declarations stay, and further ones stand before them. -/
def GrowsTo (types grown : TypeHierarchy) : Prop := types.declarations <:+ grown.declarations

theorem growsTo_afterCall (types : TypeHierarchy) (call : Declaration) :
    types.GrowsTo (types.afterCall call) := by
  rw [afterCall]
  rcases types.declare_cases call.name call.supertypes with
    ⟨fault, refused⟩ | ⟨grown, accepted, declarations⟩
  · rw [refused]
    exact List.suffix_rfl
  · rw [accepted, GrowsTo, declarations]
    exact List.suffix_cons _ _

theorem growsTo_afterCalls (calls more : List Declaration) :
    (afterCalls calls).GrowsTo (afterCalls (calls ++ more)) := by
  induction more using List.reverseRecOn with
  | nil =>
    rw [List.append_nil]
    exact List.suffix_rfl
  | append_singleton more call ih =>
    rw [← List.append_assoc, afterCalls_concat]
    exact ih.trans (growsTo_afterCall _ call)

theorem GrowsTo.derives (grows : types.GrowsTo grown) (derived : types.Derives name other) :
    grown.Derives name other := by
  apply ReflTransGen.mono _ _ _ derived
  rintro name supertype ⟨declaration, member, named⟩
  exact ⟨declaration, grows.subset member, named⟩

/-- No chain that begins at a declared name uses a later declaration. -/
theorem chain_of_declared {newer older : List Declaration} (layered : Layered (newer ++ older))
    (known : name ∈ older.map (·.name))
    (chain : ReflTransGen (Direct (newer ++ older)) name other) :
    ReflTransGen (Direct older) name other := by
  induction newer with
  | nil => exact chain
  | cons newest newer ih =>
    rcases chain_cases layered chain with before | ⟨rfl, _⟩
    · exact ih layered.2.2 before
    · have repeated : newest.name ∈ (newer ++ older).map (·.name) := by
        rw [List.map_append]
        exact List.mem_append_right _ known
      exact absurd repeated layered.1

theorem GrowsTo.derives_iff (grows : types.GrowsTo grown) (known : name ∈ types.names) :
    grown.Derives name other ↔ types.Derives name other := by
  refine ⟨?_, grows.derives⟩
  obtain ⟨newer, shape⟩ := grows
  have layered := grown.layered
  rw [Derives, ← shape]
  rw [← shape] at layered
  exact chain_of_declared layered known

theorem GrowsTo.family_sublist (grows : types.GrowsTo grown) (name : String) :
    (types.family name).Sublist (grown.family name) := by
  obtain ⟨names, family, descendants⟩ := types.exists_descendants name
  obtain ⟨grownNames, grownFamily, grownDescendants⟩ := grown.exists_descendants name
  have included : names ⊆ grownNames := by
    intro other member
    obtain ⟨different, derived⟩ := (descendants.mem_iff other).mp member
    refine (grownDescendants.mem_iff other).mpr ⟨different, ?_⟩
    exact TypeHierarchy.derives_iff.mpr (grows.derives (TypeHierarchy.derives_iff.mp derived))
  have antisymm : Std.Antisymm fun left right : String => left < right :=
    ⟨fun _ _ up down => absurd down (String.lt_asymm up)⟩
  rw [family, grownFamily]
  apply List.Sublist.cons_cons
  exact List.sublist_of_subperm_of_pairwise
    (List.subperm_of_subset descendants.nodup.of_cons included)
    descendants.ascending grownDescendants.ascending

end EventStore.TypeHierarchy

namespace EventStore.Selector

variable {types grown : TypeHierarchy}

theorem covers_mono {wide narrow : Selector} (grows : types.GrowsTo grown)
    (covered : wide.covers types narrow = true) : wide.covers grown narrow = true := by
  rw [covers, Bool.or_eq_true, Bool.and_eq_true] at covered ⊢
  refine covered.imp_right (And.imp_right ?_)
  intro events
  rw [coversEvents_iff] at events ⊢
  refine events.imp_right (And.imp_right ?_)
  intro each candidate asked
  obtain ⟨event, inside, derived⟩ := each candidate asked
  exact ⟨event, inside, grows.derives derived⟩

theorem admits_mono {selector : Selector} {stream type : String} {categories : List String}
    (grows : types.GrowsTo grown) (admitted : selector.admits types stream categories type = true) :
    selector.admits grown stream categories type = true := by
  rw [admits_iff, Admits] at admitted ⊢
  refine admitted.imp_right (And.imp_right (And.imp_right (Or.imp_right ?_)))
  rintro ⟨event, inside, derived⟩
  exact ⟨event, inside, grows.derives derived⟩

end EventStore.Selector

namespace EventStore.Proofs.TypeGrowth
open TypeHierarchy

/-- Registering further types takes nothing back. What a registered type derives from stays as it
is, a name never ceases to derive from another, and families keep their members in their order. So
selectors cover and admit what they did before, and no store drops out of those concerned with a
selector and no record out of those selected. -/
theorem answers_survive_growth (calls more : List Declaration) :
    let types := afterCalls calls
    let grown := afterCalls (calls ++ more)
    (∀ name other, types.declares name = true →
      grown.derives name other = types.derives name other) ∧
    (∀ name other, types.derives name other = true → grown.derives name other = true) ∧
    (∀ name, (types.family name).Sublist (grown.family name)) ∧
    (∀ wide narrow : Selector, wide.covers types narrow = true → wide.covers grown narrow = true) ∧
    (∀ (selector : Selector) (record : Record), Memory.selects types selector record = true →
      Memory.selects grown selector record = true) ∧
    (∀ (pool : Pool) (selector : Selector),
      (pool.concerned types selector).Sublist (pool.concerned grown selector)) ∧
    ∀ (memory : Memory) (selector : Selector),
      (memory.select types selector).Sublist (memory.select grown selector) := by
  intro types grown
  have grows : types.GrowsTo grown := growsTo_afterCalls calls more
  have selects (selector : Selector) (record : Record) :
      Memory.selects types selector record = true → Memory.selects grown selector record = true :=
    Selector.admits_mono grows
  refine ⟨?_, ?_, grows.family_sublist, fun wide narrow => Selector.covers_mono grows, selects,
    ?_, ?_⟩
  · intro name other known
    have declared : name ∈ types.names := by simpa [declares] using known
    rw [Bool.eq_iff_iff, derives_iff, derives_iff, grows.derives_iff declared]
  · intro name other derived
    rw [derives_iff] at derived ⊢
    exact grows.derives derived
  · intro pool selector
    apply List.Sublist.map
    exact List.monotone_filter_right _ fun enrolment => Selector.covers_mono grows
  · intro memory selector
    exact List.monotone_filter_right _ (selects selector)

/-- One of the further calls is refused, and the other registers a name that was a mere text. -/
theorem answers_survive_growth_late :
    let calls : List Declaration := [⟨"Event", []⟩, ⟨"Placed", ["Event"]⟩]
    let more : List Declaration := [⟨"Placed", []⟩, ⟨"Late", ["Placed"]⟩]
    let types := afterCalls calls
    let grown := afterCalls (calls ++ more)
    let wide : Selector := { events := ["Event"] }
    let narrow : Selector := { events := ["Placed", "Event"] }
    let record : Record := { stream := "shop", id := "e", name := "Placed", date := "" }
    (types.declares "Placed" = true ∧ grown.derives "Placed" "Late" = false) ∧
      (types.derives "Late" "Event" = false ∧ grown.derives "Late" "Event" = true) ∧
      (types.derives "Placed" "Event" = true ∧ grown.derives "Placed" "Event" = true) ∧
      (wide.covers types narrow = true ∧ wide.covers grown narrow = true) ∧
      Memory.selects types wide record = true ∧ Memory.selects grown wide record = true := by
  intro calls more types grown wide narrow record
  obtain ⟨kept, derived, _, covered, selected, _⟩ := answers_survive_growth calls more
  have known : types.declares "Placed" = true := by decide +kernel
  have below : types.derives "Placed" "Event" = true := by decide +kernel
  have covers : wide.covers types narrow = true := by decide +kernel
  have selects : Memory.selects types wide record = true := by decide +kernel
  have apart : types.derives "Placed" "Late" = false := by decide +kernel
  exact ⟨⟨known, (kept "Placed" "Late" known).trans apart⟩, ⟨by decide +kernel, by decide +kernel⟩,
    ⟨below, derived _ _ below⟩, ⟨covers, covered _ _ covers⟩, selects, selected _ _ selects⟩

end EventStore.Proofs.TypeGrowth
