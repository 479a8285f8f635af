import EventStore.Proofs.DocumentOverlay
import Mathlib.Data.List.Forall2
import Mathlib.Data.List.Induction

/-! Which of several trees laid over each other decides a setting. A value comes from the last tree
that settles its path, and what lower trees hold at or below that path is never seen. -/

namespace EventStore.Document

def overlays (trees : List Document) : Document := trees.foldl overlay (.mapping [])

def Apart (path other : List String) : Prop := ¬ other <+: path ∧ ¬ path <+: other

/-- The trees differ at most at a path and below it, and in the mappings that lead there. -/
structure AlikeBeside (path : List String) (first second : Document) : Prop where
  above : ∀ other, other <+: path → other ≠ path → ∀ value,
    holding other first = .value value ↔ holding other second = .value value
  beside : ∀ other, Apart path other → holding other first = holding other second

variable {first second layer value : Document} {path other : List String} {name : String}
  {trees earlier otherEarlier : List Document}

theorem overlays_concat (trees : List Document) (tree : Document) :
    overlays (trees ++ [tree]) = overlay (overlays trees) tree := List.foldl_concat ..

theorem tidy_overlays (tidy : ∀ tree ∈ trees, Tidy tree) : Tidy (overlays trees) := by
  induction trees using List.reverseRecOn with
  | nil => exact tidy_of_entries rfl
  | append_singleton trees tree ih =>
    rw [overlays_concat]
    apply tidy_overlay
    · exact ih fun lower member => tidy lower (List.mem_append_left _ member)
    · exact tidy tree List.mem_concat_self

theorem mentions_overlays (mentioned : mentions path (overlays trees) = true)
    (below : path ≠ []) : ∃ tree ∈ trees, mentions path tree = true := by
  induction trees using List.reverseRecOn with
  | nil =>
    cases path with
    | nil => exact absurd rfl below
    | cons name path => cases mentioned
  | append_singleton trees tree ih =>
    rw [overlays_concat] at mentioned
    rcases mentions_overlay _ _ mentioned with lower | here
    · obtain ⟨tree, member, found⟩ := ih lower
      exact ⟨tree, List.mem_append_left _ member, found⟩
    · exact ⟨tree, List.mem_concat_self, here⟩

/-- The last tree to tell something about a setting is either the one on top or one below it. -/
theorem exists_last_concat_iff {tells silent : Document → Prop} (tree : Document) :
    (∃ earlier layer later, trees ++ [tree] = earlier ++ layer :: later ∧
        tells layer ∧ ∀ other ∈ later, silent other) ↔
      tells tree ∨ silent tree ∧ ∃ earlier layer later, trees = earlier ++ layer :: later ∧
        tells layer ∧ ∀ other ∈ later, silent other := by
  constructor
  · rintro ⟨earlier, layer, later, order, told, quiet⟩
    rcases List.eq_nil_or_concat later with rfl | ⟨later, last, rfl⟩
    · obtain ⟨-, rfl⟩ := List.append_singleton_inj.mp order
      exact .inl told
    · rw [List.concat_eq_append] at order quiet
      rw [← List.cons_append, ← List.append_assoc] at order
      obtain ⟨lower, rfl⟩ := List.append_singleton_inj.mp order
      exact .inr ⟨quiet tree List.mem_concat_self, earlier, layer, later, lower, told,
        fun other member => quiet other (List.mem_append_left _ member)⟩
  · rintro (told | ⟨quiet, earlier, layer, later, rfl, told, rest⟩)
    · exact ⟨trees, tree, [], rfl, told, nofun⟩
    · refine ⟨earlier, layer, later ++ [tree], ?_, told, ?_⟩
      · rw [List.append_assoc, List.cons_append]
      · intro other member
        rcases List.mem_append.mp member with member | member
        · exact rest other member
        · exact List.mem_singleton.mp member ▸ quiet

theorem holding_overlays_eq_value_iff : holding path (overlays trees) = .value value ↔
    ∃ earlier layer later, trees = earlier ++ layer :: later ∧
      holding path layer = .value value ∧ ∀ tree ∈ later, settles path tree = false := by
  induction trees using List.reverseRecOn with
  | nil =>
    refine iff_of_false ?_ ?_
    · cases path <;> nofun
    · rintro ⟨earlier, layer, later, order, -⟩
      exact List.append_ne_nil_of_right_ne_nil earlier (List.cons_ne_nil layer later) order.symm
  | append_singleton trees tree ih =>
    rw [overlays_concat, holding_overlay, exists_last_concat_iff, ← ih]
    cases settled : settles path tree with
    | true => simp
    | false =>
      have noValue : holding path tree ≠ .value value := by
        intro held
        rw [settles_of_comparable held (.inl List.prefix_rfl)] at settled
        cases settled
      cases holding path (overlays trees) <;> simp [noValue, Holding.orElse]

theorem Apart.symm (apart : Apart path other) : Apart other path := ⟨apart.2, apart.1⟩

theorem Apart.below (apart : Apart path other) (name : String) :
    Apart path (other ++ [name]) := by
  constructor
  · intro start
    exact apart.1 ((List.prefix_append other [name]).trans start)
  · intro start
    rcases List.prefix_concat_iff.mp start with same | start
    · exact apart.1 (same ▸ List.prefix_append other [name])
    · exact apart.2 start

theorem AlikeBeside.refl (path : List String) (tree : Document) : AlikeBeside path tree tree :=
  ⟨fun _ _ _ _ => Iff.rfl, fun _ _ => rfl⟩

theorem AlikeBeside.symm (alike : AlikeBeside path first second) :
    AlikeBeside path second first where
  above other start short value := (alike.above other start short value).symm
  beside other apart := (alike.beside other apart).symm

theorem AlikeBeside.settles_of_settles (alike : AlikeBeside path first second)
    (apart : Apart path other) (settled : settles other first = true) :
    settles other second = true := by
  rcases settles_iff.mp settled with ⟨above, value, start, held⟩ | ⟨name, held⟩
  · refine settles_iff.mpr (.inl ⟨above, value, start, ?_⟩)
    have far : ¬ path <+: above := fun reached => apart.2 (reached.trans start)
    by_cases near : above <+: path
    · have short : above ≠ path := fun same => far (same ▸ List.prefix_rfl)
      exact (alike.above above near short value).mp held
    · rw [← alike.beside above ⟨near, far⟩, held]
  · refine settles_iff.mpr (.inr ⟨name, ?_⟩)
    rwa [← alike.beside _ (apart.below name)]

theorem AlikeBeside.settles_eq (alike : AlikeBeside path first second)
    (apart : Apart path other) : settles other first = settles other second :=
  Bool.eq_iff_iff.mpr ⟨alike.settles_of_settles apart, alike.symm.settles_of_settles apart⟩

/-- Overlaying such trees keeps what is held apart from the path, whatever is on the way to it. -/
theorem holding_overlays_apart (alike : List.Forall₂ (AlikeBeside path) earlier otherEarlier)
    (apart : Apart path other) :
    holding other (overlays earlier) = holding other (overlays otherEarlier) := by
  have folded : ∀ first second, holding other first = holding other second →
      holding other (earlier.foldl overlay first) =
        holding other (otherEarlier.foldl overlay second) := by
    induction alike with
    | nil => exact fun first second same => same
    | cons head tail ih =>
      intro first second same
      apply ih
      rw [holding_overlay, holding_overlay, head.settles_eq apart, head.beside other apart, same]
  exact folded _ _ rfl

theorem holding_foldl_congr (later : List Document)
    (same : ∀ path, holding path first = holding path second) (path : List String) :
    holding path (later.foldl overlay first) = holding path (later.foldl overlay second) := by
  induction later generalizing first second with
  | nil => exact same path
  | cons tree later ih =>
    apply ih
    intro path
    rw [holding_overlay, holding_overlay, same]

/-- What lower trees hold at or below a path where a tree has a value is never seen. -/
theorem holding_overlays_congr (held : holding path layer = .value value)
    (alike : List.Forall₂ (AlikeBeside path) earlier otherEarlier) (later : List Document)
    (other : List String) : holding other (overlays (earlier ++ layer :: later)) =
      holding other (overlays (otherEarlier ++ layer :: later)) := by
  rw [overlays, overlays, List.foldl_append, List.foldl_append]
  apply holding_foldl_congr later
  intro other
  rw [holding_overlay, holding_overlay]
  by_cases near : other <+: path ∨ path <+: other
  · rw [settles_of_comparable held near]
    rfl
  · have apart : Apart path other := not_or.mp near
    have lower : holding other (overlays earlier) = holding other (overlays otherEarlier) :=
      holding_overlays_apart alike apart
    rw [overlays, overlays] at lower
    rw [lower]

end EventStore.Document
