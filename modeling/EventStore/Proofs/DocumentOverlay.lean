import EventStore.Proofs.DocumentPaths

/-! Settings trees laid over each other, each path by itself. At a path the later tree settles what
the two of them hold, unless it has nothing to say there or only an empty mapping. -/

namespace EventStore.Document

mutual
/-- A later tree over an earlier one. Mappings are merged name by name and everything else
replaces what was there, except that an empty mapping has nothing to replace it with. -/
def overlay : Document → Document → Document
  | .mapping entries, .mapping incoming =>
    .mapping (overlayEntries entries incoming ++
      incoming.filter fun entry => (entries.lookup entry.1).isNone)
  | earlier, .mapping [] => earlier
  | _, later => later

/-- The entries of the earlier mapping, those under the names of the later one merged with it. -/
def overlayEntries :
    List (String × Document) → List (String × Document) → List (String × Document)
  | [], _ => []
  | (name, kept) :: entries, incoming =>
    (name, (incoming.lookup name).elim kept (overlay kept)) :: overlayEntries entries incoming
end

/-- Whether a tree settles what is held at a path, by a value there or on the way to it or by a
mapping there that is not empty. -/
def settles : List String → Document → Bool
  | _, .mapping [] => false
  | [], _ => true
  | name :: path, .mapping entries => (entries.lookup name).elim false (settles path)
  | _ :: _, _ => true

/-- Whether a tree has something at a path, or a value on the way to it. -/
def mentions : List String → Document → Bool
  | [], _ => true
  | name :: path, .mapping entries => (entries.lookup name).elim false (mentions path)
  | _ :: _, _ => true

variable {tree earlier later value : Document} {name : String} {path other : List String}

theorem lookup_overlayEntries (entries incoming : List (String × Document)) :
    (overlayEntries entries incoming).lookup name =
      (entries.lookup name).map fun kept =>
        (incoming.lookup name).elim kept (overlay kept) := by
  induction entries with
  | nil => rfl
  | cons entry entries ih =>
    obtain ⟨first, kept⟩ := entry
    rw [overlayEntries, lookup_cons, lookup_cons, ih]
    split
    next here => rw [here, Option.map_some]
    next => rfl

theorem names_overlayEntries (entries incoming : List (String × Document)) :
    (overlayEntries entries incoming).map (·.1) = entries.map (·.1) := by
  induction entries with
  | nil => rfl
  | cons entry entries ih =>
    obtain ⟨first, kept⟩ := entry
    rw [overlayEntries, List.map_cons, List.map_cons, ih]

theorem lookup_overlay (earlier : Document) (incoming : List (String × Document)) :
    (overlay earlier (.mapping incoming)).entries.lookup name =
      Option.merge overlay (earlier.entries.lookup name) (incoming.lookup name) := by
  cases earlier with
  | mapping entries =>
    rw [overlay]
    simp only [Document.entries]
    rw [List.lookup_append, lookup_overlayEntries, lookup_filter_missing]
    cases entries.lookup name <;> cases incoming.lookup name <;> rfl
  | _ => cases incoming <;> simp [overlay, Document.entries]

theorem overlay_empty (earlier : Document) : overlay earlier (.mapping []) = earlier := by
  cases earlier with
  | mapping entries =>
    have kept : overlayEntries entries [] = entries := by
      induction entries with
      | nil => rfl
      | cons entry entries ih => rw [overlayEntries, ih]; rfl
    rw [overlay, kept, List.filter_nil, List.append_nil]
  | _ => rfl

theorem overlay_value (earlier : Document) (held : holding [] later = .value value) :
    overlay earlier later = later := by
  cases later with
  | mapping entries => cases held
  | _ => cases earlier <;> rfl

theorem settles_of_value (held : holding [] later = .value value) (path : List String) :
    settles path later = true := by
  cases later with
  | mapping entries => cases held
  | _ => cases path <;> rfl

theorem settles_mapping (name : String) (path : List String)
    (entries : List (String × Document)) :
    settles (name :: path) (.mapping entries) =
      (entries.lookup name).elim false (settles path) := by
  cases entries <;> rfl

/-- The law of overlaying. -/
theorem holding_overlay (path : List String) (earlier later : Document) :
    holding path (overlay earlier later) =
      if settles path later then holding path later
      else (holding path earlier).orElse (holding path later) := by
  induction path generalizing earlier later with
  | nil =>
    cases later with
    | mapping incoming =>
      cases incoming with
      | nil =>
        rw [overlay_empty]
        cases earlier <;> rfl
      | cons entry incoming => cases earlier <;> rfl
    | _ => rw [overlay_value earlier rfl]; rfl
  | cons name path ih =>
    cases later with
    | mapping incoming =>
      rw [holding, holding, holding, lookup_overlay, settles_mapping, Document.entries]
      cases earlier.entries.lookup name with
      | none =>
        cases incoming.lookup name with
        | none => rfl
        | some value => exact (ite_self _).symm
      | some kept =>
        cases incoming.lookup name with
        | none => exact (Holding.orElse_nothing _).symm
        | some value => exact ih kept value
    | _ => rw [overlay_value earlier rfl]; rfl

theorem value_above_mapping (entries : List (String × Document)) :
    (∃ above value, above <+: name :: path ∧ holding above (.mapping entries) = .value value) ↔
      ∃ above value, above <+: path ∧
        holding (name :: above) (.mapping entries) = .value value := by
  constructor
  · rintro ⟨above, value, start, held⟩
    cases above with
    | nil => cases held
    | cons head above =>
      obtain ⟨rfl, inner⟩ := List.cons_prefix_cons.mp start
      exact ⟨above, value, inner, held⟩
  · rintro ⟨above, value, start, held⟩
    exact ⟨name :: above, value, (List.prefix_cons_inj name).mpr start, held⟩

theorem settles_iff : settles path tree = true ↔
    (∃ above value, above <+: path ∧ holding above tree = .value value) ∨
      ∃ name, holding (path ++ [name]) tree ≠ .nothing := by
  induction path generalizing tree with
  | nil =>
    cases tree with
    | mapping entries =>
      cases entries with
      | nil =>
        refine iff_of_false nofun ?_
        rintro (⟨above, value, start, held⟩ | ⟨name, held⟩)
        · rw [List.prefix_nil.mp start] at held
          cases held
        · exact held rfl
      | cons entry entries =>
        refine iff_of_true rfl (.inr ⟨entry.1, ?_⟩)
        rw [List.nil_append, holding, Document.entries, List.lookup_cons_self]
        exact holding_root_ne_nothing entry.2
    | _ => exact iff_of_true rfl (.inl ⟨[], _, List.nil_prefix, rfl⟩)
  | cons first path ih =>
    cases tree with
    | mapping entries =>
      rw [settles_mapping, value_above_mapping]
      simp only [List.cons_append, holding, Document.entries]
      cases entries.lookup first with
      | none => simp
      | some inner => exact ih
    | _ => exact iff_of_true rfl (.inl ⟨[], _, List.nil_prefix, rfl⟩)

/-- A tree that holds a value at a path settles everything there, below and on the way. -/
theorem settles_of_comparable (held : holding path tree = .value value)
    (near : other <+: path ∨ path <+: other) : settles other tree = true := by
  induction path generalizing tree other with
  | nil => exact settles_of_value held other
  | cons first path ih =>
    cases tree with
    | mapping entries =>
      rw [holding, Document.entries] at held
      cases inside : entries.lookup first with
      | none => simp [inside] at held
      | some inner =>
        rw [inside] at held
        cases other with
        | nil =>
          cases entries with
          | nil => cases inside
          | cons entry entries => rfl
        | cons head other =>
          rw [List.cons_prefix_cons, List.cons_prefix_cons] at near
          have same : head = first := near.elim (·.1) (·.1.symm)
          rw [settles_mapping, same, inside]
          exact ih held (near.imp (·.2) (·.2))
    | _ => cases other <;> rfl

theorem settles_of_child (settled : settles (path ++ [name]) tree = true) :
    settles path tree = true := by
  apply settles_iff.mpr
  rcases settles_iff.mp settled with ⟨above, value, start, held⟩ | ⟨inner, held⟩
  · rcases List.prefix_concat_iff.mp start with rfl | start
    · exact .inr ⟨name, by rw [held]; nofun⟩
    · exact .inl ⟨above, value, start, held⟩
  · exact .inr ⟨name, holding_ne_nothing_of_append _ _ held⟩

theorem settles_overlay_of_later (earlier : Document) (settled : settles path later = true) :
    settles path (overlay earlier later) = true := by
  apply settles_iff.mpr
  rcases settles_iff.mp settled with ⟨above, value, start, held⟩ | ⟨inner, held⟩
  · refine .inl ⟨above, value, start, ?_⟩
    rw [holding_overlay, settles_of_comparable held (.inl List.prefix_rfl), if_pos rfl, held]
  · refine .inr ⟨inner, ?_⟩
    rw [holding_overlay]
    split
    · exact held
    · cases holding (path ++ [inner]) earlier with
      | nothing => exact held
      | _ => nofun

theorem settles_overlay (settled : settles path (overlay earlier later) = true) :
    settles path earlier = true ∨ settles path later = true := by
  by_cases top : settles path later = true
  · exact .inr top
  · refine .inl (settles_iff.mpr ?_)
    rcases settles_iff.mp settled with ⟨above, value, start, held⟩ | ⟨inner, held⟩
    · have absent (value : Document) : holding above later ≠ .value value :=
        fun found => top (settles_of_comparable found (.inr start))
      refine .inl ⟨above, value, start, ?_⟩
      rw [holding_overlay] at held
      split at held
      · exact absurd held (absent value)
      · cases lower : holding above earlier with
        | nothing => exact absurd (by rwa [lower] at held) (absent value)
        | _ => rwa [lower] at held
    · have absent : holding (path ++ [inner]) later = .nothing := by
        by_contra found
        exact top (settles_iff.mpr (.inr ⟨inner, found⟩))
      refine .inr ⟨inner, ?_⟩
      rwa [holding_overlay, if_neg (fun child => top (settles_of_child child)), absent,
        Holding.orElse_nothing] at held

/-- Overlaying is associative where the last tree unsettles nothing. -/
theorem holding_overlay_assoc (first second third : Document)
    (kept : ∀ path, settles path second = true → settles path (overlay second third) = true)
    (path : List String) : holding path (overlay (overlay first second) third) =
      holding path (overlay first (overlay second third)) := by
  have together : settles path (overlay second third) =
      (settles path second || settles path third) := by
    rw [Bool.eq_iff_iff, Bool.or_eq_true]
    exact ⟨settles_overlay, fun either =>
      either.elim (kept path) (settles_overlay_of_later second)⟩
  simp only [holding_overlay, together]
  cases settles path second <;> cases settles path third <;> simp [Holding.orElse_assoc]

theorem mentions_overlay (earlier later : Document)
    (mentioned : mentions path (overlay earlier later) = true) :
    mentions path earlier = true ∨ mentions path later = true := by
  induction path generalizing earlier later with
  | nil => exact .inl rfl
  | cons name path ih =>
    cases later with
    | mapping incoming =>
      cases earlier with
      | mapping entries =>
        have merged : (overlay (.mapping entries) (.mapping incoming)).entries.lookup name =
            Option.merge overlay (entries.lookup name) (incoming.lookup name) :=
          lookup_overlay (.mapping entries) incoming
        simp only [overlay, mentions, Document.entries] at merged mentioned ⊢
        rw [merged] at mentioned
        cases kept : entries.lookup name with
        | none => exact .inr (by simpa [kept] using mentioned)
        | some inner =>
          cases held : incoming.lookup name with
          | none => exact .inl (by simpa [kept, held] using mentioned)
          | some value =>
            simp only [kept, held, Option.merge_some_some, Option.elim_some] at mentioned
            exact ih inner value mentioned
      | _ => exact .inl rfl
    | _ => exact .inr rfl

theorem tidy_overlay (earlier later : Document) (first : Tidy earlier) (second : Tidy later) :
    Tidy (overlay earlier later) := by
  intro path
  induction path generalizing earlier later with
  | nil =>
    cases later with
    | mapping incoming =>
      cases earlier with
      | mapping entries =>
        rw [overlay, namesAt, Document.entries, List.map_append, names_overlayEntries]
        -- Names are added behind those of the lower tree, and only where they are missing there.
        have new : ((incoming.filter fun entry => (entries.lookup entry.1).isNone).map
            (·.1)).Sublist (incoming.map (·.1)) := List.filter_sublist.map _
        apply first.root.append (second.root.sublist new)
        intro name known missing
        obtain ⟨entry, member, rfl⟩ := List.mem_map.mp missing
        exact isNone_lookup_iff.mp (List.mem_filter.mp member).2 known
      | _ =>
        cases incoming with
        | nil => exact List.nodup_nil
        | cons entry incoming => exact second.root
    | _ => rw [overlay_value earlier rfl]; exact second.root
  | cons name path ih =>
    cases later with
    | mapping incoming =>
      rw [namesAt, lookup_overlay]
      cases kept : earlier.entries.lookup name with
      | none =>
        cases held : incoming.lookup name with
        | none => exact List.nodup_nil
        | some value => exact second.child held path
      | some inner =>
        cases held : incoming.lookup name with
        | none => exact first.child kept path
        | some value => exact ih inner value (first.child kept) (second.child held)
    | _ => rw [overlay_value earlier rfl]; exact second _

end EventStore.Document
