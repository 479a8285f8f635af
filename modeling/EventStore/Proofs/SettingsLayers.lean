import EventStore.Proofs.SettingsReading
import EventStore.Proofs.VariableTrees

/-! Settings from several sources. Loading reads the trees of the sources laid over each other, so
what a source overrides in the ones before it has no influence on the outcome. -/

namespace EventStore
open Document

namespace Sources

/-- What the sources hold, a tree for each: three files with plain names, in the order in which
they override each other, and over them the variables. -/
def Layered (sources : Sources) (trees : List Document) : Prop :=
  ∃ working chosen environment,
    sources.layers = some [working, chosen, environment, variableLayer sources.bindings] ∧
    (∀ file ∈ [working, chosen, environment], isPlain (.mapping file) = true) ∧
    Coherent (assignments sources.bindings) ∧
    trees = [lowered (.mapping working), lowered (.mapping chosen),
      lowered (.mapping environment), variableTree sources.bindings]

end Sources

namespace Settings

def ofTree (tree : Document) : Except SettingsFault Settings :=
  match Convention.lenient.settings tree with
  | none => .error .load
  | some settings => do
    settings.checkNames
    return settings

/-- What none of the trees mentions has its default, for all stores and for a store by itself. -/
structure Defaulted (trees : List Document) (settings : Settings) : Prop where
  storage : ∀ setting : StorageSetting,
    (∀ tree ∈ trees, mentions ("storage" :: setting.path) tree = false) →
      setting.Agrees settings.storage {}
  stores : (∀ tree ∈ trees, mentions ["stores"] tree = false) →
    settings.stores = ({} : Settings).stores
  own : ∀ items, holding ["stores"] (overlays trees) = .value (.list items) →
    List.Forall₂ (fun item entry => Convention.lenient.entry item = some entry ∧
      ∀ (setting : StorageSetting) own, entry.storage = some own →
        mentions ("storage" :: setting.path) item = false → setting.Agrees own {})
      items settings.stores

variable {sources : Sources} {trees : List Document} {tree : Document}
  {settings : Settings} {name : String}

theorem ofTree_congr {other : Document} (twin : Twin tree other) : ofTree tree = ofTree other := by
  rw [ofTree, Convention.respects_settings tree other twin, ← ofTree]

theorem load_eq_ofTree (layered : sources.Layered trees) :
    load sources = ofTree (overlays trees) := by
  obtain ⟨working, chosen, environment, layers, plain, coherent, rfl⟩ := layered
  have bottom : Twin (.mapping []) (.mapping []) :=
    ⟨fun _ => rfl, tidy_of_entries rfl, tidy_of_entries rfl⟩
  have files := ((bottom.mergeLayer (plain working (by simp))).mergeLayer
    (plain chosen (by simp))).mergeLayer (plain environment (by simp))
  rw [load, layers]
  exact ofTree_congr (Sources.twin_variables coherent files)

theorem ofTree_eq_ok_iff : ofTree tree = .ok settings ↔
    Convention.lenient.settings tree = some settings ∧ (storeNames settings.stores).Nodup := by
  rw [ofTree]
  cases Convention.lenient.settings tree with
  | none => simp
  | some found =>
    simp only [Option.some.injEq, ← checkNames_eq_ok_iff]
    cases check : found.checkNames with
    | error fault =>
      refine iff_of_false nofun ?_
      rintro ⟨rfl, passed⟩
      cases check.symm.trans passed
    | ok done =>
      simp only [bind, Except.bind, pure, Except.pure, Except.ok.injEq]
      exact ⟨fun same => ⟨same, same ▸ check⟩, And.left⟩

theorem ofTree_eq_duplicateStore_iff : ofTree tree = .error (.duplicateStore name) ↔
    ∃ settings, Convention.lenient.settings tree = some settings ∧
      Repeats settings.stores name := by
  rw [ofTree]
  cases Convention.lenient.settings tree with
  | none => simp
  | some settings =>
    simp only [Option.some.injEq, exists_eq_left', ← checkNames_eq_error_iff]
    cases settings.checkNames <;> simp [bind, Except.bind, pure, Except.pure]

theorem defaulted (read : Convention.lenient.settings (overlays trees) = some settings) :
    Defaulted trees settings := by
  have unmentioned {name : String} {path : List String}
      (silent : ∀ tree ∈ trees, mentions (name :: path) tree = false) :
      mentions (name :: path) (overlays trees) = false := by
    by_contra mentioned
    obtain ⟨tree, member, found⟩ := mentions_overlays
      (eq_true_of_ne_false mentioned) (List.cons_ne_nil name path)
    rw [silent tree member] at found
    cases found
  refine ⟨?_, ?_, ?_⟩
  · intro setting silent
    exact Convention.settings_storage_default setting read (unmentioned silent)
  · intro silent
    exact Convention.settings_stores_default read (unmentioned silent)
  · intro items held
    apply (Convention.settings_stores_of_list read held).imp
    intro item entry given
    exact ⟨given, fun setting own stored silent =>
      Convention.entry_storage_default setting given stored silent⟩

theorem ofTree_overlays_congr {path : List String} {layer value : Document}
    {earlier otherEarlier : List Document} (later : List Document)
    (tidy : ∀ tree ∈ earlier ++ layer :: later, Tidy tree)
    (otherTidy : ∀ tree ∈ otherEarlier ++ layer :: later, Tidy tree)
    (held : holding path layer = .value value)
    (alike : List.Forall₂ (AlikeBeside path) earlier otherEarlier) :
    ofTree (overlays (earlier ++ layer :: later)) =
      ofTree (overlays (otherEarlier ++ layer :: later)) := by
  apply ofTree_congr
  exact ⟨holding_overlays_congr held alike later, tidy_overlays tidy, tidy_overlays otherTidy⟩

theorem tidy_of_layered (layered : sources.Layered trees) : ∀ tree ∈ trees, Tidy tree := by
  obtain ⟨working, chosen, environment, -, plain, coherent, rfl⟩ := layered
  intro tree member
  simp only [List.mem_cons, List.not_mem_nil, or_false] at member
  rcases member with rfl | rfl | rfl | rfl
  · exact tidy_lowered (plain working (by simp))
  · exact tidy_lowered (plain chosen (by simp))
  · exact tidy_lowered (plain environment (by simp))
  · exact Sources.tidy_variableTree coherent

/-- Loading reads the four trees laid over each other. A value in the result comes whole from the
last source that settles its path, and changing what earlier ones have at or below that path
leaves the outcome as it is. What no source mentions has its default, and a store is reported as a
duplicate exactly if the result can be read and repeats its name. -/
theorem later_sources_override (layered : sources.Layered trees) :
    load sources = ofTree (overlays trees) ∧
    (∀ path value, holding path (overlays trees) = .value value ↔
      ∃ earlier layer later, trees = earlier ++ layer :: later ∧
        holding path layer = .value value ∧ ∀ tree ∈ later, settles path tree = false) ∧
    (∀ (other : Sources) otherTrees path value earlier otherEarlier layer later,
      other.Layered otherTrees → trees = earlier ++ layer :: later →
      otherTrees = otherEarlier ++ layer :: later → holding path layer = .value value →
      List.Forall₂ (AlikeBeside path) earlier otherEarlier → load other = load sources) ∧
    (∀ settings, load sources = .ok settings → Defaulted trees settings) ∧
    (∀ name, load sources = .error (.duplicateStore name) ↔
      ∃ settings, Convention.lenient.settings (overlays trees) = some settings ∧
        Repeats settings.stores name) := by
  have loaded : load sources = ofTree (overlays trees) := load_eq_ofTree layered
  refine ⟨loaded, fun path value => holding_overlays_eq_value_iff, ?_, ?_, ?_⟩
  · intro other otherTrees path value earlier otherEarlier layer later otherLayered order
      otherOrder held alike
    have tidy := tidy_of_layered layered
    have otherTidy := tidy_of_layered otherLayered
    rw [loaded, load_eq_ofTree otherLayered]
    subst order otherOrder
    exact (ofTree_overlays_congr later tidy otherTidy held alike).symm
  · intro settings read
    exact defaulted (ofTree_eq_ok_iff.mp (loaded ▸ read)).1
  · intro name
    rw [loaded]
    exact ofTree_eq_duplicateStore_iff

/-- A variable that chooses the backend hides the choice that the working directory makes. -/
theorem later_sources_override_working_directory :
    Sources.Layered { working := some "storage:\n  type: memory\n"
                      bindings := [("TIDEMARK__STORAGE__TYPE", "null")] }
      [nest ["storage", "type"] (.text "memory"), .mapping [], .mapping [],
        nest ["storage", "type"] (.text "null")] ∧
    load { working := some "storage:\n  type: memory\n"
           bindings := [("TIDEMARK__STORAGE__TYPE", "null")] } =
      .ok { storage := { kind := .null } } ∧
    load { bindings := [("TIDEMARK__STORAGE__TYPE", "null")] } =
      load { working := some "storage:\n  type: memory\n"
             bindings := [("TIDEMARK__STORAGE__TYPE", "null")] } := by
  have coherent : Sources.Coherent
      (Sources.assignments [("TIDEMARK__STORAGE__TYPE", "null")]) := by
    have single : Sources.assignments [("TIDEMARK__STORAGE__TYPE", "null")] =
        [⟨["storage", "type"], .text "null"⟩] := by decide +kernel
    rw [single]
    exact ⟨by decide, List.pairwise_singleton _ _⟩
  have layered : Sources.Layered
      { working := some "storage:\n  type: memory\n"
        bindings := [("TIDEMARK__STORAGE__TYPE", "null")] }
      [nest ["storage", "type"] (.text "memory"), .mapping [], .mapping [],
        nest ["storage", "type"] (.text "null")] :=
    ⟨[("storage", .mapping [("type", .text "memory")])], [], [], by decide +kernel, by decide, coherent,
      by decide +kernel⟩
  have other : Sources.Layered { bindings := [("TIDEMARK__STORAGE__TYPE", "null")] }
      [.mapping [], .mapping [], .mapping [], nest ["storage", "type"] (.text "null")] :=
    ⟨[], [], [], by decide +kernel, by decide, coherent, by decide +kernel⟩
  obtain ⟨read, -, hidden, -⟩ := later_sources_override layered
  refine ⟨layered, read.trans (by decide +kernel), ?_⟩
  apply hidden _ _ ["storage", "type"] (.text "null")
    [nest ["storage", "type"] (.text "memory"), .mapping [], .mapping []]
    [.mapping [], .mapping [], .mapping []] (nest ["storage", "type"] (.text "null")) []
    other rfl rfl rfl
  exact .cons (alikeBeside_nest _ rfl) (.cons (.refl _ _) (.cons (.refl _ _) .nil))

/-- An empty mapping does not replace the value that an earlier file has in its place, although the
default would be read where there is nothing else. -/
theorem empty_mapping_replaces_nothing :
    Sources.layers { working := some "storage: memory\n"
                     chosen := .present "storage: \x7b\x7d\n" } =
      some [[("storage", .text "memory")], [("storage", .mapping [])], [], []] ∧
    ofTree (.mapping [("storage", .mapping [])]) = .ok {} ∧
    load { working := some "storage: memory\n", chosen := .present "storage: \x7b\x7d\n" } =
      .error .load := by
  have first : Sources.fileLayer "storage: memory\n" =
      some [("storage", .text "memory")] := by decide +kernel
  have second : Sources.fileLayer "storage: \x7b\x7d\n" =
      some [("storage", .mapping [])] := by decide +kernel
  have layers : Sources.layers { working := some "storage: memory\n"
                                 chosen := .present "storage: \x7b\x7d\n" } =
      some [[("storage", .text "memory")], [("storage", .mapping [])], [], []] := by
    simp only [Sources.layers, Sources.namedLayer, Option.map_some, Option.getD_some, first, second]
    rfl
  refine ⟨layers, by decide +kernel, ?_⟩
  simp only [load, layers]
  rfl

end Settings
end EventStore
