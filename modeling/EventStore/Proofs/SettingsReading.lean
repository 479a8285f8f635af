import EventStore.Proofs.DocumentOverlay
import EventStore.Proofs.StoreNames
import EventStore.Settings.Sources
import Mathlib.Data.List.Forall2

/-! Settings read from a tree depend on what it holds at its paths, not on the order of entries.
What a tree does not mention is read as its default. -/

namespace EventStore
namespace Convention
open Document

/-- Twins are read alike. -/
def Respects (decode : Document → Option α) : Prop :=
  ∀ first second, Twin first second → decode first = decode second

variable {entries others : List (String × Document)}

theorem respects_of_values {decode : Document → Option α}
    (refused : ∀ entries, decode (.mapping entries) = none) : Respects decode := by
  intro first second twin
  rcases twin.eq_or_mappings with rfl | ⟨entries, others, rfl, rfl⟩
  · rfl
  · rw [refused, refused]

theorem respects_text : Respects lenient.text := respects_of_values fun _ => rfl

theorem respects_count : Respects lenient.count := respects_of_values fun _ => rfl

theorem respects_stores : Respects lenient.stores := respects_of_values fun _ => rfl

/-- The kind that a mapping says by its only name. -/
def kindOfNames : List String → Option StorageKind
  | [name] => StorageKind.ofName (lowerCase name)
  | _ => none

theorem kind_mapping (entries : List (String × Document)) :
    lenient.kind (.mapping entries) = kindOfNames (entries.map (·.1)) := by
  rcases entries with _ | ⟨entry, _ | ⟨next, rest⟩⟩ <;> rfl

theorem kindOfNames_perm {names others : List String} (same : names.Perm others) :
    kindOfNames names = kindOfNames others := by
  rcases names with _ | ⟨name, _ | ⟨next, rest⟩⟩
  · rw [List.nil_perm.mp same]
  · rw [List.singleton_perm.mp same]
  · rcases others with _ | ⟨other, _ | ⟨after, more⟩⟩
    · rfl
    · cases List.perm_singleton.mp same
    · rfl

theorem respects_kind : Respects lenient.kind := by
  intro first second twin
  rcases twin.eq_or_mappings with rfl | ⟨entries, others, rfl, rfl⟩
  · rfl
  · rw [kind_mapping, kind_mapping]
    exact kindOfNames_perm twin.names

theorem field_congr {decode : Document → Option α} (respects : Respects decode) (name : String)
    (default : α)
    (related : ∀ name, Option.Rel Twin (entries.lookup name) (others.lookup name)) :
    field entries name default decode = field others name default decode := by
  have here := related name
  rw [field, field]
  generalize entries.lookup name = held at here ⊢
  generalize others.lookup name = found at here ⊢
  cases here with
  | none => rfl
  | some twin => exact respects _ _ twin

/-- A record is read alike from twins if its fields are. -/
theorem respects_record (names : List String) (read : List (String × Document) → Option α)
    (fields : ∀ entries others,
      (∀ name, Option.Rel Twin (entries.lookup name) (others.lookup name)) →
        read entries = read others) :
    Respects fun document => (lenient.fields names document).bind read := by
  intro first second twin
  rcases twin.eq_or_mappings with rfl | ⟨entries, others, rfl, rfl⟩
  · rfl
  · exact fields entries others twin.lookup

theorem respects_textRecord (name default : String) :
    Respects (lenient.textRecord name default) := by
  apply respects_record
  intro entries others related
  exact field_congr respects_text name default related

theorem respects_storage : Respects lenient.storage := by
  apply respects_record
  intro entries others related
  rw [field_congr respects_kind "type" _ related,
    field_congr (respects_textRecord "path" _) "sqlite" _ related,
    field_congr (respects_textRecord "uri" _) "postgres" _ related,
    field_congr respects_count "max_connections" _ related]

theorem respects_settings : Respects lenient.settings := by
  apply respects_record
  intro entries others related
  rw [field_congr respects_storage "storage" _ related,
    field_congr respects_stores "stores" _ related]

end Convention

/-- A setting of a backend. -/
inductive StorageSetting
  | kind
  | sqlitePath
  | postgresUri
  | maxConnections

namespace StorageSetting

/-- Where it is under the settings of the backend. -/
def path : StorageSetting → List String
  | .kind => ["type"]
  | .sqlitePath => ["sqlite", "path"]
  | .postgresUri => ["postgres", "uri"]
  | .maxConnections => ["max_connections"]

/-- Two backends have the same value for it. -/
def Agrees (first second : StorageSettings) : StorageSetting → Prop
  | .kind => first.kind = second.kind
  | .sqlitePath => first.sqlitePath = second.sqlitePath
  | .postgresUri => first.postgresUri = second.postgresUri
  | .maxConnections => first.maxConnections = second.maxConnections

theorem agrees_refl (setting : StorageSetting) (storage : StorageSettings) :
    setting.Agrees storage storage := by
  cases setting <;> rfl

end StorageSetting

namespace Convention
open Document

variable {tree : Document} {entries : List (String × Document)} {name inner : String}
  {path : List String} {storage : StorageSettings} {settings : Settings}

theorem mentions_eq_false (silent : mentions (name :: path) tree = false) :
    ∃ entries, tree = .mapping entries ∧
      ∀ value, entries.lookup name = some value → mentions path value = false := by
  cases tree with
  | mapping entries =>
    refine ⟨entries, rfl, ?_⟩
    intro value held
    rwa [mentions, held] at silent
  | _ => cases silent

theorem field_default {decode : Document → Option α} {default : α}
    (silent : mentions (name :: path) (.mapping entries) = false)
    (inside : ∀ value, mentions path value = false → decode value = some default) :
    field entries name default decode = some default := by
  rw [field]
  cases held : entries.lookup name with
  | none => rfl
  | some value =>
    rw [mentions, held] at silent
    exact inside value silent

theorem eq_default {decode : Document → Option α} {default value : α}
    (given : field entries name default decode = some value)
    (silent : mentions (name :: path) (.mapping entries) = false)
    (inside : ∀ value, mentions path value = false → decode value = some default) :
    value = default := by
  rw [field_default silent inside] at given
  exact (Option.some.inj given).symm

theorem textRecord_default (default : String) (silent : mentions [inner] tree = false) :
    lenient.textRecord inner default tree = some default := by
  obtain ⟨entries, rfl, -⟩ := mentions_eq_false silent
  exact field_default silent nofun

theorem storage_fields (read : lenient.storage (.mapping entries) = some storage) :
    field entries "type" ({} : StorageSettings).kind lenient.kind = some storage.kind ∧
    field entries "sqlite" ({} : StorageSettings).sqlitePath
      (lenient.textRecord "path" ({} : StorageSettings).sqlitePath) = some storage.sqlitePath ∧
    field entries "postgres" ({} : StorageSettings).postgresUri
      (lenient.textRecord "uri" ({} : StorageSettings).postgresUri) = some storage.postgresUri ∧
    field entries "max_connections" ({} : StorageSettings).maxConnections lenient.count =
      some storage.maxConnections := by
  obtain ⟨kind, kindRead, read⟩ := Option.bind_eq_some_iff.mp read
  obtain ⟨sqlitePath, pathRead, read⟩ := Option.bind_eq_some_iff.mp read
  obtain ⟨postgresUri, uriRead, read⟩ := Option.bind_eq_some_iff.mp read
  obtain ⟨maxConnections, countRead, read⟩ := Option.bind_eq_some_iff.mp read
  cases read
  exact ⟨kindRead, pathRead, uriRead, countRead⟩

/-- A backend setting that a tree does not mention has its default. -/
theorem storage_default (setting : StorageSetting)
    (read : lenient.storage tree = some storage) (silent : mentions setting.path tree = false) :
    setting.Agrees storage {} := by
  cases setting with
  | kind =>
    obtain ⟨entries, rfl, -⟩ := mentions_eq_false silent
    exact eq_default (storage_fields read).1 silent nofun
  | sqlitePath =>
    obtain ⟨entries, rfl, -⟩ := mentions_eq_false silent
    exact eq_default (storage_fields read).2.1 silent fun _ => textRecord_default _
  | postgresUri =>
    obtain ⟨entries, rfl, -⟩ := mentions_eq_false silent
    exact eq_default (storage_fields read).2.2.1 silent fun _ => textRecord_default _
  | maxConnections =>
    obtain ⟨entries, rfl, -⟩ := mentions_eq_false silent
    exact eq_default (storage_fields read).2.2.2 silent nofun

theorem settings_fields (read : lenient.settings (.mapping entries) = some settings) :
    field entries "storage" ({} : Settings).storage lenient.storage = some settings.storage ∧
    field entries "stores" ({} : Settings).stores lenient.stores = some settings.stores := by
  obtain ⟨storage, storageRead, read⟩ := Option.bind_eq_some_iff.mp read
  obtain ⟨stores, storesRead, read⟩ := Option.bind_eq_some_iff.mp read
  cases read
  exact ⟨storageRead, storesRead⟩

theorem settings_storage_default (setting : StorageSetting)
    (read : lenient.settings tree = some settings)
    (silent : mentions ("storage" :: setting.path) tree = false) :
    setting.Agrees settings.storage {} := by
  obtain ⟨entries, rfl, inside⟩ := mentions_eq_false silent
  have given := (settings_fields read).1
  rw [field] at given
  cases held : entries.lookup "storage" with
  | none =>
    rw [held] at given
    exact Option.some.inj given ▸ setting.agrees_refl _
  | some value =>
    rw [held] at given
    exact storage_default setting given (inside value held)

theorem settings_stores_default (read : lenient.settings tree = some settings)
    (silent : mentions ["stores"] tree = false) : settings.stores = ({} : Settings).stores := by
  obtain ⟨entries, rfl, -⟩ := mentions_eq_false silent
  exact eq_default (settings_fields read).2 silent nofun

theorem forall₂_of_mapM {decode : Document → Option α} {items : List Document} {values : List α}
    (read : items.mapM decode = some values) :
    List.Forall₂ (fun item value => decode item = some value) items values := by
  induction items generalizing values with
  | nil =>
    cases read
    exact .nil
  | cons item items ih =>
    rw [List.mapM_cons] at read
    obtain ⟨value, head, read⟩ := Option.bind_eq_some_iff.mp read
    obtain ⟨rest, tail, read⟩ := Option.bind_eq_some_iff.mp read
    cases read
    exact .cons head (ih tail)

theorem settings_stores_of_list {items : List Document}
    (read : lenient.settings tree = some settings)
    (held : holding ["stores"] tree = .value (.list items)) :
    List.Forall₂ (fun item entry => lenient.entry item = some entry) items settings.stores := by
  rw [holding] at held
  cases found : tree.entries.lookup "stores" with
  | none => simp [found] at held
  | some value =>
    rw [found] at held
    obtain rfl := eq_of_holding_root held
    cases tree with
    | mapping entries =>
      have given := (settings_fields read).2
      rw [field, show entries.lookup "stores" = _ from found] at given
      exact forall₂_of_mapM given
    | _ => cases found

/-- The storage of a single store has its own defaults, whatever all stores together have. -/
theorem entry_storage_default {entry : StoreSettings} (setting : StorageSetting)
    (read : lenient.entry tree = some entry) (own : entry.storage = some storage)
    (silent : mentions ("storage" :: setting.path) tree = false) :
    setting.Agrees storage {} := by
  obtain ⟨entries, rfl, inside⟩ := mentions_eq_false silent
  obtain ⟨name, -, read⟩ := Option.bind_eq_some_iff.mp read
  obtain ⟨concerning, -, read⟩ := Option.bind_eq_some_iff.mp read
  obtain ⟨optional, given, read⟩ := Option.bind_eq_some_iff.mp read
  cases read
  obtain rfl : optional = some storage := own
  rw [field] at given
  cases held : entries.lookup "storage" with
  | none => simp [held] at given
  | some value =>
    rw [held] at given
    have unset := inside value held
    cases value with
    | mapping fields =>
      obtain ⟨read, stored, same⟩ := Option.map_eq_some_iff.mp given
      obtain rfl := Option.some.inj same
      exact storage_default setting stored unset
    -- Anything else is on the way to all settings of a backend.
    | _ => cases setting <;> cases unset

end Convention
end EventStore
