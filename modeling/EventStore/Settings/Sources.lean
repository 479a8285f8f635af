import EventStore.Settings.Decoding
import EventStore.Yaml.Node

/-! Where settings come from: a file in the working directory, a file asked for, a file named by
the environment, and variables of the environment, each overriding the ones before it. -/

namespace EventStore

/-- A file that has to be there once it is named. -/
inductive NamedFile
  | unnamed
  | missing
  | present (content : String)

structure Sources where
  /-- The content of the settings file in the working directory, if it is there. -/
  working : Option String := none
  chosen : NamedFile := .unnamed
  environment : NamedFile := .unnamed
  /-- The variables of the environment with their values. -/
  bindings : List (String × String) := []

namespace Sources

def workingFileName : String := "config.yaml"

/-- The variable that names a settings file. -/
def fileVariable : String := "TIDEMARK_CONFIG"

/-- What the name of a variable starts with if it holds a setting. -/
def settingMark : String := "tidemark__"

/-- Two underscores separate the levels of a setting, which is a point in its path. -/
def pathOfVariable : List Char → List Char
  | '_' :: '_' :: rest => '.' :: pathOfVariable rest
  | char :: rest => char :: pathOfVariable rest
  | [] => []

def settingOf (name value : String) : Option (String × Document) :=
  let lower := (Document.lowerCase name).toList
  if settingMark.toList.isPrefixOf lower then
    some (String.ofList (pathOfVariable (lower.drop settingMark.length)), Document.ofVariable value)
  else none

/-- The text after a byte order mark, which some editors write in front of a file. -/
def withoutMark (content : String) : String :=
  match content.toList with
  | '\uFEFF' :: rest => String.ofList rest
  | _ => content

/-- The entries of a file, which has to hold a mapping. -/
def fileLayer (content : String) : Option (List (String × Document)) :=
  match Yaml.read (withoutMark content) with
  | some (.mapping entries) => some entries
  | _ => none

def namedLayer : NamedFile → Option (List (String × Document))
  | .unnamed => some []
  | .missing => none
  | .present content => fileLayer content

def variableLayer (bindings : List (String × String)) : List (String × Document) :=
  bindings.filterMap fun (name, value) => settingOf name value

/-- The layers from the weakest to the strongest. -/
def layers (sources : Sources) : Option (List (List (String × Document))) := do
  let working ← (sources.working.map fileLayer).getD (some [])
  let chosen ← namedLayer sources.chosen
  let environment ← namedLayer sources.environment
  return [working, chosen, environment, variableLayer sources.bindings]

end Sources

namespace Settings

def ofLayers (layers : List (List (String × Document))) : Except SettingsFault Settings := do
  match Convention.lenient.settings (Document.mergeLayers layers) with
  | none => .error .load
  | some settings =>
    settings.checkNames
    return settings

def load (sources : Sources) : Except SettingsFault Settings :=
  match sources.layers with
  | none => .error .load
  | some layers => ofLayers layers

end Settings
end EventStore
