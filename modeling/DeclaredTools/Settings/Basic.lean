/-
  Settings: from the environment, and where that says nothing, from the file `.env` in the working
  directory. Names are read in upper or lower case.
-/
import DeclaredTools.Files.Basic
import DeclaredTools.Loading.Builtin
import DeclaredTools.Settings.EnvironmentFile
import DeclaredTools.Settings.Integer
import DeclaredTools.Text.Utf8

namespace DeclaredTools

/-- Environment variables by name. -/
abbrev Environment := OrderedMap String

structure Settings where
  presets : String
  configDir : Option String
  presetPaths : String
  port : Int
  logLevel : String

/-- What is wrong with one setting. -/
inductive SettingIssue where
  | notAnInteger (name : String)
  | integerSize (name : String)
  | unexpected (name : String)

/-- Why there are no settings. -/
inductive SettingsError where
  | encoding (f : Text.Utf8.Fault)
  | issues (first : SettingIssue) (more : List SettingIssue)

namespace SettingIssue

def message : SettingIssue → String
  | .notAnInteger name =>
    name ++ ": Input should be a valid integer, unable to parse string as an integer"
  | .integerSize name =>
    name ++ ": Unable to parse input string as an integer, exceeded maximum size"
  | .unexpected name => name ++ ": Extra inputs are not permitted"

end SettingIssue

def SettingsError.message : SettingsError → String
  | .encoding f => f.message
  | .issues first more => "; ".intercalate ((first :: more).map SettingIssue.message)

namespace Settings

/-- What the variables of the settings start with. -/
def namespaceText : String := "tool_forge_"

def names : List String := ["presets", "config_dir", "preset_paths", "port", "log_level"]

/-- Variables by their names in lower case. -/
def lowered {α : Type} (environment : OrderedMap α) : OrderedMap α :=
  .ofEntries (environment.map fun (k, v) => (Text.lower k, v))

/-- The variables in the file `.env`. -/
def fileVariables (fs : FileSystem) (environment : Environment) :
    Except Text.Utf8.Fault (OrderedMap (Option String)) :=
  match fs.read? (.ofText ".env") with
  | none => .ok []
  | some bytes => (Text.Utf8.decode bytes).map (EnvironmentFile.read environment)

/-- Variables of a file that name no setting; empty ones do not count. -/
def unexpected (file : OrderedMap (Option String)) : List SettingIssue :=
  file.filterMap fun (name, value) =>
    if (value.getD "") = "" || names.contains name
        || (names.map (namespaceText ++ ·)).contains name then none
    else some (.unexpected name)

/-- The port, where one is given. -/
def portOf (text : Option String) : Except SettingIssue Int :=
  match text with
  | none => .ok 8400
  | some s =>
    match Integer.read s with
    | .ok n => .ok n
    | .error .form => .error (.notAnInteger "port")
    | .error .size => .error (.integerSize "port")

/-- The settings that the environment and the variables of a file make. -/
def ofVariables (environment : Environment) (file : OrderedMap (Option String)) :
    Except SettingsError Settings :=
  let environment := lowered environment
  let file := lowered file
  let find := fun (name : String) =>
    (environment.get? (namespaceText ++ name)).or (file.get? (namespaceText ++ name)).join
  match portOf (find "port"), unexpected file with
  | .error issue, issues => .error (.issues issue issues)
  | .ok _, issue :: issues => .error (.issues issue issues)
  | .ok port, [] => .ok {
      presets := (find "presets").getD ""
      configDir := find "config_dir"
      presetPaths := (find "preset_paths").getD ""
      port := port
      logLevel := (find "log_level").getD "INFO" }

def read (fs : FileSystem) (environment : Environment) : Except SettingsError Settings :=
  match fileVariables fs environment with
  | .error f => .error (.encoding f)
  | .ok file => ofVariables environment file

/-- The presets that are loaded where none are asked for. -/
def presetNames (s : Settings) : List String := Text.listItems s.presets

/-- The directories searched for presets: further ones first, then the built-in presets. -/
def presetDirectories (s : Settings) : List Path :=
  (Text.listItems s.presetPaths).map Path.ofText ++ [Builtin.directory]

end Settings

end DeclaredTools
