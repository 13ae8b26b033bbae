/-
  Starting up: from the files and the environment around the program to its settings, its loader
  and its registry.
-/
import DeclaredTools.Loading.Basic
import DeclaredTools.Registry
import DeclaredTools.Settings.Basic

namespace DeclaredTools

/-- What surrounds the program. -/
structure Surroundings where
  files : FileSystem
  environment : Environment
  setOrder : SetOrder

/-- Why the program breaks off. -/
inductive Failure where
  | settings (e : SettingsError)
  | load (e : LoadError)
  | call (e : CallError)

def Failure.message : Failure → String
  | .settings e => e.message
  | .load e => e.message
  | .call e => e.message

/-- The workflow directory; an empty text names none. -/
def Settings.directory (s : Settings) : Option Path :=
  (s.configDir.filter (· ≠ "")).map Path.ofText

/-- A registry of what is loaded. -/
def loadRegistry (l : Loader) (presets : List String) (directory : Option Path) :
    Except Failure Registry :=
  match (l.load presets directory).outcome with
  | .ok set => .ok (.ofSet set)
  | .error e => .error (.load e)

namespace Surroundings

def settings (around : Surroundings) : Except Failure Settings :=
  match Settings.read around.files around.environment with
  | .ok s => .ok s
  | .error e => .error (.settings e)

/-- The loader that the settings describe. -/
def loader (around : Surroundings) (s : Settings) : Loader :=
  ⟨around.files, around.setOrder, .ofDirectories s.presetDirectories⟩

/-- The registry that the settings describe. -/
def registry (around : Surroundings) : Except Failure Registry := do
  let s ← around.settings
  loadRegistry (around.loader s) s.presetNames s.directory

end Surroundings

end DeclaredTools
