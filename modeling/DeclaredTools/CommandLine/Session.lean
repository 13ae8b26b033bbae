/-
  A session: what a command works with. The options before the command and the settings say which
  declarations are loaded and how results are written.
-/
import DeclaredTools.CommandLine.Table
import DeclaredTools.CommandLine.Usage
import DeclaredTools.Json.Printer
import DeclaredTools.Startup

namespace DeclaredTools.CommandLine

/-- The options before the command. -/
structure Preferences where
  presets : List String
  directory : Option Path
  json : Bool

/-- Why there are no preferences. -/
inductive Obstacle where
  | misuse (m : Misuse)
  | failure (f : Failure)

namespace Preferences

def formats : List String := ["table", "json"]

/-- Checks the value of one option. -/
def check (fs : FileSystem) (w : Words) (name : String) : Except Obstacle Unit :=
  match w.value? name with
  | none => .ok ()
  | some value =>
    if name = "--format" && !formats.contains value then
      .error (.misuse (.notAChoice name value formats))
    else if name = "--config-dir" && (Path.ofText value).hasNull then
      .error (.failure (.load .nullCharacter))
    else if name = "--config-dir" && fs.holdsFile value then
      .error (.misuse (.notADirectory name value))
    else .ok ()

/-- The preferences that the words say, checked in the order in which options are given. -/
def ofWords (fs : FileSystem) (w : Words) : Except Obstacle Preferences := do
  w.names.forM (check fs w)
  return {
    presets := w.values "--preset"
    directory := (w.value? "--config-dir").map Path.ofText
    json := w.value? "--format" = some "json" }

end Preferences

structure Session where
  loader : Loader
  presets : List String
  directory : Option Path
  json : Bool
  registry : Registry

namespace Session

/-- Reads the settings and loads the declarations. -/
def start (around : Surroundings) (p : Preferences) : Except Failure Session := do
  let settings ← around.settings
  let presets := if p.presets.isEmpty then settings.presetNames else p.presets
  let directory := p.directory.or settings.directory
  let loader := around.loader settings
  return ⟨loader, presets, directory, p.json, ← loadRegistry loader presets directory⟩

/-- A result as a document. -/
def document (v : Value) : Except Failure String :=
  match Json.indented v with
  | .ok text => .ok text
  | .error e => .error (.call (.text e))

/-- Rows as the session writes them. -/
def rows (s : Session) (rows : List Value) (columns : List String) : Except Failure String :=
  if s.json then document (.list rows) else .ok (Table.render rows columns)

end Session

end DeclaredTools.CommandLine
