/-
  The program `tool-forge`: reads the environment, the file `.env` and the directories that may
  hold declarations, and hands them to the command line.
-/
import DeclaredTools.CommandLine.Basic

open DeclaredTools

/-- The variables of the settings that are set. -/
def readEnvironment : IO Environment := do
  let names := Settings.names.map fun n => Text.upper (Settings.namespaceText ++ n)
  let found ← names.mapM fun n => return (← IO.getEnv n).map fun v => (n, v)
  return found.filterMap id

/-- What is on disk at a path: the bytes of a file, or a directory. -/
def readContent (text : String) : IO Content := do
  try
    return .file (← IO.FS.readBinFile text).toList
  catch _ => return .directory

/-- The files with a file or a directory from the disk among them. -/
def mount (fs : FileSystem) (p : Path) : IO FileSystem := do
  let place := (fs.resolve p).parts
  let here := (← IO.currentDir) / p.text
  if !(← here.pathExists) then return fs
  let content ← readContent here.toString
  let fs := fs.add place content
  if content ≠ .directory then return fs
  let entries ← here.readDir
  entries.toList.foldlM (fun fs e => do
    return fs.add (place ++ [e.fileName]) (← readContent e.path.toString)) fs

/-- The directories that the settings or the words of the command line name. -/
def directories (around : Surroundings) (words : List String) : List Path :=
  let named := words.flatMap fun w => w :: (CommandLine.splitPair w).2.toList
  let settings :=
    match around.settings with
    | .ok s => s.presetDirectories ++ s.directory.toList
    | .error _ => []
  settings ++ named.map Path.ofText

def main (words : List String) : IO UInt32 := do
  let working := (Path.ofText (← IO.currentDir).toString).parts
  let environment ← readEnvironment
  let files ← mount (Builtin.mount ⟨working, []⟩) (.ofText ".env")
  let files ← (directories ⟨files, environment, .insertion⟩ words).foldlM mount files
  let outcome := CommandLine.run ⟨files, environment, .insertion⟩ words
  IO.print outcome.out
  IO.eprint outcome.err
  if let some f := outcome.failure then IO.eprintln f.message
  return UInt32.ofNat outcome.code
