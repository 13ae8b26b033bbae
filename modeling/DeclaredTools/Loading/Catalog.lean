/-
  The catalog of presets: which preset names there are, and which file each of them means. The
  first directory that has the name counts, and in it the first file.
-/
import DeclaredTools.Event
import DeclaredTools.Files.Basic
import DeclaredTools.Loading.Builtin
import DeclaredTools.Loading.Error
import DeclaredTools.OrderedMap

namespace DeclaredTools

/-- The suffixes of declaration files. -/
def declarationSuffixes : List String := [".yaml", ".yml"]

/-- A path with the suffix of a declaration file, in upper or lower case. -/
def Path.isDeclarationFile (p : Path) : Bool :=
  declarationSuffixes.contains (Text.lower p.suffix)

/-- The declaration files of a directory in the order of their names. -/
def FileSystem.declarationFiles (fs : FileSystem) (directory : Path) : List Path :=
  (fs.entries directory).filter Path.isDeclarationFile

/-- The directories that are searched for presets, in order. -/
structure Catalog where
  directories : List Path

namespace Catalog

/-- A catalog of the given directories, or else of the built-in presets. -/
def ofDirectories (directories : List Path) : Catalog :=
  ⟨if directories.isEmpty then [Builtin.directory] else directories⟩

/-- All candidates, the better ones first. -/
def candidates (c : Catalog) (fs : FileSystem) : List Path :=
  (c.directories.filter fs.isDirectory).flatMap fs.declarationFiles

/-- The file of a preset. -/
def pathFor (c : Catalog) (fs : FileSystem) (name : String) : Option Path :=
  (c.candidates fs).find? fun p => p.stem = name

/-- The names of all presets in order. -/
def available (c : Catalog) (fs : FileSystem) : List String :=
  (((c.candidates fs).map Path.stem).eraseDups).mergeSort fun a b => decide (a ≤ b)

/-- What a look into the catalog reports: the directories that are missing. -/
def events (c : Catalog) (fs : FileSystem) : List Event :=
  (c.directories.filter fun d => !fs.isDirectory d).map fun d => .presetDirectoryMissing d.text

/-- A look into the catalog; it stops at a directory whose name cannot be looked up. -/
def look (c : Catalog) (fs : FileSystem) : Loading Unit :=
  match c.directories.find? fs.isTooLong with
  | some d =>
    let before : Catalog := ⟨c.directories.takeWhile fun d => !fs.isTooLong d⟩
    ⟨before.events fs, .error (.nameTooLong d)⟩
  | none => .tell (c.events fs)

end Catalog

end DeclaredTools
