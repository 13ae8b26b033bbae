/-
  Loading: presets in the order of their names given, then the files of a workflow directory in the
  order of their names, folded into one set.
-/
import DeclaredTools.Loading.Catalog
import DeclaredTools.Loading.Document

namespace DeclaredTools

/-- What is loaded from: files, the sets in them, and the catalog of presets. -/
structure Loader where
  files : FileSystem
  setOrder : SetOrder
  catalog : Catalog

namespace Loader

/-- A set merged over another. -/
def merge (base overlay : DeclarationSet) : Loading DeclarationSet :=
  ⟨DeclarationSet.mergeEvents base overlay, .ok (base.merge overlay)⟩

/-- The declarations of one file. -/
def loadFile (l : Loader) (p : Path) : Loading DeclarationSet := Document.load l.setOrder l.files p

/-- The declarations of a file merged over a set. -/
def mergeFile (l : Loader) (base : DeclarationSet) (p : Path) : Loading DeclarationSet := do
  merge base (← l.loadFile p)

/-- The names of all presets. -/
def available (l : Loader) : Loading (List String) := do
  l.catalog.look l.files
  return l.catalog.available l.files

/-- The file of a preset. -/
def pathFor (l : Loader) (name : String) : Loading (Option Path) := do
  l.catalog.look l.files
  return l.catalog.pathFor l.files name

/-- A preset merged over a set; names that mean nothing are left out. -/
def mergePreset (l : Loader) (base : DeclarationSet) (name : String) : Loading DeclarationSet := do
  if name = "" then
    .tell [.presetUnnamed]
    return base
  match ← l.pathFor name with
  | some p => l.mergeFile base p
  | none =>
    .tell [.presetNotFound name]
    return base

/-- Presets in the order given; later ones take precedence. -/
def loadPresets (l : Loader) (names : List String) : Loading DeclarationSet :=
  names.foldlM l.mergePreset []

/-- The declaration files of a workflow directory, with what finding them reports. -/
def workflowFiles (fs : FileSystem) (place : Path) : List Event × List Path :=
  if !fs.isDirectory place then ([.directoryMissing place.text], [])
  else if !workflowDirectoryNames.contains place.name then ([.directoryMisnamed place.text], [])
  else
    let files := fs.declarationFiles place
    (if files.isEmpty then [.directoryEmpty place.text] else [], files)

/-- The declaration files of a workflow directory in the order of their names. -/
def directoryFiles (l : Loader) (directory : Path) : Loading (List Path) :=
  let place := l.files.resolve directory
  if directory.hasNull then .stop .nullCharacter
  else if l.files.isTooLong place then .stop (.nameTooLong place)
  else
    let (events, files) := workflowFiles l.files place
    ⟨events, .ok files⟩

/-- The files of a workflow directory; later ones take precedence. -/
def loadDirectory (l : Loader) (directory : Path) : Loading DeclarationSet := do
  (← l.directoryFiles directory).foldlM l.mergeFile []

/-- The files of the presets that there are, each as often as it is named. -/
def presetFiles (l : Loader) (names : List String) : Loading (List Path) := do
  let found ← (names.filter (· ≠ "")).mapM l.pathFor
  return found.filterMap id

/-- Every file that loading reads, in the order of precedence. -/
def sourceFiles (l : Loader) (presets : List String) (directory : Option Path) :
    Loading (List Path) := do
  let files ← l.presetFiles presets
  match directory with
  | none => return files
  | some d => return files ++ (← l.directoryFiles d)

/-- Presets first, then what a directory says about them. -/
def load (l : Loader) (presets : List String) (directory : Option Path) :
    Loading DeclarationSet := do
  let base ← l.loadPresets presets
  match directory with
  | none => return base
  | some d => merge base (← l.loadDirectory d)

/-- The entries of one file, for linting. -/
def entries (l : Loader) (p : Path) : Loading (List (Value × Value)) :=
  Document.entries l.setOrder l.files p

end Loader

end DeclaredTools
