/-
  Files as the library sees them: directories and files with their bytes, and a working directory.
-/
import DeclaredTools.Files.Path

namespace DeclaredTools

inductive Content where
  | directory
  | file (bytes : List UInt8)
  deriving DecidableEq

/-- What is where; places are given by the names on the way from the root. -/
structure FileSystem where
  working : List String
  contents : List (List String × Content)

namespace FileSystem

/-- What is at a place. The root and the working directory are always there. -/
def content? (fs : FileSystem) (place : List String) : Option Content :=
  match fs.contents.lookup place with
  | some c => some c
  | none => if place.isPrefixOf fs.working then some .directory else none

/-- The first place of each path that leads to `place`, from the root on. -/
def ancestors (place : List String) : List (List String) :=
  (List.range place.length).map place.take

/-- Puts content at a place, instead of what is there, and directories on the way. -/
def add (fs : FileSystem) (place : List String) (c : Content) : FileSystem :=
  let missing := (ancestors place).filter fun p => (fs.content? p).isNone
  let others := fs.contents.filter fun e => e.1 ≠ place
  { fs with contents := others ++ missing.map (·, .directory) ++ [(place, c)] }

/-- One step along a path; only directories can be left. -/
def step (fs : FileSystem) (place : List String) (part : String) : Option (List String) :=
  if fs.content? place ≠ some .directory then none
  else
    let next := if part = ".." then place.dropLast else place ++ [part]
    if (fs.content? next).isSome then some next else none

/-- The place that a path leads to, if there is something. -/
def locate (fs : FileSystem) (p : Path) : Option (List String) :=
  p.parts.foldlM fs.step (if p.slashes = 0 then fs.working else [])

def find? (fs : FileSystem) (p : Path) : Option Content := (fs.locate p).bind fs.content?

/-- The greatest number of bytes in a name. -/
def nameLimit : Nat := 255

/-- The greatest number of bytes in a path. -/
def pathLimit : Nat := 4095

/-- On the way from `place` along the parts a name is looked up that is too long. -/
def meetsLongName (fs : FileSystem) (place : List String) : List String → Bool
  | [] => false
  | part :: parts =>
    if fs.content? place ≠ some .directory then false
    else if nameLimit < part.utf8ByteSize then true
    else
      match fs.step place part with
      | some next => fs.meetsLongName next parts
      | none => false

/-- The path cannot be looked up: it is too long, or a name on the way is. What holds the null
character is no path at all, and is not looked up. -/
def isTooLong (fs : FileSystem) (p : Path) : Bool :=
  !p.hasNull && (pathLimit < p.text.utf8ByteSize
    || fs.meetsLongName (if p.slashes = 0 then fs.working else []) p.parts)

def isDirectory (fs : FileSystem) (p : Path) : Bool := fs.find? p = some .directory

/-- The bytes of a file. -/
def read? (fs : FileSystem) (p : Path) : Option (List UInt8) :=
  match fs.find? p with
  | some (.file bytes) => some bytes
  | _ => none

/-- The text leads to a file; one that ends in a slash or a dot behind it leads to directories
only. -/
def holdsFile (fs : FileSystem) (text : String) : Bool :=
  let last := (Text.splitOn '/' text.toList).getLast?.getD []
  !last.isEmpty && last ≠ ['.'] && (fs.read? (.ofText text)).isSome

/-- The name of an entry of the directory at `place`. -/
def entryName? (place entry : List String) : Option String :=
  match entry.getLast? with
  | some name => if entry.dropLast = place then some name else none
  | none => none

/-- The names in a directory, in order. -/
def names (fs : FileSystem) (p : Path) : List String :=
  match fs.locate p with
  | some place =>
    let found := fs.contents.filterMap fun e => entryName? place e.1
    (found.mergeSort fun a b => decide (a ≤ b)).eraseDups
  | none => []

/-- The entries of a directory in the order of their names. -/
def entries (fs : FileSystem) (p : Path) : List Path := (fs.names p).map p.child

/-- The absolute path, seen from the working directory. -/
def resolve (fs : FileSystem) (p : Path) : Path := p.resolve fs.working

end FileSystem

end DeclaredTools
