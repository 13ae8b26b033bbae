/-
  Declaration files: from the bytes of a file to its declarations. A file that is not there or holds
  no document is skipped; text or values that cannot be read stop the work, and so do values that
  cannot be written where their text is taken.
-/
import DeclaredTools.Declaration.Steps
import DeclaredTools.Files.Basic
import DeclaredTools.Loading.Error
import DeclaredTools.Yaml.Basic

namespace DeclaredTools

namespace Document

/-- The document that bytes hold; none if it is malformed. -/
def ofBytes (order : SetOrder) (bytes : List UInt8) : Except LoadError (Option Value) :=
  match Yaml.read order (.ofBytes bytes) with
  | .ok v => .ok (some v)
  | .error f => if f = .malformed then .ok none else .error (.value f)

/-- The document in a file; none if there is no file or no document. -/
def find (order : SetOrder) (fs : FileSystem) (p : Path) : Except LoadError (Option Value) :=
  if p.hasNull then .error .nullCharacter
  else
    match fs.read? p with
    | none => .ok none
    | some bytes => ofBytes order bytes

/-- The document in a file, null for a file that is skipped. -/
def read (order : SetOrder) (fs : FileSystem) (p : Path) : Loading Value :=
  match find order fs p with
  | .ok (some v) => pure v
  | .ok none => ⟨[.fileSkipped p.text], .ok .null⟩
  | .error e => .stop e

/-- Takes a step; a text that cannot be written stops the work. -/
def take : ReadingStep → Loading Unit
  | .report e => .tell [e]
  | .text v =>
    match v.written with
    | .ok _ => .done ()
    | .error e => .stop (.text e)

/-- Takes the steps one after the other. -/
def follow : List ReadingStep → Loading Unit
  | [] => .done ()
  | step :: steps => do
    take step
    follow steps

/-- Linting the declarations of a document. -/
def lintSteps (p : Path) (es : List (Value × Value)) : List ReadingStep :=
  es.flatMap fun (key, entry) =>
    (key :: lintTexts entry).map .text
      ++ (lint key.display entry).map fun problem => .report (.lintProblem p.text key problem)

/-- Linting the declarations of a document, and then reading them. -/
def steps (p : Path) (es : List (Value × Value)) : List ReadingStep :=
  lintSteps p es ++ DeclarationSet.steps p.text es

/-- The declarations of a document. -/
def declarations (p : Path) : Value → Loading DeclarationSet
  | .null => pure []
  | .map es => do
    let set := DeclarationSet.ofValue (.map es)
    follow (steps p es)
    .tell [.fileLoaded p.text set.length]
    return set
  | _ => do
    .tell [.fileNotMapping p.text]
    return []

/-- The declarations in a file. -/
def load (order : SetOrder) (fs : FileSystem) (p : Path) : Loading DeclarationSet := do
  declarations p (← read order fs p)

/-- The entries of the document in a file, for linting; none if it is no mapping. -/
def entries (order : SetOrder) (fs : FileSystem) (p : Path) : Loading (List (Value × Value)) := do
  match ← read order fs p with
  | .map es => return es
  | _ => return []

end Document

end DeclaredTools
