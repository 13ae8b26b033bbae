/-
  Files of environment variables: one `NAME=value` on a line, values plain or in quotation marks,
  with references to variables that are already known.
-/
import DeclaredTools.OrderedMap
import DeclaredTools.Text.Blank
import DeclaredTools.Text.Lines

namespace DeclaredTools.EnvironmentFile

/-- A name and what it is bound to; a name may stand alone. -/
structure Binding where
  name : String
  value : Option String

/-- Blanks within a line. -/
def isInnerBlank (c : Char) : Bool := Text.isBlank c && c ≠ '\n'

def skipInner (cs : List Char) : List Char := cs.dropWhile isInnerBlank

/-- The text up to the closing mark, last character first, and what follows. A backslash takes the
character behind it along, which has to be on the same line. -/
def quotedFrom (mark : Char) (done : List Char) : List Char → Option (List Char × List Char)
  | [] => none
  | '\\' :: c :: cs => if c = '\n' then none else quotedFrom mark (c :: '\\' :: done) cs
  | c :: cs =>
    if c = mark then some (done, cs)
    else if c = '\\' then none
    else quotedFrom mark (c :: done) cs

/-- Replaces each backslash with the character behind it as the table says. -/
def unescape (table : List (Char × Char)) : List Char → List Char
  | '\\' :: c :: cs =>
    match table.lookup c with
    | some d => d :: unescape table cs
    | none => '\\' :: unescape table (c :: cs)
  | c :: cs => c :: unescape table cs
  | [] => []

def singleEscapes : List (Char × Char) := [('\\', '\\'), ('\'', '\'')]

def doubleEscapes : List (Char × Char) := [
  ('\\', '\\'), ('\'', '\''), ('"', '"'), ('a', '\x07'), ('b', '\x08'), ('f', '\x0c'),
  ('n', '\n'), ('r', '\r'), ('t', '\t'), ('v', '\x0b')]

/-- Without a comment, which starts with a number sign behind a blank. -/
def withoutComment : List Char → List Char
  | [] => []
  | c :: cs =>
    if Text.isBlank c && ((c :: cs).dropWhile Text.isBlank).head? = some '#' then []
    else c :: withoutComment cs

/-- The value behind an equals sign and what follows it. -/
def readValue (cs : List Char) : Option (List Char × List Char) :=
  match skipInner cs with
  | '\'' :: rest =>
    (quotedFrom '\'' [] rest).map fun (t, rest) => (unescape singleEscapes t.reverse, rest)
  | '"' :: rest =>
    (quotedFrom '"' [] rest).map fun (t, rest) => (unescape doubleEscapes t.reverse, rest)
  | _ =>
    let line := cs.takeWhile (· ≠ '\n')
    some (Text.trimChars (withoutComment line), cs.dropWhile (· ≠ '\n'))

def isNameChar (c : Char) : Bool := !(c = '=' || c = '#' || Text.isBlank c)

/-- The name here and what follows it; a line may hold a comment only. -/
def readName (cs : List Char) : Option (Option (List Char) × List Char) :=
  match cs with
  | '#' :: _ => some (none, cs)
  | '\'' :: rest =>
    match rest.takeWhile (· ≠ '\''), rest.dropWhile (· ≠ '\'') with
    | [], _ => none
    | name, _ :: rest => some (some name, rest)
    | _, [] => none
  | cs =>
    match cs.takeWhile isNameChar with
    | [] => none
    | name => some (some name, cs.dropWhile isNameChar)

/-- Without the word that announces a variable for other programs. -/
def skipExport (cs : List Char) : List Char :=
  match cs with
  | 'e' :: 'x' :: 'p' :: 'o' :: 'r' :: 't' :: c :: rest =>
    if isInnerBlank c then skipInner rest else cs
  | _ => cs

def skipComment (cs : List Char) : List Char :=
  match skipInner cs with
  | '#' :: rest => rest.dropWhile (· ≠ '\n')
  | _ => cs

/-- What follows the end of the line, if nothing but blanks stand before it. -/
def endLine (cs : List Char) : Option (List Char) :=
  match skipInner cs with
  | [] => some []
  | '\n' :: rest => some rest
  | _ => none

/-- What follows this line. -/
def skipLine (cs : List Char) : List Char := (cs.dropWhile (· ≠ '\n')).drop 1

/-- The binding on the line here and what follows; a line of another form binds nothing. -/
def readLine (cs : List Char) : Option Binding × List Char :=
  match cs.dropWhile Text.isBlank with
  | [] => (none, [])
  | start =>
    let start := skipExport start
    match readName start with
    | none => (none, skipLine start)
    | some (name, rest) =>
      let finish := fun (value : Option (List Char)) (rest : List Char) =>
        let behind := skipComment rest
        match endLine behind with
        | some next => (name.map fun n => ⟨String.ofList n, value.map String.ofList⟩, next)
        | none => (none, skipLine behind)
      match skipInner rest with
      | '=' :: rest =>
        match readValue rest with
        | some (value, rest) => finish (some value) rest
        | none => (none, skipLine rest)
      | rest => finish none rest

/-- The bindings of a file; the fuel is the number of characters. -/
def bindingsFrom : Nat → List Char → List Binding
  | _, [] => []
  | 0, _ => []
  | n + 1, cs =>
    let (binding, rest) := readLine cs
    binding.toList ++ bindingsFrom n rest

/-! ## References -/

/-- Replaces references, with or without a default, by what they mean. -/
def expand (known : String → Option String) (cs : List Char) : List Char :=
  match cs with
  | [] => []
  | '$' :: '\x7b' :: rest =>
    let name := rest.takeWhile fun c => c ≠ '\x7d' && c ≠ ':'
    match _h : rest.dropWhile fun c => c ≠ '\x7d' && c ≠ ':' with
    | '\x7d' :: behind =>
      ((known (String.ofList name)).getD "").toList ++ expand known behind
    | ':' :: '-' :: behind =>
      let default := behind.takeWhile (· ≠ '\x7d')
      match _h' : behind.dropWhile (· ≠ '\x7d') with
      | [] => '$' :: expand known ('\x7b' :: rest)
      | _ :: after =>
        ((known (String.ofList name)).getD (String.ofList default)).toList ++ expand known after
    | _ => '$' :: expand known ('\x7b' :: rest)
  | c :: rest => c :: expand known rest
  termination_by cs.length
  decreasing_by
    all_goals simp only [List.length_cons]
    · have := (rest.dropWhile_sublist fun c => c ≠ '\x7d' && c ≠ ':').length_le
      simp only [_h, List.length_cons] at this
      omega
    · omega
    · have h₁ := (rest.dropWhile_sublist fun c => c ≠ '\x7d' && c ≠ ':').length_le
      have h₂ := (behind.dropWhile_sublist (· ≠ '\x7d')).length_le
      simp only [_h, _h', List.length_cons] at h₁ h₂
      omega
    · omega
    · omega

/-- What a reference means: a name bound above, or one of the environment. -/
def meaning (environment : OrderedMap String) (above : OrderedMap (Option String))
    (name : String) : Option String :=
  match above.get? name with
  | some value => some (value.getD "")
  | none => environment.get? name

/-- Without the byte order mark that may come first. -/
def withoutMark : List Char → List Char
  | '\uFEFF' :: cs => cs
  | cs => cs

/-- The variables of a file in order. -/
def read (environment : OrderedMap String) (text : String) : OrderedMap (Option String) :=
  let cs := Text.unifyLineEnds (withoutMark text.toList)
  (bindingsFrom cs.length cs).foldl (fun above b =>
    let value := b.value.map fun v =>
      String.ofList (expand (meaning environment above) v.toList)
    above.insert b.name value) []

end DeclaredTools.EnvironmentFile
