/-
  Usage of a command: the options and arguments it takes, how they are read from the words of a
  command line, and what can be wrong with these.
-/
import DeclaredTools.Json.Reader
import DeclaredTools.Text.Similarity
import DeclaredTools.Value.Text

namespace DeclaredTools.CommandLine

structure Choice where
  name : String
  takesValue : Bool

/-- A command as its users see it. -/
structure Usage where
  /-- The words that call it. -/
  words : String
  /-- What follows them. -/
  form : String
  options : List Choice
  arguments : List String
  /-- Options can follow arguments. -/
  mixed : Bool

/-- What is wrong with the words of a command line. -/
inductive Misuse where
  | noSuchOption (name : String) (similar : List String)
  | valueMissing (option : String)
  | valueUnwanted (option : String)
  | argumentMissing (name : String)
  | unexpectedArguments (words : List String)
  | noSuchCommand (name : String) (similar : List String)
  | commandMissing
  | notAChoice (option value : String) (choices : List String)
  | notADirectory (option path : String)
  | badJson (option : String) (e : Json.ReadError)
  | notAnObject (option : String)
  | notAPair (option word : String)

namespace Misuse

/-- Words that may have been meant. -/
def suggestion : List String → String
  | [] => ""
  | [name] => " Did you mean " ++ Value.quoted name ++ "?"
  | names =>
    let sorted := names.mergeSort fun a b => decide (a ≤ b)
    " (Did you mean one of: " ++ ", ".intercalate (sorted.map Value.quoted) ++ "?)"

def message : Misuse → String
  | .noSuchOption name similar =>
    "No such option " ++ Value.quoted name ++ "." ++ suggestion similar
  | .valueMissing option => "Option " ++ Value.quoted option ++ " requires an argument."
  | .valueUnwanted option => "Option " ++ Value.quoted option ++ " does not take a value."
  | .argumentMissing name => "Missing argument " ++ Value.quoted name ++ "."
  | .unexpectedArguments words =>
    "Got unexpected extra argument" ++ (if words.length = 1 then "" else "s") ++ " ("
      ++ " ".intercalate words ++ ")"
  | .noSuchCommand name similar =>
    "No such command " ++ Value.quoted name ++ "." ++ suggestion similar
  | .commandMissing => "Missing command."
  | .notAChoice option value choices =>
    "Invalid value for " ++ Value.quoted option ++ ": " ++ Value.quoted value ++ " is not one of "
      ++ ", ".intercalate (choices.map Value.quoted) ++ "."
  | .notADirectory option path =>
    "Invalid value for " ++ Value.quoted option ++ ": Directory " ++ Value.quoted path
      ++ " is a file."
  | .badJson option e => "Invalid value for " ++ option ++ ": " ++ e.message
  | .notAnObject option => "Invalid value for " ++ option ++ ": must be a JSON object"
  | .notAPair option word =>
    "Invalid value for " ++ option ++ ": " ++ "'" ++ word ++ "'" ++ " is not key=value"

/-- The usage of the command is shown too. -/
def showsUsage : Misuse → Bool
  | .valueMissing _ => false
  | .valueUnwanted _ => false
  | _ => true

end Misuse

/-- An option as given, with its value. -/
structure Given where
  name : String
  value : String

/-- The words of a command line, sorted into options and other words. -/
structure Words where
  options : List Given
  rest : List String

namespace Words

def option (g : Given) (w : Words) : Words := { w with options := g :: w.options }

def word (s : String) (w : Words) : Words := { w with rest := s :: w.rest }

/-- All values of an option. -/
def values (w : Words) (name : String) : List String :=
  (w.options.filter (·.name = name)).map Given.value

/-- The last value of an option. -/
def value? (w : Words) (name : String) : Option String := (w.values name).getLast?

def has (w : Words) (name : String) : Bool := w.options.any (·.name = name)

/-- The options that are given, each at its first place. -/
def names (w : Words) : List String := (w.options.map Given.name).eraseDups

end Words

/-- The part before the first equals sign, and the part behind it. -/
def splitPair (s : String) : String × Option String :=
  let cs := s.toList
  match cs.dropWhile (· ≠ '=') with
  | [] => (s, none)
  | _ :: value => (String.ofList (cs.takeWhile (· ≠ '=')), some (String.ofList value))

/-- A word that starts with a hyphen and goes on. -/
def isOption (s : String) : Bool := s.startsWith "-" && 1 < s.length

namespace Usage

/-- An unknown option; of a word with one hyphen only the first letter counts. -/
def unknown (u : Usage) (word name : String) : Misuse :=
  if word.startsWith "--" then
    .noSuchOption name (Text.closeMatches name (u.options.map Choice.name))
  else .noSuchOption (String.ofList (word.toList.take 2)) []

/-- Sorts words into options and others; behind two hyphens all words are others, and unless they
can be mixed, behind the first other word too. -/
def sort (u : Usage) : List String → Except Misuse Words
  | [] => .ok ⟨[], []⟩
  | s :: words =>
    if s = "--" then .ok ⟨[], words⟩
    else if isOption s then
      let (name, attached) := splitPair s
      match u.options.find? (·.name = name), attached with
      | none, _ => .error (u.unknown s name)
      | some o, some value =>
        if o.takesValue then (u.sort words).map (·.option ⟨name, value⟩)
        else .error (.valueUnwanted name)
      | some o, none =>
        if !o.takesValue then (u.sort words).map (·.option ⟨name, ""⟩)
        else
          match words with
          | [] => .error (.valueMissing name)
          | next :: words => (u.sort words).map (·.option ⟨name, next⟩)
    else if u.mixed then (u.sort words).map (·.word s)
    else .ok ⟨[], s :: words⟩

/-- The words that are left when every argument has one. -/
def extra : List String → List String → Except Misuse (List String)
  | [], words => .ok words
  | name :: _, [] => .error (.argumentMissing name)
  | _ :: names, _ :: words => extra names words

/-- Sorts the words of a command that takes nothing beyond its arguments. -/
def read (u : Usage) (words : List String) : Except Misuse Words := do
  let sorted ← u.sort words
  if sorted.has "--help" then return sorted
  match ← extra u.arguments sorted.rest with
  | [] => return sorted
  | more => throw (.unexpectedArguments more)

/-- The line that shows what the command takes. -/
def line (u : Usage) : String := "Usage: " ++ u.words ++ " " ++ u.form ++ "\n"

/-- What is written about a misuse. -/
def complaint (u : Usage) (m : Misuse) : String :=
  (if m.showsUsage then
    u.line ++ "Try '" ++ u.words ++ " --help' for help.\n\n" else "")
    ++ "Error: " ++ m.message ++ "\n"

end Usage

end DeclaredTools.CommandLine
