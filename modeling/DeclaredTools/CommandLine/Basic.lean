/-
  The command line: `tool-forge` with its options, then a command.
-/
import DeclaredTools.CommandLine.Session
import DeclaredTools.Text.Escapes

namespace DeclaredTools.CommandLine

/-- What a run of the program leaves behind. -/
structure Outcome where
  code : Nat
  out : String
  err : String
  failure : Option Failure

namespace Outcome

def success (out : String) : Outcome := ⟨0, out ++ "\n", "", none⟩

def broken (f : Failure) : Outcome := ⟨1, "", "", some f⟩

def refused (message : String) : Outcome := ⟨1, "", "Error: " ++ message ++ "\n", none⟩

def misused (u : Usage) (m : Misuse) : Outcome := ⟨2, "", u.complaint m, none⟩

def helped (u : Usage) : Outcome := ⟨0, u.line, "", none⟩

def hindered (u : Usage) : Obstacle → Outcome
  | .misuse m => misused u m
  | .failure f => broken f

/-- The text, or the failure to make it. -/
def ofText : Except Failure String → Outcome
  | .ok text => success text
  | .error f => broken f

/-- What is written holds no terminal escapes. -/
def plain (o : Outcome) : Outcome :=
  { o with out := Text.withoutEscapes o.out, err := Text.withoutEscapes o.err }

end Outcome

inductive Command where
  | list
  | schema
  | call
  | check
  | presets
  deriving DecidableEq

namespace Command

def table : List (String × Command) := [
  ("list", .list), ("schema", .schema), ("call", .call), ("check", .check),
  ("presets", .presets)]

def help : Choice := ⟨"--help", false⟩

def name : Command → String
  | .list => "list"
  | .schema => "schema"
  | .call => "call"
  | .check => "check"
  | .presets => "presets"

/-- The commands that are about one tool. -/
def arguments : Command → List String
  | .schema => ["NAME"]
  | .call => ["NAME"]
  | _ => []

def options : Command → List Choice
  | .call => [⟨"--arg", true⟩, ⟨"--json-args", true⟩, help]
  | _ => [help]

def usage (c : Command) : Usage where
  words := "tool-forge " ++ c.name
  form := " ".intercalate ("[OPTIONS]" :: c.arguments)
  options := c.options
  arguments := c.arguments
  mixed := true

/-! ## What the commands do -/

/-- A tool in the list. -/
def row (tool : Tool) : Value :=
  .ofFields [("name", .text tool.name), ("description", .text tool.description),
    ("parameters", .text (", ".intercalate tool.inputSchema.propertyNames))]

/-- What is written about a call that fails. -/
def failed : CallError → Outcome
  | .notFound name => .refused (CallError.message (.notFound name))
  | e => .broken (.call e)

def runList (s : Session) : Outcome :=
  match s.registry.list.outcome with
  | .ok tools => .ofText (s.rows (tools.map row) ["name", "description", "parameters"])
  | .error e => failed e

def runSchema (s : Session) (name : String) : Outcome :=
  match (s.registry.get name).outcome with
  | .ok tool => .ofText (Session.document tool.toValue)
  | .error e => failed e

/-- The arguments written as one object. -/
def objectArguments : Option String → Except Misuse Arguments
  | none => .ok []
  | some text =>
    if text = "" then .ok []
    else
      match Json.read text with
      | .error e => .error (.badJson "--json-args" e)
      | .ok (.map es) => .ok es
      | .ok _ => .error (.notAnObject "--json-args")

/-- A value written alone; what is no JSON is a text, but half a character is no value. -/
def pairValue (text : String) : Except Misuse Value :=
  match Json.read text with
  | .ok v => .ok v
  | .error e => if e.fault = .surrogate then .error (.badJson "--arg" e) else .ok (.text text)

/-- Arguments with one more, written as a pair. -/
def addPair (es : Arguments) (word : String) : Except Misuse Arguments :=
  match splitPair word with
  | (_, none) => .error (.notAPair "--arg" word)
  | (name, some text) =>
    (pairValue text).map fun v => Value.insertEntry (.text name) v es

/-- The arguments of a call: those of the object, then those of the pairs. -/
def callArguments (object : Option String) (pairs : List String) : Except Misuse Arguments := do
  pairs.foldlM addPair (← objectArguments object)

def issueLine (issue : Issue) : String :=
  let path := issue.pathText
  "  - " ++ (if path = "" then "<arguments>" else path) ++ ": " ++ issue.cause.message ++ "\n"

/-- What is written about an answer. -/
def answered (name : String) : Except CallError Answer → Outcome
  | .ok (.prompt text _) => .success text
  | .ok (.rejected issues) =>
    ⟨1, "", "Invalid arguments for '" ++ name ++ "':\n" ++ String.join (issues.map issueLine), none⟩
  | .error e => failed e

def runCall (s : Session) (name : String) (object : Option String) (pairs : List String) :
    Outcome :=
  match callArguments object pairs with
  | .error m => .misused Command.call.usage m
  | .ok arguments => answered name (s.registry.invoke name (.map arguments)).outcome

/-- The problems of the declarations in a file, after the file's name. -/
def fileProblems (l : Loader) (p : Path) : Except LoadError (List String) := do
  let es ← (l.entries p).outcome
  (Document.follow (Document.lintSteps p es)).outcome
  return es.flatMap fun (key, entry) =>
    (lint key.display entry).map fun problem => p.name ++ ": " ++ problem.message

/-- What is written about the problems of so many files. -/
def checked (files : Nat) (problems : List String) : Outcome :=
  if problems.isEmpty then
    .success (toString files ++ " file(s) checked, no problems found.")
  else
    ⟨1, String.join (problems.map fun p => "  - " ++ p ++ "\n"),
      toString problems.length ++ " problem(s) found.\n", none⟩

def runCheck (s : Session) : Outcome :=
  let result := do
    let files ← (s.loader.sourceFiles s.presets s.directory).outcome
    let problems ← files.mapM (fileProblems s.loader)
    return (files.length, problems.flatten)
  match result with
  | .ok (files, problems) => checked files problems
  | .error e => .broken (.load e)

def runPresets (s : Session) : Outcome :=
  match s.loader.available.outcome with
  | .ok names => .ofText (s.rows (names.map fun n => .ofFields [("preset", .text n)]) ["preset"])
  | .error e => .broken (.load e)

/-- Runs a command on the words behind it. -/
def run (c : Command) (s : Session) (words : List String) : Outcome :=
  match c.usage.read words with
  | .error m => .misused c.usage m
  | .ok w =>
    if w.has "--help" then .helped c.usage
    else
      let name := w.rest.headD ""
      match c with
      | .list => runList s
      | .schema => runSchema s name
      | .call => runCall s name (w.value? "--json-args") (w.values "--arg")
      | .check => runCheck s
      | .presets => runPresets s

end Command

/-! ## The program -/

/-- The program before a command is known. -/
def programUsage : Usage where
  words := "tool-forge"
  form := "[OPTIONS] COMMAND [ARGS]..."
  options := [⟨"--preset", true⟩, ⟨"--config-dir", true⟩, ⟨"--format", true⟩,
    ⟨"--log-level", true⟩, Command.help]
  arguments := []
  mixed := false

/-- The words sorted, and the preferences in them; a call for help counts first. -/
def readProgram (fs : FileSystem) (words : List String) :
    Except Obstacle (Words × Option Preferences) :=
  match programUsage.sort words with
  | .error m => .error (.misuse m)
  | .ok w =>
    if w.has "--help" then .ok (w, none)
    else (Preferences.ofWords fs w).map fun p => (w, some p)

/-- A word that is no letter or digit at its start could be an option. -/
def resembles (name : String) : Bool :=
  match name.toList with
  | [] => false
  | c :: _ => !Text.isWord c || c = '_'

/-- What a word that names no command leads to: it may be a misplaced option. -/
def unknownCommand (fs : FileSystem) (name : String) (words : List String) : Outcome :=
  let similar := Text.closeMatches name (Command.table.map Prod.fst)
  if resembles name then
    match readProgram fs (name :: words) with
    | .error o => .hindered programUsage o
    | .ok (_, none) => .helped programUsage
    | .ok _ => .misused programUsage (.noSuchCommand name similar)
  else .misused programUsage (.noSuchCommand name similar)

/-- What the words of the command line lead to. -/
def outcome (around : Surroundings) (words : List String) : Outcome :=
  if words.isEmpty then ⟨2, "", programUsage.line, none⟩
  else
    match readProgram around.files words with
    | .error o => .hindered programUsage o
    | .ok (_, none) => .helped programUsage
    | .ok (w, some preferences) =>
      match w.rest with
      | [] => .misused programUsage .commandMissing
      | name :: words =>
        match Command.table.lookup name with
        | none => unknownCommand around.files name words
        | some c =>
          match Session.start around preferences with
          | .error f => .broken f
          | .ok s => c.run s words

/-- Runs the program. -/
def run (around : Surroundings) (words : List String) : Outcome := (outcome around words).plain

end DeclaredTools.CommandLine
