/-
  The registry: a declaration set seen as tools that can be called. It compiles its declarations at
  the first use and keeps the tools that this gave.
-/
import DeclaredTools.Prompt.Basic
import DeclaredTools.Report
import DeclaredTools.Schema.Basic
import DeclaredTools.Validation.Compiling

namespace DeclaredTools

/-- What a declaration offers to callers. -/
structure Tool where
  name : String
  description : String
  parameters : Parameters
  declaration : Declaration

namespace Tool

def ofDeclaration (d : Declaration) : Tool :=
  ⟨d.registeredName, d.description.join.getD "", d.parameterList, d⟩

/-- What the tool takes. -/
def inputSchema (tool : Tool) : Schema := tool.parameters.schema

/-- The tool as callers see it. -/
def toValue (tool : Tool) : Value :=
  .ofFields [("name", .text tool.name), ("description", .text tool.description),
    ("input_schema", tool.inputSchema.toValue)]

/-- Arguments of a call, checked against the parameters. -/
def validate (tool : Tool) (arguments : Value) : Except (List Issue) Value :=
  tool.parameters.validate (ModelName.arguments tool.name) (some arguments)

end Tool

/-- Why a registry has no answer. -/
inductive CallError where
  | notFound (name : String)
  /-- An argument has no text. -/
  | text (e : Unwritable)
  /-- A declaration cannot be compiled. -/
  | compile (e : CompileError)

/-- The answer to a call: the prompt and the arguments in it, or the issues of the arguments. -/
inductive Answer where
  | prompt (text : String) (arguments : Value)
  | rejected (issues : List Issue)

namespace CallError

def message : CallError → String
  | .notFound name => "Tool '" ++ name ++ "' not found"
  | .text e => e.message
  | .compile e => e.message

end CallError

/-- Work of a registry. -/
abbrev Serving := Report CallError

/-- What keeps the tool of a declaration from being compiled. -/
def Declaration.obstacle (d : Declaration) : Option CompileError :=
  d.parameterList.obstacle d.registeredName

/-- Tools by the names under which they are called. -/
abbrev ToolTable := OrderedMap Tool

namespace ToolTable

/-- Declarations with their keys, in the order of the keys. -/
def inKeyOrder (set : DeclarationSet) : List (String × Declaration) :=
  set.mergeSort fun a b => decide (a.1 ≤ b.1)

/-- What adding an enabled declaration reports. -/
def addEvents (tools : ToolTable) (key : String) (d : Declaration) : List Event :=
  match tools.get? d.registeredName with
  | some old => [.duplicateName d.registeredName old.declaration.key key]
  | none => []

/-- The table with the tool of a declaration, if that is enabled. -/
def add (tools : ToolTable) (key : String) (d : Declaration) : Serving ToolTable :=
  if !d.isEnabled then ⟨[.toolDisabled key], .ok tools⟩
  else
    match d.obstacle with
    | some e => .stop (.compile e)
    | none => ⟨tools.addEvents key d, .ok (tools.insert d.registeredName (.ofDeclaration d))⟩

/-- The tools of the enabled declarations; of those with one name the greatest key counts. -/
def compile (set : DeclarationSet) : Serving ToolTable := do
  let tools ← (inKeyOrder set).foldlM (fun (tools : ToolTable) (key, d) => tools.add key d) []
  .tell [.registryCompiled tools.length]
  return tools

end ToolTable

/-- A declaration set, and the tools compiled from it at the first use. -/
structure Registry where
  declarations : DeclarationSet
  compiled : Option ToolTable

namespace Tool

/-- The entries of a map. -/
private def entriesOf : Value → Arguments
  | .map es => es
  | _ => []

/-- Validates the arguments and renders the prompt. -/
def call (tool : Tool) (arguments : Value) : Except CallError Answer :=
  match tool.validate arguments with
  | .error issues => .ok (.rejected issues)
  | .ok accepted =>
    match Prompt.ofDeclaration tool.declaration (entriesOf accepted) with
    | .ok text => .ok (.prompt text accepted)
    | .error e => .error (.text e)

end Tool

namespace Registry

def ofSet (set : DeclarationSet) : Registry := ⟨set, none⟩

/-- The tools, compiled now if they were not before. -/
def tools (r : Registry) : Serving ToolTable :=
  match r.compiled with
  | some tools => pure tools
  | none => ToolTable.compile r.declarations

/-- The registry after a use. -/
def used (r : Registry) : Registry := ⟨r.declarations, r.tools.outcome.toOption⟩

/-- The tools in the order of their first keys. -/
def list (r : Registry) : Serving (List Tool) := do
  return (← r.tools).map (·.2)

def get (r : Registry) (name : String) : Serving Tool := do
  match (← r.tools).get? name with
  | some tool => return tool
  | none => .stop (.notFound name)

/-- What a call reports beside the use of the registry. -/
def answerEvents (name : String) : Answer → List Event
  | .prompt .. => [.toolInvoked name]
  | .rejected issues => [.argumentsRejected name issues.length]

/-- Calls a tool by its name. -/
def invoke (r : Registry) (name : String) (arguments : Value) : Serving Answer := do
  let answer ← .ofExcept ((← r.get name).call arguments)
  .tell (answerEvents name answer)
  return answer

/-- Merges declarations into those of the registry; compiled tools stay as they are. -/
def merge (r : Registry) (overlay : DeclarationSet) : Registry :=
  ⟨r.declarations.merge overlay, r.compiled⟩

/-- The registry with its declarations compiled as they stand now. -/
def rebuild (r : Registry) : Serving Registry := do
  return ⟨r.declarations, some (← ToolTable.compile r.declarations)⟩

end Registry

end DeclaredTools
