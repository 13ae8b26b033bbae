/-
  Prompts: the text of a call. It consists of the rendered prompt and context, the arguments that
  neither mentions, and the tools to use.
-/
import DeclaredTools.Declaration.Basic
import DeclaredTools.Prompt.Template

namespace DeclaredTools

namespace ListedTool

/-- The name with what is said about the tool. -/
def line (tool : ListedTool) : String :=
  tool.name
    ++ (if tool.description = "" then "" else ": " ++ tool.description)
    ++ (if tool.prompt = "" then ""
        else (if tool.description = "" then ": " else " - ") ++ tool.prompt)
    ++ (if tool.optional then " (Optional)" else "")

end ListedTool

namespace Prompt

def toolsHeader : String := "## Available Tools"

def sequentialIntro : String :=
  "If all required user input/feedback is acquired or if no input/feedback is needed, "
    ++ "execute this exact sequence of tools to complete this task:"

def situationalIntro : String :=
  "Use these tools as needed to complete the user's request:"

def nextSteps : String :=
  "After using each tool, return a 'Next Steps' section with a list of the next steps "
    ++ "to take / remaining tools to invoke along with each tool's prompt/description and "
    ++ "'optional' flag if present."

/-- The lines of the tools: numbered from 1 if they form a sequence, else with hyphens. -/
def toolLines (tools : List ListedTool) (sequential : Bool) : List String :=
  tools.mapIdx fun i tool =>
    (if sequential then toString (i + 1) ++ ". " else "- ") ++ tool.line ++ "\n"

/-- The text with a section on the tools, if there are any. -/
def withTools (text : String) (tools : List ListedTool) (sequential : Bool) : String :=
  if tools.isEmpty then text
  else
    text ++ "\n\n" ++ toolsHeader ++ "\n"
      ++ (if sequential then sequentialIntro else situationalIntro) ++ "\n\n"
      ++ String.join (toolLines tools sequential) ++ "\n" ++ nextSteps

/-- A section behind what there is already. -/
def append (text more : String) : String := if text = "" then more else text ++ "\n\n" ++ more

/-- The context with its arguments put in, if there is one. -/
def renderContext (context : Option String) (args : Arguments) :
    Except Unwritable (Option Rendered) :=
  match context with
  | none => .ok none
  | some c => if c = "" then .ok none else (Template.render (some c) args).map some

/-- The arguments that the text did not use. -/
def unused (args : Arguments) (used : List String) : Arguments :=
  args.filter fun (k, _) => !used.any fun name => k.isText name

/-- One line for every argument. -/
def parameterLines (args : Arguments) : Except Unwritable (List String) :=
  args.mapM fun (k, v) => do return "- " ++ (← k.written) ++ ": " ++ (← stringify v)

/-- The prompt of a declaration for a call with the arguments. -/
def ofDeclaration (d : Declaration) (args : Arguments) : Except Unwritable String := do
  let prompt ← Template.render d.prompt.join args
  let context ← renderContext d.context.join args
  let text :=
    match context with
    | some c => append prompt.text c.text
    | none => prompt.text
  let rest := unused args (prompt.used ++ (context.map (·.used)).getD [])
  let lines ← parameterLines rest
  let text :=
    if lines.isEmpty then text else append text ("## Parameters\n" ++ "\n".intercalate lines)
  return withTools text (ToolRefs.listed d.tools.join) (d.toolMode.join = some .sequential)

end Prompt

end DeclaredTools
