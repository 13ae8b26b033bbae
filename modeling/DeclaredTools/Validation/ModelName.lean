/-
  Names of the records in messages: words run together, each with a capital.
-/
import DeclaredTools.Text.Case
import DeclaredTools.Text.Word
import DeclaredTools.Text.Blank

namespace DeclaredTools.ModelName

/-- The part that a property adds to the name of its record. -/
def suffix (name : String) : String :=
  let words := String.ofList (name.toList.map fun c => if Text.isWord c then c else '_')
  let joined := String.ofList ((Text.title words).toList.filter (· ≠ '_'))
  if joined = "" then "Field" else joined

/-- The name of the record under a property. -/
def property (model name : String) : String := model ++ "_" ++ suffix name

/-- The name of the record that an array holds. -/
def item (model : String) : String := model ++ "Item"

/-- A record can have this name; the null character is in no name. -/
def isSound (name : String) : Bool := !name.toList.contains '\x00'

/-- The name of the record of a tool's arguments. -/
def arguments (tool : String) : String :=
  let bar := tool.toList.map fun c => if c = '-' then '_' else c
  String.join ((Text.splitOn '_' bar).map fun part => Text.title (String.ofList part))
    ++ "Arguments"

example : arguments "advanced-tool_x" = "AdvancedToolXArguments" := by decide +kernel

end DeclaredTools.ModelName
