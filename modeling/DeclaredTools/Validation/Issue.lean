/-
  Issues: where in an argument something is wrong, and what.
-/
import DeclaredTools.Value.Text

namespace DeclaredTools

/-- One step from a value to a part of it. -/
inductive Step where
  | name (s : String)
  | index (i : Int)
  deriving DecidableEq

/-- What is wrong with a value. -/
inductive Cause where
  | missing
  | notText
  | undecodableText
  | notBoolean
  | notNumber
  | notAmong (choices : List Value)
  | notList
  | notMapping
  | notRecord (model : String)

/-- Something wrong at the end of a path. -/
structure Issue where
  path : List Step
  cause : Cause

namespace Step

/-- What a key that is no text goes by: its literal form, or its type where there is none. -/
def keyName (k : Value) : String :=
  match k.writtenLiteral with
  | .ok text => text
  | .error _ => "<unprintable " ++ k.typeName ++ " object>"

/-- The step to the entry under a key: small integers and truth values count as indices. -/
def ofKey : Value → Step
  | .text s => .name s
  | .bool b => .index b.toInt
  | .int n =>
    if -9223372036854775808 ≤ n ∧ n ≤ 9223372036854775807 then .index n
    else .name (keyName (.int n))
  | v => .name (keyName v)

/-- The text of a path that is continued by a step. -/
def append (path : String) : Step → String
  | .index i => path ++ "[" ++ toString i ++ "]"
  | .name s => if path = "" then s else path ++ "." ++ s

/-- The text of a path: indices in brackets, names behind points. -/
def pathText (steps : List Step) : String := steps.foldl append ""

end Step

namespace Cause

def code : Cause → String
  | .missing => "missing"
  | .notText => "string_type"
  | .undecodableText => "string_unicode"
  | .notBoolean => "bool_type"
  | .notNumber => "number_type"
  | .notAmong _ => "enum"
  | .notList => "list_type"
  | .notMapping => "dict_type"
  | .notRecord _ => "model_type"

def message : Cause → String
  | .missing => "Field required"
  | .notText => "Input should be a valid string"
  | .undecodableText =>
    "Input should be a valid string, unable to parse raw data as a unicode string"
  | .notBoolean => "Input should be a valid boolean"
  | .notNumber => "Input should be a valid number"
  | .notAmong choices =>
    "Input should be one of: " ++ ", ".intercalate (choices.map Value.literal)
  | .notList => "Input should be a valid list"
  | .notMapping => "Input should be a valid dictionary"
  | .notRecord model => "Input should be a valid dictionary or instance of " ++ model

end Cause

namespace Issue

/-- The whole value is wrong. -/
def here (cause : Cause) : Issue := ⟨[], cause⟩

/-- The issue as seen from one step further out. -/
def under (step : Step) (issue : Issue) : Issue := ⟨step :: issue.path, issue.cause⟩

def pathText (issue : Issue) : String := Step.pathText issue.path

/-- The path, or `root` for the whole value, and the message. -/
def line (root : String) (issue : Issue) : String :=
  (if issue.pathText = "" then root else issue.pathText) ++ ": " ++ issue.cause.message

end Issue

end DeclaredTools
