/-
  Shapes of parameters: what kind of value a parameter takes, with its description, whether it is
  required, and its default.
-/
import DeclaredTools.OrderedMap
import DeclaredTools.Value.Basic

namespace DeclaredTools

inductive ScalarKind where
  | string
  | number
  | boolean
  deriving DecidableEq

def ScalarKind.name : ScalarKind → String
  | .string => "string"
  | .number => "number"
  | .boolean => "boolean"

/-- What every shape carries. A default that is null is a default. -/
structure Note where
  description : Option String
  required : Bool
  default : Option Value

/-- An array without items holds texts; an object without properties holds anything. -/
inductive Shape where
  | scalar (note : Note) (kind : ScalarKind)
  | enum (note : Note) (values : List Value)
  | array (note : Note) (items : Option Shape)
  | object (note : Note) (properties : Option (List (String × Shape)))

/-- Parameters by name. -/
abbrev Parameters := OrderedMap Shape

namespace Shape

def note : Shape → Note
  | .scalar note _ => note
  | .enum note _ => note
  | .array note _ => note
  | .object note _ => note

/-- A text that nothing is said about. -/
def plain : Shape := .scalar ⟨none, false, none⟩ .string

/-- The kind of an enumeration is that of its first value. -/
def enumKind : List Value → ScalarKind
  | v :: _ => if v.isNumber then .number else .string
  | [] => .string

end Shape

end DeclaredTools
