/-
  What keeps a shape from being compiled. The message of an enumeration lists its choices, so each
  of them has to have a text, and every record has to have a name. The records within others go
  first.
-/
import DeclaredTools.Validation.Basic

namespace DeclaredTools

/-- Why a shape cannot be compiled. -/
inductive CompileError where
  /-- A choice has no text. -/
  | choice (e : Unwritable)
  /-- The name of a record holds the null character. -/
  | nullName
  deriving DecidableEq

def CompileError.message : CompileError → String
  | .choice e => e.message
  | .nullName => "type name must not contain null characters"

namespace Validation

def choicesObstacle (choices : List Value) : Option CompileError :=
  if Value.areWritable choices then none else some (.choice .longInteger)

/-- All records are named after the outermost one, so all of them can have their names or none. -/
def recordObstacle (named : Bool) : Option CompileError := if named then none else some .nullName

mutual

/-- What keeps a shape from being compiled, if anything does; of several things the first. -/
def obstacle (named : Bool) : Shape → Option CompileError
  | .enum _ values => choicesObstacle (choicesOf values)
  | .array _ (some items) => obstacle named items
  | .object _ (some ps) => (propertyObstacle named ps).or (recordObstacle named)
  | _ => none

/-- What keeps one of the properties from being compiled. -/
def propertyObstacle (named : Bool) : List (String × Shape) → Option CompileError
  | [] => none
  | (_, shape) :: ps => (obstacle named shape).or (propertyObstacle named ps)

end

end Validation

/-- What keeps parameters from being compiled; their record is named after `name`. -/
def Parameters.obstacle (ps : Parameters) (name : String) : Option CompileError :=
  let named := ModelName.isSound name
  (Validation.propertyObstacle named ps).or (Validation.recordObstacle named)

end DeclaredTools
