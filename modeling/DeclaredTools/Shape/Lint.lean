/-
  Problems of parameter definitions. They are advice: a definition with problems can be read.
-/
import DeclaredTools.Shape.Reading

namespace DeclaredTools

inductive Problem where
  | toolNotMapping (key : String)
  | parametersNotMapping (key : String)
  | notMapping (path : String)
  | missingType (path : String)
  | invalidType (path : String) (tag : Value)
  | emptyEnum (path : String)
  | mixedEnum (path : String)
  | untypedItems (path : String)

namespace Problem

private def named (noun name : String) : String := noun ++ " \"" ++ name ++ "\""

def message : Problem → String
  | .toolNotMapping key => named "Tool" key ++ " must be a mapping"
  | .parametersNotMapping key => named "Parameters of tool" key ++ " must be a mapping"
  | .notMapping path => named "Parameter" path ++ " must be a mapping"
  | .missingType path => named "Parameter" path ++ " is missing type property"
  | .invalidType path tag => named "Parameter" path ++ " has invalid type \"" ++ tag.display ++ "\""
  | .emptyEnum path =>
    named "Parameter" path ++ " of type \"enum\" must have a non-empty enum array"
  | .mixedEnum path => named "Parameter" path ++ " mixes string and number enum values"
  | .untypedItems path => named "Items in array parameter" path ++ " must specify a type"

end Problem

namespace Shape

/-- Some of the values are numbers and some are not. -/
def isMixed (vs : List Value) : Bool := vs.any Value.isNumber && !vs.all Value.isNumber

/-- An enumeration lists at least one value, and only numbers or no numbers. -/
def enumProblems (path : String) (es : List (Value × Value)) : List Problem :=
  match Value.lookup "enum" es with
  | some (.list (v :: vs)) => if isMixed (v :: vs) then [.mixedEnum path] else []
  | _ => [.emptyEnum path]

/-- A definition names a type, known or not. -/
def namesType (v : Value) : Bool := ((v.get? "type").map Value.isTruthy).getD false

mutual

/-- The problems of a definition that stands at `path`. -/
def problems (path : String) : Value → List Problem
  | .map es =>
    if !(tagOf es).isTruthy then [.missingType path]
    else
      match TypeTag.ofValue? (tagOf es) with
      | none => [.invalidType path (tagOf es)]
      | some .enum => enumProblems path es
      | some .object => propertyProblems path es
      | some .array => itemProblems path es
      | some (.scalar _) => []
  | _ => [.notMapping path]

def propertyProblems (path : String) : List (Value × Value) → List Problem
  | [] => []
  | (k, v) :: es =>
    if k.isText "properties" then
      match v with
      | .map ps => memberProblems path ps
      | _ => []
    else propertyProblems path es

def memberProblems (path : String) : List (Value × Value) → List Problem
  | [] => []
  | (k, v) :: es => problems (path ++ "." ++ k.display) v ++ memberProblems path es

def itemProblems (path : String) : List (Value × Value) → List Problem
  | [] => []
  | (k, v) :: es =>
    if k.isText "items" then
      if namesType v then problems (path ++ " items") v else [.untypedItems path]
    else itemProblems path es

end

/-- The problems of the entries of a map of parameters. -/
def parameterProblems : List (Value × Value) → List Problem
  | [] => []
  | (k, v) :: es => problems k.display v ++ parameterProblems es

end Shape

/-- The problems of a declaration's parameters. -/
def lint (key : String) : Value → List Problem
  | .map es =>
    match (Value.lookup "parameters" es).getD .null with
    | .null => []
    | .map ps => Shape.parameterProblems ps
    | _ => [.parametersNotMapping key]
  | _ => [.toolNotMapping key]

end DeclaredTools
