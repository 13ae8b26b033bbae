/-
  Advertised schemas: what a caller is told about a shape, and their wire form.
-/
import DeclaredTools.Shape.Basic

namespace DeclaredTools

/-- What a schema says beside the type. -/
structure Annotations where
  description : Option String
  default : Option Value

/-- A record declares its properties and which of them are required; an open map admits any. -/
inductive Schema where
  | primitive (kind : ScalarKind) (choices : Option (List Value)) (notes : Annotations)
  | array (items : Schema) (notes : Annotations)
  | record (properties : List (String × Schema)) (required : List String) (notes : Annotations)
  | openMap (notes : Annotations)

namespace Schema

/-- The notes as members of the wire form; an empty description is left out. -/
def noteFields (notes : Annotations) : List (String × Value) :=
  (match notes.description with
    | some d => if d = "" then [] else [("description", .text d)]
    | none => [])
  ++ (match notes.default with
    | some v => [("default", v)]
    | none => [])

mutual

/-- The wire form. -/
def toValue : Schema → Value
  | .primitive kind choices notes =>
    Value.ofFields ([("type", .text kind.name)]
      ++ (match choices with
          | some vs => [("enum", .list vs)]
          | none => [])
      ++ noteFields notes)
  | .array items notes =>
    Value.ofFields ([("type", .text "array"), ("items", toValue items)] ++ noteFields notes)
  | .record properties required notes =>
    Value.ofFields ([("type", .text "object"), ("properties", .map (fieldValues properties))]
      ++ (if required.isEmpty then [] else [("required", .list (required.map .text))])
      ++ noteFields notes)
  | .openMap notes =>
    Value.ofFields ([("type", .text "object"), ("additionalProperties", .bool true)]
      ++ noteFields notes)

def fieldValues : List (String × Schema) → List (Value × Value)
  | [] => []
  | (name, schema) :: fields => (.text name, toValue schema) :: fieldValues fields

end

/-- The declared properties of a record. -/
def propertyNames : Schema → List String
  | .record properties _ _ => properties.map (·.1)
  | _ => []

end Schema

namespace Shape

/-- The names of the parameters that are required, in order. -/
def requiredNames : List (String × Shape) → List String
  | [] => []
  | (name, shape) :: ps =>
    if shape.note.required then name :: requiredNames ps else requiredNames ps

def annotations (note : Note) : Annotations := ⟨note.description, note.default⟩

/-- The schema of array items that no shape describes. -/
def plainSchema : Schema := .primitive .string none ⟨none, none⟩

mutual

/-- The schema that advertises a shape. -/
def schema : Shape → Schema
  | .scalar note kind => .primitive kind none (annotations note)
  | .enum note values => .primitive (enumKind values) (some values) (annotations note)
  | .array note none => .array plainSchema (annotations note)
  | .array note (some items) => .array (schema items) (annotations note)
  | .object note none => .openMap (annotations note)
  | .object note (some ps) => .record (schemas ps) (requiredNames ps) (annotations note)

def schemas : List (String × Shape) → List (String × Schema)
  | [] => []
  | (name, shape) :: ps => (name, schema shape) :: schemas ps

end

end Shape

/-- The schema of a whole set of parameters. -/
def Parameters.schema (ps : Parameters) : Schema :=
  .record (Shape.schemas ps) (Shape.requiredNames ps) ⟨none, none⟩

end DeclaredTools
