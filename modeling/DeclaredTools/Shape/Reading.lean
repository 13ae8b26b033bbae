/-
  Shapes out of plain data. Reading never fails: what names no known type is read as a text, and
  `Shape.fallbacks` lists where that happened.
-/
import DeclaredTools.Shape.Basic
import DeclaredTools.Value.Text

namespace DeclaredTools

/-- The types that a definition can name. -/
inductive TypeTag where
  | scalar (kind : ScalarKind)
  | enum
  | array
  | object
  deriving DecidableEq

namespace TypeTag

/-- The tags with their names, in the order in which they are documented. -/
def table : List (String × TypeTag) :=
  [("string", .scalar .string), ("number", .scalar .number), ("boolean", .scalar .boolean),
    ("array", .array), ("object", .object), ("enum", .enum)]

def ofValue? : Value → Option TypeTag
  | .text s => table.lookup s
  | _ => none

end TypeTag

/-- A place where a text stands in for something unreadable. -/
inductive Fallback where
  | notAMapping (path typeName : String)
  | unknownType (path : String) (tag : Value)

namespace Shape

/-- The type that a definition names, null if it names none. -/
def tagOf (es : List (Value × Value)) : Value := (Value.lookup "type" es).getD .null

/-- A text stands for itself, null for none, anything else for its display form. -/
def textOf : Value → Option String
  | .null => none
  | v => some v.display

def noteOf (es : List (Value × Value)) : Note where
  description := (Value.lookup "description" es).bind textOf
  required := ((Value.lookup "required" es).map Value.isTruthy).getD false
  default := Value.lookup "default" es

/-- The listed values; what is no list lists none. -/
def valuesOf (es : List (Value × Value)) : List Value :=
  match Value.lookup "enum" es with
  | some (.list vs) => vs
  | _ => []

mutual

/-- The shape that a definition describes. -/
def ofValue : Value → Shape
  | .map es =>
    match TypeTag.ofValue? (tagOf es) with
    | some (.scalar kind) => .scalar (noteOf es) kind
    | some .enum => .enum (noteOf es) (valuesOf es)
    | some .array => .array (noteOf es) (itemsOf es)
    | some .object => .object (noteOf es) (propertiesOf es)
    | none => .scalar (noteOf es) .string
  | _ => plain

/-- The shape under `items`, unless that is null. -/
def itemsOf : List (Value × Value) → Option Shape
  | [] => none
  | (k, v) :: es =>
    if k.isText "items" then
      match v with
      | .null => none
      | v => some (ofValue v)
    else itemsOf es

/-- The shapes under `properties`, if that is a map. -/
def propertiesOf : List (Value × Value) → Option (List (String × Shape))
  | [] => none
  | (k, v) :: es =>
    if k.isText "properties" then
      match v with
      | .map ps => some (OrderedMap.ofEntries (shapesOf ps))
      | _ => none
    else propertiesOf es

/-- The shape of every entry, under the text of its key. -/
def shapesOf : List (Value × Value) → List (String × Shape)
  | [] => []
  | (k, v) :: es => (k.display, ofValue v) :: shapesOf es

end

/-- Where a parameter stands, inside what stands at `path`. -/
def childPath (path name : String) : String := if path = "" then name else path ++ "." ++ name

mutual

/-- Where reading a definition that stands at `path` falls back to a text, in reading order. -/
def fallbacks (path : String) : Value → List Fallback
  | .map es =>
    match TypeTag.ofValue? (tagOf es) with
    | some .array => itemFallbacks path es
    | some .object => propertyFallbacks path es
    | some _ => []
    | none => [.unknownType path (tagOf es)]
  | v => [.notAMapping path v.typeName]

def itemFallbacks (path : String) : List (Value × Value) → List Fallback
  | [] => []
  | (k, v) :: es =>
    if k.isText "items" then
      match v with
      | .null => []
      | v => fallbacks (path ++ " items") v
    else itemFallbacks path es

def propertyFallbacks (path : String) : List (Value × Value) → List Fallback
  | [] => []
  | (k, v) :: es =>
    if k.isText "properties" then
      match v with
      | .map ps => entryFallbacks path ps
      | _ => []
    else propertyFallbacks path es

def entryFallbacks (path : String) : List (Value × Value) → List Fallback
  | [] => []
  | (k, v) :: es => fallbacks (childPath path k.display) v ++ entryFallbacks path es

end

end Shape

namespace Parameters

/-- The parameters that a map defines; of keys with one text the last counts. -/
def ofValue : Value → Parameters
  | .map es => OrderedMap.ofEntries (Shape.shapesOf es)
  | _ => []

def fallbacks (path : String) : Value → List Fallback
  | .map es => Shape.entryFallbacks path es
  | _ => []

end Parameters

end DeclaredTools
