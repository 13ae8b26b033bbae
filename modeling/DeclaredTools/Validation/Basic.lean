/-
  Validation of arguments against shapes. Nothing is converted: a value is taken as it is, or
  rejected with every issue in it. Records keep their declared properties only, in declared order,
  with defaults for the absent ones.
-/
import DeclaredTools.Shape.Basic
import DeclaredTools.Text.Utf8
import DeclaredTools.Validation.Issue
import DeclaredTools.Validation.ModelName

namespace DeclaredTools

/-- An accepted value, or the issues of a rejected one. -/
abbrev Checked (α : Type) := Except (List Issue) α

namespace Checked

/-- All results, or the issues of all that failed, in order. -/
def gather {α : Type} : List (Except (List Issue) α) → Except (List Issue) (List α)
  | [] => .ok []
  | r :: rs =>
    match r, gather rs with
    | .ok a, .ok as => .ok (a :: as)
    | .ok _, .error issues => .error issues
    | .error issues, .ok _ => .error issues
    | .error issues, .error more => .error (issues ++ more)

/-- A result as seen from one step further out. -/
def under {α : Type} (step : Step) (r : Except (List Issue) α) : Except (List Issue) α :=
  r.mapError fun issues => issues.map (Issue.under step)

def reject {α : Type} (cause : Cause) : Except (List Issue) α := .error [Issue.here cause]

end Checked

namespace Validation

open Checked (gather under reject)

/-- Both are texts, both truth values, both numbers, and so on. -/
def sameKind (a b : Value) : Bool :=
  if a.isNumber || b.isNumber then a.isNumber && b.isNumber else a.typeName == b.typeName

/-- The value is one of the choices, of the same kind. -/
def isAmong (choices : List Value) (v : Value) : Bool :=
  choices.any fun c => sameKind v c && v.same c

def checkScalar : ScalarKind → Value → Except (List Issue) Value
  | .string, .text s => .ok (.text s)
  | .string, _ => reject .notText
  | .boolean, .bool b => .ok (.bool b)
  | .boolean, _ => reject .notBoolean
  | .number, v => if v.isNumber then .ok v else reject .notNumber

/-- An enumeration without values admits the empty text. -/
def choicesOf (values : List Value) : List Value := if values.isEmpty then [.text ""] else values

def checkChoice (choices : List Value) (v : Value) : Except (List Issue) Value :=
  if isAmong choices v then .ok v else reject (.notAmong choices)

/-- Every element by itself, with its index. -/
def checkElements (check : Value → Except (List Issue) Value) (xs : List Value) :
    Except (List Issue) Value :=
  (gather (xs.mapIdx fun i x => under (.index i) (check x))).map .list

/-- A key of an open map is a text, or the bytes of one. -/
def checkKey : Value → Except (List Issue) String
  | .text s => .ok s
  | .bytes bs =>
    match Text.Utf8.decode bs with
    | .ok s => .ok s
    | .error _ => reject .undecodableText
  | _ => reject .notText

def checkOpenMap (es : List (Value × Value)) : Except (List Issue) Value :=
  (gather (es.map fun (k, v) =>
    (under (.ofKey k) (under (.name "[key]") (checkKey k))).map fun s => (s, v))).map
    fun fields => Value.ofFields (OrderedMap.ofEntries fields)

/-- The key under which a record returns the property at `index`: its name, if it has one. -/
def outputName (index : Nat) (name : String) : String :=
  if name = "" then "field_" ++ toString index else name

/-- What an absent value stands for: its default, or nothing unless it is required. -/
def checkAbsent (note : Note) : Except (List Issue) (Option Value) :=
  match note.default with
  | some v => .ok (some v)
  | none => if note.required then reject .missing else .ok none

/-- The fields of a record as a value. -/
def recordOf (fields : List (Option (String × Value))) : Value :=
  Value.ofFields (OrderedMap.ofEntries (fields.filterMap id))

mutual

/-- Checks a value against a shape; `model` names the records of the shape in messages. -/
def check (model : String) : Shape → Value → Except (List Issue) Value
  | .scalar _ kind, v => checkScalar kind v
  | .enum _ values, v => checkChoice (choicesOf values) v
  | .array _ none, .list xs => checkElements (checkScalar .string) xs
  | .array _ (some items), .list xs =>
    checkElements (fun x => check (ModelName.item model) items x) xs
  | .array _ _, _ => reject .notList
  | .object _ none, .map es => checkOpenMap es
  | .object _ none, _ => reject .notMapping
  | .object _ (some ps), .map es => (gather (checkFields model 0 ps es)).map recordOf
  | .object _ (some _), _ => reject (.notRecord model)

/-- Checks the entries of a map against the properties from the one at `index` on. -/
def checkFields (model : String) (index : Nat) :
    List (String × Shape) → List (Value × Value) →
      List (Except (List Issue) (Option (String × Value)))
  | [], _ => []
  | (name, shape) :: ps, es =>
    let field :=
      match Value.lookup name es with
      | some v => (check (ModelName.property model name) shape v).map some
      | none => checkAbsent shape.note
    (under (.name name) field).map (·.map fun v => (outputName index name, v))
      :: checkFields model (index + 1) ps es

end

/-- Checks a value against the properties of a record. -/
def checkRecord (model : String) (ps : List (String × Shape)) : Value → Except (List Issue) Value
  | .map es => (gather (checkFields model 0 ps es)).map recordOf
  | _ => reject (.notRecord model)

/-- The lines of a rejection, or a word for an accepted value. -/
def summary : Except (List Issue) Value → String
  | .ok _ => "valid"
  | .error issues => "; ".intercalate (issues.map (Issue.line "<root>"))

end Validation

/-- Validates a value that may be absent against a shape. -/
def Shape.validate (shape : Shape) : Option Value → Except (List Issue) Value
  | some v => Validation.check "Value" shape v
  | none => (Validation.checkAbsent shape.note).map (·.getD .null)

/-- Validates arguments; `model` names their record. They may not be absent. -/
def Parameters.validate (ps : Parameters) (model : String) :
    Option Value → Except (List Issue) Value
  | some v => Validation.checkRecord model ps v
  | none => Checked.reject .missing

end DeclaredTools
