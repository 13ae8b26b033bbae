/-
  The wire form of schemas, read by the names of its members. It has the members that belong to the
  type and, behind them, the notes (`get?_toValue`); where a property or the items of an array stand
  in it, there are their schemas (`Schema.at?`).
-/
import DeclaredTools.Proofs.Schema.Conformance
import DeclaredTools.Proofs.Shape.Reading
import DeclaredTools.Validation.Issue

namespace DeclaredTools

open OrderedMap

namespace Schema

/-! ## Members of wire forms -/

/-- The members of the wire form that are no notes. -/
def members : Schema → List (String × Value)
  | .primitive kind choices _ =>
    [("type", .text kind.name)] ++ (match choices with
      | some vs => [("enum", .list vs)]
      | none => [])
  | .array items _ => [("type", .text "array"), ("items", toValue items)]
  | .record properties required _ =>
    [("type", .text "object"), ("properties", .map (fieldValues properties))]
      ++ (if required.isEmpty then [] else [("required", .list (required.map .text))])
  | .openMap _ => [("type", .text "object"), ("additionalProperties", .bool true)]

def notes : Schema → Annotations
  | .primitive _ _ notes => notes
  | .array _ notes => notes
  | .record _ _ notes => notes
  | .openMap notes => notes

theorem get?_ofFields (name : String) (fields : List (String × Value)) :
    (Value.ofFields fields).get? name = OrderedMap.get? name fields :=
  Value.lookup_fields name fields

theorem get?_noteFields (notes : Annotations) (name : String) :
    OrderedMap.get? name (noteFields notes) =
      if name = "description" then (notes.description.filter (· ≠ "")).map .text
      else if name = "default" then notes.default else none := by
  obtain ⟨description, default⟩ := notes
  have hdefault : OrderedMap.get? name (noteFields ⟨none, default⟩) =
      if name = "default" then default else none := by
    cases default <;> simp [noteFields, get?_cons, eq_comm]
  rw [noteFields, get?_append]
  refine (congrArg _ hdefault).trans ?_
  cases description with
  | none => by_cases hname : name = "description" <;> simp [hname]
  | some d =>
    have hfilter : (some d).filter (· ≠ "") = if d = "" then none else some d := by
      by_cases hd : d = "" <;> simp [Option.filter, hd]
    rw [hfilter]
    by_cases hname : name = "description"
    · subst hname
      by_cases hd : d = "" <;> simp [hd, get?_cons]
    · have hne : "description" ≠ name := Ne.symm hname
      by_cases hd : d = "" <;> simp [hname, hne, hd, get?_cons]

theorem get?_toValue (s : Schema) (name : String) :
    s.toValue.get? name =
      (OrderedMap.get? name s.members).or (OrderedMap.get? name (noteFields s.notes)) := by
  have hfields : s.toValue = Value.ofFields (s.members ++ noteFields s.notes) := by
    cases s <;> rfl
  rw [hfields, get?_ofFields, get?_append]

/-- What is no note is among the members. -/
theorem get?_toValue_of_ne (s : Schema) {name : String} (hdescription : name ≠ "description")
    (hdefault : name ≠ "default") : s.toValue.get? name = OrderedMap.get? name s.members := by
  rw [get?_toValue, get?_noteFields, if_neg hdescription, if_neg hdefault, Option.or_none]

theorem get?_members_note (s : Schema) {name : String}
    (hname : name = "description" ∨ name = "default") :
    OrderedMap.get? name s.members = none := by
  rcases hname with rfl | rfl
  all_goals
    cases s with
    | primitive kind choices _ => cases choices <;> simp [members, get?_cons]
    | array items _ => simp [members, get?_cons]
    | record properties required _ => cases required <;> simp [members, get?_cons]
    | openMap _ => simp [members, get?_cons]

theorem get?_default_toValue (s : Schema) : s.toValue.get? "default" = s.notes.default := by
  rw [get?_toValue, get?_members_note s (by simp), get?_noteFields]
  simp

theorem get?_description_toValue (s : Schema) :
    s.toValue.get? "description" = (s.notes.description.filter (· ≠ "")).map .text := by
  rw [get?_toValue, get?_members_note s (by simp), get?_noteFields]
  simp

/-! ## Required and declared names -/

/-- The names that a schema in wire form lists as required. -/
def requiredIn (wire : Value) : List String :=
  match wire.get? "required" with
  | some (.list names) => names.filterMap fun name => match name with
    | .text s => some s
    | _ => none
  | _ => []

/-- The names that a schema lists as required; only a record lists any. -/
def requiredOf : Schema → List String
  | .record _ required _ => required
  | _ => []

theorem get?_required_toValue (s : Schema) :
    s.toValue.get? "required" =
      if s.requiredOf = [] then none else some (.list (s.requiredOf.map .text)) := by
  rw [get?_toValue_of_ne s (by decide) (by decide)]
  cases s with
  | primitive kind choices _ => cases choices <;> rfl
  | array items _ => rfl
  | record properties required _ => cases required <;> rfl
  | openMap _ => rfl

theorem requiredIn_toValue (s : Schema) : requiredIn s.toValue = s.requiredOf := by
  rw [requiredIn, get?_required_toValue]
  by_cases h : s.requiredOf = []
  · rw [if_pos h, h]
  · rw [if_neg h]
    dsimp only
    rw [List.filterMap_map]
    exact List.filterMap_some

/-- The names of the properties that a schema in wire form declares, in order. -/
def declaredIn : Value → List String
  | .map keywords => declaredNames keywords
  | _ => []

theorem textKeys_fieldValues (properties : List (String × Schema)) :
    ((fieldValues properties).filterMap fun p => match p.1 with
      | .text name => some name
      | _ => none) = properties.map Prod.fst := by
  induction properties with
  | nil => rfl
  | cons p properties ih =>
    obtain ⟨name, s⟩ := p
    rw [fieldValues, List.filterMap_cons, ih]
    rfl

theorem declaredIn_eq_nil {wire : Value} (h : wire.get? "properties" = none) :
    declaredIn wire = [] := by
  cases wire with
  | map keywords =>
    have hkeywords : Value.lookup "properties" keywords = none := h
    rw [declaredIn, declaredNames, hkeywords]
  | _ => rfl

theorem declaredIn_of_properties {wire : Value} {properties : List (String × Schema)}
    (h : wire.get? "properties" = some (.map (fieldValues properties))) :
    declaredIn wire = properties.map Prod.fst := by
  cases wire with
  | map keywords =>
    have hkeywords : Value.lookup "properties" keywords = some (.map (fieldValues properties)) := h
    rw [declaredIn, declaredNames, hkeywords]
    exact textKeys_fieldValues properties
  | _ => cases h

theorem declaredIn_toValue (s : Schema) : declaredIn s.toValue = s.propertyNames := by
  have hmembers : s.toValue.get? "properties" = OrderedMap.get? "properties" s.members :=
    get?_toValue_of_ne s (by decide) (by decide)
  cases s with
  | primitive kind choices _ =>
    refine declaredIn_eq_nil (hmembers.trans ?_)
    cases choices <;> rfl
  | array items _ => exact declaredIn_eq_nil hmembers
  | record properties required _ => exact declaredIn_of_properties hmembers
  | openMap _ => exact declaredIn_eq_nil hmembers

/-! ## Places -/

/-- The schema of what stands at a place, in wire form. -/
def at? : List Step → Value → Option Value
  | [], wire => some wire
  | .name n :: path, wire => ((wire.get? "properties").bind (·.get? n)).bind (at? path)
  | .index _ :: path, wire => (wire.get? "items").bind (at? path)

theorem get?_properties_record (properties : List (String × Schema)) (required : List String)
    (notes : Annotations) :
    (toValue (.record properties required notes)).get? "properties" =
      some (.map (fieldValues properties)) := by
  rw [toValue, get?_ofFields]
  rfl

theorem get?_items_array (items : Schema) (notes : Annotations) :
    (toValue (.array items notes)).get? "items" = some items.toValue := by
  rw [toValue, get?_ofFields]
  rfl

theorem lookup_fieldValues_schemas (name : String) (ps : OrderedMap Shape) :
    Value.lookup name (fieldValues (Shape.schemas ps)) =
      (ps.get? name).map fun shape => shape.schema.toValue := by
  induction ps with
  | nil => rfl
  | cons p ps ih =>
    obtain ⟨n, s⟩ := p
    rw [Shape.schemas, fieldValues, Value.lookup, Value.isText, get?_cons]
    by_cases hn : n = name
    · rw [if_pos (beq_iff_eq.2 hn), if_pos hn, Option.map_some]
    · rw [if_neg (mt beq_iff_eq.1 hn), if_neg hn, ih]

end Schema

end DeclaredTools
