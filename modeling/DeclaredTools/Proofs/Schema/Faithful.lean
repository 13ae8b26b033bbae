/-
  The wire form of a schema is well formed and says what the definitions say, at every depth.

  A node of the wire form and the definition of what it describes stand at the same place
  (`at?_schema_ofValue`), and what the node says can be read off the definition there
  (`describes_ofValue`). The required flag of an items definition is not among that: whatever it is,
  the schema is the same (`wire_form_faithful`).
-/
import DeclaredTools.Proofs.Shape.Definitions
import DeclaredTools.Proofs.Schema.WireForm
import DeclaredTools.Proofs.Validation.Required

namespace DeclaredTools

open OrderedMap

namespace Schema

/-! ## Well-formed nodes -/

/-- A node of a schema in wire form has one of the types, with what belongs to its type, and a
required list, if it has any, that names some of its properties in their order. -/
structure WellFormed (wire : Value) : Prop where
  type : ∃ type ∈ ["string", "number", "boolean", "array", "object"],
    wire.get? "type" = some (.text type)
  items : wire.get? "type" = some (.text "array") → (wire.get? "items").isSome = true
  fields : wire.get? "type" = some (.text "object") →
    Xor ((wire.get? "properties").isSome = true) ((wire.get? "additionalProperties").isSome = true)
  required : ∀ names, wire.get? "required" = some names →
    names = .list ((requiredIn wire).map .text) ∧ requiredIn wire ≠ []
  nodup : (requiredIn wire).Nodup
  sublist : (requiredIn wire).Sublist (declaredIn wire)

/-- A schema has well-formed wire form if it lists as required some of its properties in their
order. -/
theorem wellFormed_toValue {s : Schema} (hsublist : s.requiredOf.Sublist s.propertyNames)
    (hnodup : s.propertyNames.Nodup) : WellFormed s.toValue where
  type := by
    rw [get?_toValue_of_ne s (by decide) (by decide)]
    cases s with
    | primitive kind choices _ => exact ⟨kind.name, by cases kind <;> decide, rfl⟩
    | array items _ => exact ⟨"array", by decide, rfl⟩
    | record properties required _ => exact ⟨"object", by decide, rfl⟩
    | openMap _ => exact ⟨"object", by decide, rfl⟩
  items := by
    rw [get?_toValue_of_ne s (by decide) (by decide), get?_toValue_of_ne s (by decide) (by decide)]
    cases s with
    | primitive kind choices _ => cases kind <;> simp [members, get?_cons, ScalarKind.name]
    | array items _ => exact fun _ => rfl
    | record properties required _ => simp [members, get?_cons]
    | openMap _ => simp [members, get?_cons]
  fields := by
    rw [get?_toValue_of_ne s (by decide) (by decide), get?_toValue_of_ne s (by decide) (by decide),
      get?_toValue_of_ne s (by decide) (by decide)]
    cases s with
    | primitive kind choices _ => cases kind <;> simp [members, get?_cons, ScalarKind.name]
    | array items _ => simp [members, get?_cons]
    | record properties required _ =>
      cases required <;> simp [members, get?_cons, Xor]
    | openMap _ => simp [members, get?_cons, Xor]
  required := by
    intro names hnames
    rw [get?_required_toValue] at hnames
    rw [requiredIn_toValue]
    split at hnames
    · cases hnames
    · next hne => exact ⟨(Option.some.inj hnames).symm, hne⟩
  nodup := by
    rw [requiredIn_toValue]
    exact hsublist.nodup hnodup
  sublist := by
    rw [requiredIn_toValue, declaredIn_toValue]
    exact hsublist

end Schema

/-! ## Nodes and their definitions -/

namespace Definition

/-- The shapes of the properties that a definition gives. -/
def shapes (v : Value) : OrderedMap Shape :=
  ofEntries ((properties v).map fun e => (e.1, Shape.ofValue e.2))

theorem shapes_eq_nil {v : Value} (h : properties v = []) : shapes v = [] := by
  rw [shapes, h]
  rfl

theorem keys_shapes (v : Value) :
    (shapes v).keys = ((properties v).map Prod.fst).eraseDups := by
  rw [shapes, keys_ofEntries, List.map_map]
  rfl

theorem get?_shapes (name : String) (v : Value) :
    (shapes v).get? name = (property? name v).map Shape.ofValue := by
  rw [shapes, get?_ofEntries, lastValue?_map fun _ w => Shape.ofValue w]
  rfl

/-- The schemas that a definition can be advertised with, by its items and its properties. -/
inductive Advertised (v : Value) : Schema → Prop
  | primitive (kind : ScalarKind) (values : Option (List Value)) (hitems : items? v = none)
    (hproperties : properties v = []) : Advertised v (.primitive kind values (annotations v))
  | array {w : Value} (hitems : items? v = some w) (hproperties : properties v = []) :
    Advertised v (.array (Shape.ofValue w).schema (annotations v))
  | record (hitems : items? v = none) :
    Advertised v (.record (Shape.schemas (shapes v)) (Shape.requiredNames (shapes v))
      (annotations v))
  | openMap (hitems : items? v = none) (hproperties : properties v = []) :
    Advertised v (.openMap (annotations v))

theorem advertised_ofValue (v : Value) : Advertised v (Shape.ofValue v).schema := by
  rw [Shape.schema_ofValue]
  cases htag : tag? v with
  | none => exact .primitive _ _ (by simp [items?, htag]) (by simp [properties, htag])
  | some tag =>
    cases tag with
    | scalar kind => exact .primitive _ _ (by simp [items?, htag]) (by simp [properties, htag])
    | enum => exact .primitive _ _ (by simp [items?, htag]) (by simp [properties, htag])
    | array => exact .array (by simp [items?, htag]) (by simp [properties, htag])
    | object =>
      have hitems : items? v = none := by simp [items?, htag]
      dsimp only
      cases hmember : v.get? "properties" with
      | none => exact .openMap hitems (by simp [properties, htag, hmember])
      | some w =>
        cases w with
        | map ps =>
          have hshapes : ofEntries (Shape.shapesOf ps) = shapes v := by
            simp [shapes, properties, htag, hmember, Shape.shapesOf_eq_map, Function.comp_def]
          rw [Shape.objectSchema, hshapes]
          exact .record hitems
        | _ => exact .openMap hitems (by simp [properties, htag, hmember])

end Definition

namespace Shape

theorem names_schemas (ps : List (String × Shape)) :
    (schemas ps).map Prod.fst = ps.map Prod.fst := by
  induction ps with
  | nil => rfl
  | cons p ps ih =>
    obtain ⟨name, shape⟩ := p
    rw [schemas, List.map_cons, List.map_cons, ih]

theorem requiredNames_sublist (ps : List (String × Shape)) :
    (requiredNames ps).Sublist (ps.map Prod.fst) := by
  induction ps with
  | nil => exact List.Sublist.slnil
  | cons p ps ih =>
    obtain ⟨name, shape⟩ := p
    rw [requiredNames, List.map_cons]
    cases shape.note.required with
    | true => exact ih.cons_cons name
    | false => exact ih.cons name

end Shape

namespace Definition

theorem mem_requiredNames_shapes (name : String) (v : Value) :
    name ∈ Shape.requiredNames (shapes v) ↔ ∃ w, property? name v = some w ∧ IsRequired w := by
  have hnodup : (shapes v).keys.Nodup := nodup_keys_ofEntries _
  rw [Shape.mem_requiredNames]
  constructor
  · rintro ⟨shape, hmem, hrequired⟩
    have hget := get?_eq_some_of_mem hnodup hmem
    rw [get?_shapes] at hget
    obtain ⟨w, hw, rfl⟩ := Option.map_eq_some_iff.1 hget
    exact ⟨w, hw, (Shape.required_ofValue_iff w).1 hrequired⟩
  · rintro ⟨w, hw, hrequired⟩
    have hget : (shapes v).get? name = some (Shape.ofValue w) := by
      rw [get?_shapes, hw, Option.map_some]
    exact ⟨Shape.ofValue w, mem_of_get? hget, (Shape.required_ofValue_iff w).2 hrequired⟩

section

variable {v : Value} {s : Schema}

theorem Advertised.notes_eq (h : Advertised v s) : s.notes = annotations v := by
  cases h <;> rfl

theorem Advertised.propertyNames_eq (h : Advertised v s) :
    s.propertyNames = (shapes v).keys := by
  cases h with
  | primitive kind values _ hproperties => rw [shapes_eq_nil hproperties]; rfl
  | array _ hproperties => rw [shapes_eq_nil hproperties]; rfl
  | record _ => exact Shape.names_schemas (shapes v)
  | openMap _ hproperties => rw [shapes_eq_nil hproperties]; rfl

theorem Advertised.requiredOf_eq (h : Advertised v s) :
    s.requiredOf = Shape.requiredNames (shapes v) := by
  cases h with
  | primitive kind values _ hproperties => rw [shapes_eq_nil hproperties]; rfl
  | array _ hproperties => rw [shapes_eq_nil hproperties]; rfl
  | record _ => rfl
  | openMap _ hproperties => rw [shapes_eq_nil hproperties]; rfl

/-- The node of the items is that of their definition. -/
theorem Advertised.get?_items (h : Advertised v s) :
    s.toValue.get? "items" = (items? v).map fun w => (Shape.ofValue w).schema.toValue := by
  rw [Schema.get?_toValue_of_ne s (by decide) (by decide)]
  cases h with
  | primitive kind values hitems _ => rw [hitems]; cases values <;> rfl
  | array hitems _ => rw [hitems]; rfl
  | record hitems => rw [hitems]; cases Shape.requiredNames (shapes v) <;> rfl
  | openMap hitems _ => rw [hitems]; rfl

/-- The node of a property is that of its definition. -/
theorem Advertised.get?_property (h : Advertised v s) (name : String) :
    (s.toValue.get? "properties").bind (·.get? name) =
      (property? name v).map fun w => (Shape.ofValue w).schema.toValue := by
  have hshapes : (property? name v).map (fun w => (Shape.ofValue w).schema.toValue) =
      ((shapes v).get? name).map fun shape => shape.schema.toValue := by
    rw [get?_shapes, Option.map_map]
    rfl
  rw [Schema.get?_toValue_of_ne s (by decide) (by decide), hshapes]
  cases h with
  | primitive kind values _ hproperties => rw [shapes_eq_nil hproperties]; cases values <;> rfl
  | array _ hproperties => rw [shapes_eq_nil hproperties]; rfl
  | record _ => exact Schema.lookup_fieldValues_schemas name (shapes v)
  | openMap _ hproperties => rw [shapes_eq_nil hproperties]; rfl

end

end Definition

namespace Schema

open Definition

/-- What a node of the wire form says of the definition that it comes from. -/
structure Describes (v wire : Value) : Prop extends WellFormed wire where
  declared : declaredIn wire = ((properties v).map Prod.fst).eraseDups
  required_iff : ∀ name, name ∈ requiredIn wire ↔ ∃ w, property? name v = some w ∧ IsRequired w
  default : wire.get? "default" = v.get? "default"
  description : ∀ text, wire.get? "description" = some text ↔
    ∃ d, v.get? "description" = some d ∧ d ≠ .null ∧ d.display ≠ "" ∧ text = .text d.display

theorem description_iff (v text : Value) :
    ((annotations v).description.filter (· ≠ "")).map Value.text = some text ↔
      ∃ d, v.get? "description" = some d ∧ d ≠ .null ∧ d.display ≠ "" ∧ text = .text d.display := by
  unfold annotations
  cases v.get? "description" with
  | none => simp
  | some d =>
    by_cases hnull : d = .null
    · subst hnull
      simp [Shape.textOf]
    · have htext : Shape.textOf d = some d.display := by
        cases d with
        | null => exact absurd rfl hnull
        | _ => rfl
      by_cases hempty : d.display = ""
      · simp [htext, hempty, Option.filter]
      · have hkept : (some d.display).filter (· ≠ "") = some d.display := by
          simp [Option.filter, hempty]
        rw [Option.bind_some, htext, hkept, Option.map_some]
        constructor
        · intro h
          exact ⟨d, rfl, hnull, hempty, (Option.some.inj h).symm⟩
        · rintro ⟨_, hd, _, _, rfl⟩
          rw [Option.some.inj hd]

theorem describes_ofValue (v : Value) : Describes v (Shape.ofValue v).schema.toValue := by
  have h := advertised_ofValue v
  have hnodup : (shapes v).keys.Nodup := nodup_keys_ofEntries _
  have hwell : WellFormed (Shape.ofValue v).schema.toValue := by
    apply wellFormed_toValue
    · rw [h.requiredOf_eq, h.propertyNames_eq]
      exact Shape.requiredNames_sublist (shapes v)
    · rw [h.propertyNames_eq]
      exact hnodup
  refine { hwell with declared := ?_, required_iff := ?_, default := ?_, description := ?_ }
  · rw [declaredIn_toValue, h.propertyNames_eq, keys_shapes]
  · intro name
    rw [requiredIn_toValue, h.requiredOf_eq, mem_requiredNames_shapes]
  · rw [get?_default_toValue, h.notes_eq]
    rfl
  · intro text
    rw [get?_description_toValue, h.notes_eq, description_iff]

/-- The node at a place is that of the definition at this place. -/
theorem at?_schema_ofValue (path : List Step) (v : Value) :
    Schema.at? path (Shape.ofValue v).schema.toValue =
      (Definition.at? path v).map fun w => (Shape.ofValue w).schema.toValue := by
  induction path generalizing v with
  | nil => rfl
  | cons step path ih =>
    have h := advertised_ofValue v
    cases step with
    | name n =>
      rw [Schema.at?, Definition.at?, h.get?_property]
      cases property? n v with
      | none => rfl
      | some w => exact ih w
    | index i =>
      rw [Schema.at?, Definition.at?, h.get?_items]
      cases items? v with
      | none => rfl
      | some w => exact ih w

end Schema

/-- **Wire forms are well formed and faithful.** Wherever in the wire form of parameters a node
stands, a definition stands at the same place, and the other way round; the node is well formed and
says of the definition what it has to. Whatever required flag the definition of the items of an
array is given, the schema stays the same. -/
theorem wire_form_faithful (es : List (Value × Value)) :
    (∀ path, Option.Rel Schema.Describes (Definition.at? path (Definition.ofParameters (.map es)))
      (Schema.at? path (Parameters.ofValue (.map es)).schema.toValue)) ∧
    ∀ (flag : Option Value) (name : String) (path : List Step) (i : Int),
      let place := .name name :: path ++ [.index i]
      let changed := Definition.changeNamed name
        (Definition.changeAt (Definition.withFlag flag) (path ++ [.index i])) (.map es)
      Definition.at? place (Definition.ofParameters changed) =
          (Definition.at? place (Definition.ofParameters (.map es))).map
            (Definition.withFlag flag) ∧
        (Parameters.ofValue changed).schema = (Parameters.ofValue (.map es)).schema := by
  constructor
  · intro path
    rw [← Definition.schema_ofParameters, Schema.at?_schema_ofValue]
    cases Definition.at? path (Definition.ofParameters (.map es)) with
    | none => exact .none
    | some v => exact .some (Schema.describes_ofValue v)
  · intro flag name path i
    constructor
    · rw [← Definition.changeAt_ofParameters]
      exact Definition.at?_changeAt rfl _ _
    · have hlooks := Shape.looksLike_withFlag_items flag (.name name :: path) i
        (Definition.ofParameters (.map es))
      rw [← Definition.schema_ofParameters, ← hlooks.schema, List.cons_append,
        Definition.changeAt_ofParameters]
      rfl

-- Of the keys `1` and `"1"` the last one counts, in the place of the first; the flag in `items` is
-- gone, that of the property in it is not.
example : (Parameters.ofValue (.map [
      (.int 1, .ofFields [("type", .text "boolean"), ("required", .bool true)]),
      (.text "rows", .ofFields [("type", .text "array"), ("items", .ofFields [
        ("type", .text "object"), ("required", .bool true), ("properties", .ofFields [
          ("a", .ofFields [("type", .text "number"), ("required", .int 1), ("default", .null)])])])]),
      (.text "1", .ofFields [("description", .text ""), ("required", .int 0)])])).schema.toValue =
    .ofFields [("type", .text "object"), ("properties", .ofFields [
      ("1", .ofFields [("type", .text "string")]),
      ("rows", .ofFields [("type", .text "array"), ("items", .ofFields [
        ("type", .text "object"), ("properties", .ofFields [
          ("a", .ofFields [("type", .text "number"), ("default", .null)])]),
        ("required", .list [.text "a"])])])])] := rfl

end DeclaredTools
