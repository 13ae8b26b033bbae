/-
  Conformance of JSON values to schemas in wire form: the standard reading of the keywords that wire
  forms use. A keyword constrains the values that it is about and admits all others, so that `items`
  says nothing about a text; what is no keyword is an annotation and constrains nothing.

  The wire form of each kind of schema is then read back once: `conforms_primitive`,
  `conforms_array`, `conforms_record`, `conforms_openMap`.
-/
import DeclaredTools.Schema.Basic

namespace DeclaredTools

/-! ## JSON values -/

namespace Value

mutual

/-- Null, truth values, numbers, texts, lists of such values, and maps of them whose keys are
texts. -/
def isJson : Value → Bool
  | .null | .bool _ | .int _ | .float _ | .text _ => true
  | .list xs => areJson xs
  | .map es => areJsonEntries es
  | _ => false

def areJson : List Value → Bool
  | [] => true
  | x :: xs => isJson x && areJson xs

def areJsonEntries : List (Value × Value) → Bool
  | [] => true
  | (.text _, v) :: es => isJson v && areJsonEntries es
  | _ => false

end

mutual

/-- Equality of JSON values: numbers are equal when they stand for the same number, and a truth
value is no number. -/
def sameJson : Value → Value → Bool
  | .null, .null => true
  | .bool a, .bool b => a == b
  | .int a, .int b => a == b
  | .int a, .float b => b.sameInt a
  | .float a, .int b => a.sameInt b
  | .float a, .float b => a.same b
  | .text a, .text b => a == b
  | .list xs, .list ys => sameJsonList xs ys
  | .map es, .map fs => es.length == fs.length && allSameJsonIn es fs
  | _, _ => false

def sameJsonList : List Value → List Value → Bool
  | [], [] => true
  | x :: xs, y :: ys => sameJson x y && sameJsonList xs ys
  | _, _ => false

/-- Every entry on the left has one on the right with an equal key and an equal value. -/
def allSameJsonIn : List (Value × Value) → List (Value × Value) → Bool
  | [], _ => true
  | (k, v) :: es, fs =>
    fs.any (fun e => sameJson k e.1 && sameJson v e.2) && allSameJsonIn es fs

end

/-- The value is of the type with this name. A truth value is no number. -/
def hasJsonType (name : String) : Value → Bool
  | .null => name == "null"
  | .bool _ => name == "boolean"
  | .int _ => name == "number" || name == "integer"
  | .float x => name == "number" || (name == "integer" && x.toInt?.isSome)
  | .text _ => name == "string"
  | .list _ => name == "array"
  | .map _ => name == "object"
  | _ => false

/-- The member of a map that a name means, if the name is a text. -/
def member? : Value → List (Value × Value) → Option Value
  | .text name, es => lookup name es
  | _, _ => none

theorem areJsonEntries_cons_iff {k v : Value} {es : List (Value × Value)} :
    areJsonEntries ((k, v) :: es) = true ↔
      (∃ s, k = .text s) ∧ isJson v = true ∧ areJsonEntries es = true := by
  cases k <;> simp [areJsonEntries]

theorem isJson_of_mem {x : Value} {xs : List Value} (h : areJson xs = true) (hx : x ∈ xs) :
    isJson x = true := by
  induction xs with
  | nil => cases hx
  | cons y xs ih =>
    obtain ⟨hy, hxs⟩ := Bool.and_eq_true_iff.1 h
    rcases List.mem_cons.1 hx with rfl | hx
    · exact hy
    · exact ih hxs hx

theorem isJson_of_lookup_eq_some {name : String} {v : Value} {es : List (Value × Value)}
    (h : areJsonEntries es = true) (hv : lookup name es = some v) : isJson v = true := by
  induction es with
  | nil => cases hv
  | cons e es ih =>
    obtain ⟨k, w⟩ := e
    obtain ⟨-, hw, hes⟩ := areJsonEntries_cons_iff.1 h
    rw [lookup] at hv
    split at hv
    · exact Option.some.inj hv ▸ hw
    · exact ih hes hv

theorem exists_text_of_mem {e : Value × Value} {es : List (Value × Value)}
    (h : areJsonEntries es = true) (he : e ∈ es) : ∃ s, e.1 = .text s := by
  induction es with
  | nil => cases he
  | cons f es ih =>
    obtain ⟨hf, -, hes⟩ := areJsonEntries_cons_iff.1 h
    rcases List.mem_cons.1 he with rfl | he
    · exact hf
    · exact ih hes he

end Value

/-! ## Conformance -/

/-- The keywords that constrain values. -/
inductive Keyword where
  | type
  | enum
  | items
  | properties
  | required
  | additionalProperties

namespace Keyword

def table : List (String × Keyword) :=
  [("type", .type), ("enum", .enum), ("items", .items), ("properties", .properties),
    ("required", .required), ("additionalProperties", .additionalProperties)]

def ofValue? : Value → Option Keyword
  | .text s => table.lookup s
  | _ => none

end Keyword

namespace Schema

/-- The names of the properties that the keywords of a schema declare. -/
def declaredNames (keywords : List (Value × Value)) : List String :=
  match Value.lookup "properties" keywords with
  | some (.map ps) => ps.filterMap fun p => match p.1 with
    | .text name => some name
    | _ => none
  | _ => []

mutual

/-- The value conforms to a schema in wire form: a map of keywords, or a truth value that admits
everything or nothing. -/
def conforms : Value → Value → Bool
  | .bool b, _ => b
  | .map keywords, v => meets (declaredNames keywords) keywords v
  | _, _ => false

/-- The value meets every keyword of a schema that declares the given properties. -/
def meets (declared : List String) : List (Value × Value) → Value → Bool
  | [], _ => true
  | (key, spec) :: keywords, v =>
    (match Keyword.ofValue? key, spec, v with
      | some .type, .text name, v => v.hasJsonType name
      | some .enum, .list choices, v => choices.any v.sameJson
      | some .items, spec, .list xs => xs.all fun x => conforms spec x
      | some .properties, .map ps, .map es => propertiesConform ps es
      | some .required, .list names, .map es => names.all fun name => (name.member? es).isSome
      | some .additionalProperties, spec, .map es =>
        es.all fun e => declared.any (fun name => e.1.isText name) || conforms spec e.2
      | _, _, _ => true)
    && meets declared keywords v

/-- Every member that a property is declared for conforms to it. -/
def propertiesConform : List (Value × Value) → List (Value × Value) → Bool
  | [], _ => true
  | (name, spec) :: ps, es =>
    (name.member? es).all (fun v => conforms spec v) && propertiesConform ps es

end

/-! ## Reading keywords -/

section

variable (declared : List String)

theorem meets_nil (v : Value) : meets declared [] v = true := rfl

/-- A single keyword is met by what it admits. -/
theorem meets_singleton (key spec v : Value) : meets declared [(key, spec)] v =
    match Keyword.ofValue? key, spec, v with
    | some .type, .text name, v => v.hasJsonType name
    | some .enum, .list choices, v => choices.any v.sameJson
    | some .items, spec, .list xs => xs.all fun x => conforms spec x
    | some .properties, .map ps, .map es => propertiesConform ps es
    | some .required, .list names, .map es => names.all fun name => (name.member? es).isSome
    | some .additionalProperties, spec, .map es =>
      es.all fun e => declared.any (fun name => e.1.isText name) || conforms spec e.2
    | _, _, _ => true := by
  rw [meets.eq_def]
  simp only [meets_nil, Bool.and_true]

theorem meets_cons (key spec : Value) (keywords : List (Value × Value)) (v : Value) :
    meets declared ((key, spec) :: keywords) v =
      (meets declared [(key, spec)] v && meets declared keywords v) := by
  rw [meets_singleton, meets.eq_def]

theorem meets_append (keywords others : List (Value × Value)) (v : Value) :
    meets declared (keywords ++ others) v =
      (meets declared keywords v && meets declared others v) := by
  induction keywords with
  | nil => rw [List.nil_append, meets_nil, Bool.true_and]
  | cons k keywords ih =>
    obtain ⟨key, spec⟩ := k
    rw [List.cons_append, meets_cons, meets_cons _ _ _ keywords, ih, Bool.and_assoc]

theorem meets_annotation {key : Value} (h : Keyword.ofValue? key = none) (spec v : Value) :
    meets declared [(key, spec)] v = true := by
  rw [meets_singleton]
  simp [h]

theorem meets_type (name : String) (v : Value) :
    meets declared [(.text "type", .text name)] v = v.hasJsonType name := by
  rw [meets_singleton]
  simp [Keyword.ofValue?, Keyword.table]

theorem meets_enum (choices : List Value) (v : Value) :
    meets declared [(.text "enum", .list choices)] v = choices.any v.sameJson := by
  rw [meets_singleton]
  simp [Keyword.ofValue?, Keyword.table, List.lookup_cons]

theorem meets_items (spec : Value) (xs : List Value) :
    meets declared [(.text "items", spec)] (.list xs) = xs.all fun x => conforms spec x := by
  rw [meets_singleton]
  simp [Keyword.ofValue?, Keyword.table, List.lookup_cons]

theorem meets_properties (ps es : List (Value × Value)) :
    meets declared [(.text "properties", .map ps)] (.map es) = propertiesConform ps es := by
  rw [meets_singleton]
  simp [Keyword.ofValue?, Keyword.table, List.lookup_cons]

theorem meets_required (names : List Value) (es : List (Value × Value)) :
    meets declared [(.text "required", .list names)] (.map es) =
      names.all fun name => (name.member? es).isSome := by
  rw [meets_singleton]
  simp [Keyword.ofValue?, Keyword.table, List.lookup_cons]

/-- To admit further members is to say nothing. -/
theorem meets_additionalProperties_true (v : Value) :
    meets declared [(.text "additionalProperties", .bool true)] v = true := by
  rw [meets_singleton]
  cases v <;> simp [Keyword.ofValue?, Keyword.table, List.lookup_cons, conforms]

/-- Descriptions and defaults constrain nothing. -/
theorem meets_noteFields (notes : Annotations) (v : Value) :
    meets declared ((noteFields notes).map fun (k, spec) => (.text k, spec)) v = true := by
  rw [noteFields, List.map_append, meets_append, Bool.and_eq_true_iff]
  constructor
  · cases notes.description with
    | none => rfl
    | some d =>
      by_cases hd : d = ""
      · simp [hd, meets_nil]
      · simpa [hd] using meets_annotation declared (by decide +kernel) _ v
  · cases notes.default with
    | none => rfl
    | some d => exact meets_annotation declared (by decide +kernel) _ v

end

/-! ## Reading wire forms -/

/-- Fields followed by notes say what the fields say. Which properties are declared is left open: it
matters for a restriction of further members only, and no wire form has one. -/
theorem exists_conforms_fields_notes (fields : List (String × Value)) (notes : Annotations)
    (v : Value) :
    ∃ declared, conforms (Value.ofFields (fields ++ noteFields notes)) v =
      meets declared (fields.map fun (k, spec) => (.text k, spec)) v := by
  rw [Value.ofFields, conforms, List.map_append, meets_append, meets_noteFields, Bool.and_true]
  exact ⟨_, rfl⟩

theorem conforms_primitive (kind : ScalarKind) (choices : Option (List Value))
    (notes : Annotations) (v : Value) :
    conforms (toValue (.primitive kind choices notes)) v =
      (v.hasJsonType kind.name && choices.all fun vs => vs.any v.sameJson) := by
  unfold toValue
  obtain ⟨declared, hfields⟩ := exists_conforms_fields_notes _ notes v
  rw [hfields, List.map_append, meets_append]
  congr 1
  · exact meets_type declared kind.name v
  · cases choices with
    | none => rfl
    | some vs => exact meets_enum declared vs v

theorem conforms_array (items : Schema) (notes : Annotations) (v : Value) :
    conforms (toValue (.array items notes)) v =
      match v with
      | .list xs => xs.all fun x => conforms items.toValue x
      | _ => false := by
  obtain ⟨declared, hfields⟩ := exists_conforms_fields_notes
    [("type", .text "array"), ("items", items.toValue)] notes v
  rw [toValue, hfields, List.map_cons, meets_cons, meets_type]
  cases v with
  | list xs => exact meets_items declared items.toValue xs
  | _ => rfl

theorem conforms_openMap (notes : Annotations) (v : Value) :
    conforms (toValue (.openMap notes)) v = v.hasJsonType "object" := by
  obtain ⟨declared, hfields⟩ := exists_conforms_fields_notes
    [("type", .text "object"), ("additionalProperties", .bool true)] notes v
  rw [toValue, hfields, List.map_cons, meets_cons, meets_type, List.map_singleton,
    meets_additionalProperties_true, Bool.and_true]

theorem propertiesConform_fieldValues (properties : List (String × Schema))
    (es : List (Value × Value)) :
    propertiesConform (fieldValues properties) es =
      properties.all fun p => (Value.lookup p.1 es).all fun v => conforms p.2.toValue v := by
  induction properties with
  | nil => rfl
  | cons p properties ih =>
    obtain ⟨name, schema⟩ := p
    rw [fieldValues, propertiesConform, ih]
    rfl

theorem conforms_record (properties : List (String × Schema)) (required : List String)
    (notes : Annotations) (v : Value) :
    conforms (toValue (.record properties required notes)) v =
      match v with
      | .map es =>
        (properties.all fun p => (Value.lookup p.1 es).all fun v => conforms p.2.toValue v) &&
          required.all fun name => (Value.lookup name es).isSome
      | _ => false := by
  obtain ⟨declared, hfields⟩ := exists_conforms_fields_notes
    ([("type", .text "object"), ("properties", .map (fieldValues properties))]
      ++ (if required.isEmpty then [] else [("required", .list (required.map .text))])) notes v
  rw [toValue, hfields, List.map_append, meets_append, List.map_cons, meets_cons, meets_type]
  cases v with
  | map es =>
    rw [List.map_singleton, meets_properties, propertiesConform_fieldValues]
    congr 1
    cases required with
    | nil => rfl
    | cons name required =>
      exact (meets_required declared _ es).trans List.all_map
  | _ => rfl

end Schema

end DeclaredTools
