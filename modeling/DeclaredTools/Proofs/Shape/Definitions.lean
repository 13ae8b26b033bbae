/-
  Definitions as trees. In a definition stand the definitions of its properties or of its items,
  and so on: `Definition.at?` finds the one at a place, and `Definition.changeAt` changes it there
  (`at?_changeAt`).

  Of a definition itself only a few members are read, and each by its name. So its schema can be
  said in terms of `get?` (`schema_ofValue`), and definitions that differ elsewhere have the same
  schema (`schema_congr`).
-/
import DeclaredTools.Proofs.Related
import DeclaredTools.Proofs.Shape.Reading
import DeclaredTools.Schema.Basic
import DeclaredTools.Validation.Issue

namespace DeclaredTools

open OrderedMap

/-! ## Reading by name -/

namespace Shape

/-- Items that no shape describes are advertised as those that null defines. -/
theorem schema_array_itemsOf (note : Note) (es : List (Value × Value)) :
    schema (.array note (itemsOf es)) =
      .array (ofValue ((Value.lookup "items" es).getD .null)).schema (annotations note) := by
  rw [itemsOf_eq]
  cases Value.lookup "items" es with
  | none => rfl
  | some v => cases v <;> rfl

end Shape

namespace Definition

/-- The type that a definition names. -/
def tag? (v : Value) : Option TypeTag := TypeTag.ofValue? ((v.get? "type").getD .null)

/-- The definition asks for what it describes: it has a required flag that counts as true. -/
def IsRequired (v : Value) : Prop := ∃ flag, v.get? "required" = some flag ∧ flag.isTruthy = true

def annotations (v : Value) : Annotations :=
  ⟨(v.get? "description").bind Shape.textOf, v.get? "default"⟩

/-- The values that an enumeration lists. -/
def choices (v : Value) : List Value :=
  match v.get? "enum" with
  | some (.list vs) => vs
  | _ => []

/-- The definition of the items of an array, null if it has none. -/
def items? (v : Value) : Option Value :=
  match tag? v with
  | some .array => some ((v.get? "items").getD .null)
  | _ => none

/-- The definitions of the properties of an object, each under the text of its key. -/
def properties (v : Value) : List (String × Value) :=
  match tag? v, v.get? "properties" with
  | some .object, some (.map ps) => ps.map fun e => (e.1.display, e.2)
  | _, _ => []

/-- The definition of a property; of keys with one text the last counts. -/
def property? (name : String) (v : Value) : Option Value := lastValue? name (properties v)

/-- The definition that stands at a place; all elements of an array have one. -/
def at? : List Step → Value → Option Value
  | [], v => some v
  | .name n :: path, v => (property? n v).bind (at? path)
  | .index _ :: path, v => (items? v).bind (at? path)

end Definition

namespace Shape

open Definition

/-- The schema of an object, by what its definition has under `properties`. -/
def objectSchema (properties : Option Value) (notes : Annotations) : Schema :=
  match properties with
  | some (.map ps) =>
    .record (schemas (ofEntries (shapesOf ps))) (requiredNames (ofEntries (shapesOf ps))) notes
  | _ => .openMap notes

/-- The schema of what a definition describes, by the members of the definition. -/
theorem schema_ofValue (v : Value) : (ofValue v).schema =
    match tag? v with
    | some (.scalar kind) => .primitive kind none (Definition.annotations v)
    | some .enum =>
      .primitive (enumKind (choices v)) (some (choices v)) (Definition.annotations v)
    | some .array =>
      .array (ofValue ((v.get? "items").getD .null)).schema (Definition.annotations v)
    | some .object => objectSchema (v.get? "properties") (Definition.annotations v)
    | none => .primitive .string none (Definition.annotations v) := by
  cases v with
  | map es =>
    have htag : tag? (.map es) = TypeTag.ofValue? (tagOf es) := rfl
    rw [ofValue, htag]
    cases TypeTag.ofValue? (tagOf es) with
    | none => rfl
    | some tag =>
      cases tag with
      | scalar kind => rfl
      | enum => rfl
      | array => exact schema_array_itemsOf (noteOf es) es
      | object =>
        dsimp only
        rw [propertiesOf_eq, Value.get?]
        cases Value.lookup "properties" es with
        | none => rfl
        | some w => cases w <;> rfl
  | _ => rfl

theorem required_ofValue (v : Value) :
    (ofValue v).note.required = ((v.get? "required").map Value.isTruthy).getD false := by
  cases v with
  | map es =>
    rw [ofValue]
    cases TypeTag.ofValue? (tagOf es) with
    | none => rfl
    | some tag => cases tag <;> rfl
  | _ => rfl

theorem required_ofValue_iff (v : Value) :
    (ofValue v).note.required = true ↔ IsRequired v := by
  rw [required_ofValue, IsRequired]
  cases v.get? "required" <;> simp

/-- Definitions have one schema if they agree in what is read of them; of the definition of items
that is the schema. -/
theorem schema_congr {v w : Value} (htype : v.get? "type" = w.get? "type")
    (hdescription : v.get? "description" = w.get? "description")
    (hdefault : v.get? "default" = w.get? "default") (henum : v.get? "enum" = w.get? "enum")
    (hitems : (ofValue ((v.get? "items").getD .null)).schema =
      (ofValue ((w.get? "items").getD .null)).schema)
    (hproperties : objectSchema (v.get? "properties") = objectSchema (w.get? "properties")) :
    (ofValue v).schema = (ofValue w).schema := by
  rw [schema_ofValue v, schema_ofValue w, hitems, hproperties]
  unfold tag? Definition.annotations choices
  rw [htype, hdescription, hdefault, henum]

end Shape

/-! ## Changing a definition inside -/

namespace Definition

/-- What stands under a name in a map, changed. -/
def changeMember (name : String) (f : Value → Value) : Value → Value
  | .map es => .map (es.map fun e => (e.1, if e.1.isText name then f e.2 else e.2))
  | v => v

/-- What stands in a map under keys of one text, changed. -/
def changeNamed (name : String) (f : Value → Value) : Value → Value
  | .map es => .map (es.map fun e => (e.1, if e.1.display = name then f e.2 else e.2))
  | v => v

/-- A definition in which the definition at a place is changed. -/
def changeAt (f : Value → Value) : List Step → Value → Value
  | [], v => f v
  | .name n :: path, v => changeMember "properties" (changeNamed n (changeAt f path)) v
  | .index _ :: path, v => changeMember "items" (changeAt f path) v

/-- A definition with another required flag, or with none. -/
def withFlag (flag : Option Value) : Value → Value
  | .map es => .map (es.filter (fun e => !e.1.isText "required")
      ++ (flag.map fun r => (.text "required", r)).toList)
  | v => v

variable {f : Value → Value}

theorem get?_changeMember (name other : String) (v : Value) :
    (changeMember name f v).get? other =
      if other = name then (v.get? other).map f else v.get? other := by
  cases v with
  | map es =>
    induction es with
    | nil => simp [changeMember, Value.get?, Value.lookup]
    | cons e es ih =>
      obtain ⟨k, w⟩ := e
      simp only [changeMember, Value.get?, List.map_cons, Value.lookup] at ih ⊢
      by_cases hk : k.isText other = true
      · rw [if_pos hk, if_pos hk, Value.isText_iff.1 hk, Value.isText]
        by_cases hname : other = name <;> simp [hname]
      · rw [if_neg hk, if_neg hk]
        exact ih
  | _ => simp [changeMember, Value.get?]

theorem get?_changeMember_of_ne {name other : String} (h : other ≠ name) (v : Value) :
    (changeMember name f v).get? other = v.get? other := by
  rw [get?_changeMember, if_neg h]

theorem get?_changeMember_self (name : String) (v : Value) :
    (changeMember name f v).get? name = (v.get? name).map f := by
  rw [get?_changeMember, if_pos rfl]

theorem tag?_changeMember {name : String} (h : "type" ≠ name) (v : Value) :
    tag? (changeMember name f v) = tag? v := by
  unfold tag?
  rw [get?_changeMember_of_ne h]

theorem items?_changeMember (hnull : f .null = .null) (v : Value) :
    items? (changeMember "items" f v) = (items? v).map f := by
  unfold items?
  rw [tag?_changeMember (by decide), get?_changeMember_self]
  cases tag? v with
  | none => rfl
  | some tag =>
    cases tag with
    | array => cases v.get? "items" <;> simp [hnull]
    | _ => rfl

theorem property?_changeMember (name : String) (v : Value) :
    property? name (changeMember "properties" (changeNamed name f) v) =
      (property? name v).map f := by
  have hproperties : properties (changeMember "properties" (changeNamed name f) v) =
      (properties v).map fun e => (e.1, if e.1 = name then f e.2 else e.2) := by
    unfold properties
    rw [tag?_changeMember (by decide), get?_changeMember_self]
    cases tag? v with
    | none => rfl
    | some tag =>
      cases tag with
      | object =>
        cases v.get? "properties" with
        | none => rfl
        | some w => cases w <;> simp [changeNamed]
      | _ => rfl
  unfold property?
  rw [hproperties, lastValue?_map fun n w => if n = name then f w else w]
  simp

/-- What stands at a place after a change there is what stood there, changed. -/
theorem at?_changeAt (hnull : f .null = .null) (path : List Step) (v : Value) :
    at? path (changeAt f path v) = (at? path v).map f := by
  induction path generalizing v with
  | nil => rfl
  | cons step path ih =>
    have hnext : (changeAt f path .null) = .null := by
      cases path with
      | nil => exact hnull
      | cons step' _ => cases step' <;> rfl
    cases step with
    | name n =>
      rw [changeAt, at?, at?, property?_changeMember]
      cases property? n v with
      | none => rfl
      | some w => exact ih w
    | index i =>
      rw [changeAt, at?, at?, items?_changeMember hnext]
      cases items? v with
      | none => rfl
      | some w => exact ih w

theorem get?_withFlag_of_ne {name : String} (h : name ≠ "required") (flag : Option Value)
    (v : Value) : (withFlag flag v).get? name = v.get? name := by
  cases v with
  | map es =>
    have hkeep : ∀ w : Value, (!(Value.text name).isText "required") = true := by
      simpa [Value.isText] using h
    have hadded : Value.lookup name (flag.map fun r => (Value.text "required", r)).toList =
        none := by
      cases flag with
      | none => rfl
      | some r => simp [Value.lookup, Value.isText, Ne.symm h]
    rw [withFlag, Value.get?, Value.get?, Value.lookup_append, Value.lookup_filter hkeep, hadded,
      Option.or_none]
  | _ => rfl

theorem changeAt_append (path more : List Step) (v : Value) :
    changeAt f (path ++ more) v = changeAt (changeAt f more) path v := by
  induction path generalizing v with
  | nil => rfl
  | cons step path ih =>
    have hnext : changeAt f (path ++ more) = changeAt (changeAt f more) path := funext ih
    cases step with
    | name n => rw [List.cons_append, changeAt, changeAt, hnext]
    | index i => rw [List.cons_append, changeAt, changeAt, hnext]

end Definition

namespace Shape

open Definition

/-! ## Changes that leave no trace -/

/-- Two shapes look the same from outside: they are advertised alike, and are required alike. -/
structure LooksLike (s s' : Shape) : Prop where
  schema : s.schema = s'.schema
  required : s.note.required = s'.note.required

section

variable {ps ps' : OrderedMap Shape}

theorem schemas_eq_of_related (h : Related (fun _ => LooksLike) ps ps') :
    schemas ps = schemas ps' := by
  induction h with
  | nil => rfl
  | @cons p p' ps ps' hp _ ih =>
    obtain ⟨n, s⟩ := p
    obtain ⟨n', s'⟩ := p'
    obtain ⟨rfl, hs⟩ := hp
    rw [schemas, schemas, hs.schema, ih]

theorem requiredNames_eq_of_related (h : Related (fun _ => LooksLike) ps ps') :
    requiredNames ps = requiredNames ps' := by
  induction h with
  | nil => rfl
  | @cons p p' ps ps' hp _ ih =>
    obtain ⟨n, s⟩ := p
    obtain ⟨n', s'⟩ := p'
    obtain ⟨rfl, hs⟩ := hp
    rw [requiredNames, requiredNames, hs.required, ih]

end

variable {f : Value → Value}

theorem related_changeNamed (hf : ∀ v, (ofValue (f v)).LooksLike (ofValue v)) (name : String)
    (ps : List (Value × Value)) :
    Related (fun _ => LooksLike)
      (shapesOf (ps.map fun e => (e.1, if e.1.display = name then f e.2 else e.2)))
      (shapesOf ps) := by
  induction ps with
  | nil => exact .nil
  | cons e ps ih =>
    obtain ⟨k, v⟩ := e
    refine .cons ⟨rfl, ?_⟩ ih
    by_cases hk : k.display = name
    · simpa [hk] using hf v
    · simpa [hk] using (⟨rfl, rfl⟩ : LooksLike (ofValue v) (ofValue v))

theorem objectSchema_changeNamed (hf : ∀ v, (ofValue (f v)).LooksLike (ofValue v)) (name : String)
    (properties : Option Value) :
    objectSchema (properties.map (changeNamed name f)) = objectSchema properties := by
  funext notes
  cases properties with
  | none => rfl
  | some w =>
    cases w with
    | map ps =>
      have hrelated := related_ofEntries (related_changeNamed hf name ps)
      rw [Option.map_some, changeNamed, objectSchema, objectSchema,
        schemas_eq_of_related hrelated, requiredNames_eq_of_related hrelated]
    | _ => rfl

theorem looksLike_changeProperty (hf : ∀ v, (ofValue (f v)).LooksLike (ofValue v))
    (name : String) (v : Value) :
    (ofValue (changeMember "properties" (changeNamed name f) v)).LooksLike (ofValue v) := by
  have hother : ∀ {other : String}, other ≠ "properties" →
      (changeMember "properties" (changeNamed name f) v).get? other = v.get? other :=
    fun hne => get?_changeMember_of_ne hne v
  constructor
  · refine schema_congr (hother (by decide)) (hother (by decide)) (hother (by decide))
      (hother (by decide)) ?_ ?_
    · rw [hother (by decide)]
    · rw [get?_changeMember_self, objectSchema_changeNamed hf]
  · rw [required_ofValue, required_ofValue, hother (by decide)]

theorem looksLike_changeItems (hf : ∀ v, (ofValue (f v)).schema = (ofValue v).schema) (v : Value) :
    (ofValue (changeMember "items" f v)).LooksLike (ofValue v) := by
  have hother : ∀ {other : String}, other ≠ "items" →
      (changeMember "items" f v).get? other = v.get? other :=
    fun hne => get?_changeMember_of_ne hne v
  constructor
  · refine schema_congr (hother (by decide)) (hother (by decide)) (hother (by decide))
      (hother (by decide)) ?_ ?_
    · rw [get?_changeMember_self]
      cases v.get? "items" with
      | none => rfl
      | some w => exact hf w
    · rw [hother (by decide)]
  · rw [required_ofValue, required_ofValue, hother (by decide)]

theorem looksLike_changeAt (hf : ∀ v, (ofValue (f v)).LooksLike (ofValue v)) (path : List Step)
    (v : Value) : (ofValue (changeAt f path v)).LooksLike (ofValue v) := by
  induction path generalizing v with
  | nil => exact hf v
  | cons step path ih =>
    cases step with
    | name n => exact looksLike_changeProperty ih n v
    | index i => exact looksLike_changeItems (fun w => (ih w).schema) v

/-- A required flag is not part of the schema of what it is required of. -/
theorem schema_withFlag (flag : Option Value) (v : Value) :
    (ofValue (withFlag flag v)).schema = (ofValue v).schema := by
  have hother : ∀ {other : String}, other ≠ "required" →
      (withFlag flag v).get? other = v.get? other :=
    fun hne => get?_withFlag_of_ne hne flag v
  refine schema_congr (hother (by decide)) (hother (by decide)) (hother (by decide))
    (hother (by decide)) ?_ ?_
  · rw [hother (by decide)]
  · rw [hother (by decide)]

/-- Nobody sees the required flag in a definition of items. -/
theorem looksLike_withFlag_items (flag : Option Value) (path : List Step) (i : Int) (v : Value) :
    (ofValue (changeAt (withFlag flag) (path ++ [.index i]) v)).LooksLike (ofValue v) := by
  rw [changeAt_append]
  exact looksLike_changeAt (looksLike_changeItems (schema_withFlag flag)) path v

end Shape

/-! ## Parameters -/

namespace Definition

/-- Parameters are defined as the properties of an object are. -/
def ofParameters (raw : Value) : Value :=
  .ofFields [("type", .text "object"), ("properties", raw)]

theorem schema_ofParameters (es : List (Value × Value)) :
    (Shape.ofValue (ofParameters (.map es))).schema = (Parameters.ofValue (.map es)).schema := rfl

theorem changeAt_ofParameters (f : Value → Value) (name : String) (path : List Step) (raw : Value) :
    changeAt f (.name name :: path) (ofParameters raw) =
      ofParameters (changeNamed name (changeAt f path) raw) := by
  rw [changeAt]
  rfl

end Definition

end DeclaredTools
