/-
  The advertised schema and the validator agree: a JSON value is accepted exactly when it conforms
  to the wire form of the schema (`accepted_iff_conforming`).

  They are built apart from each other, and they do differ on some shapes. An enumeration without
  values advertises nothing and accepts the empty text; one of mixed kinds advertises the kind of
  its first value and accepts all; a required property with a default may be absent all the same.
  Shapes without these are unambiguous.
-/
import DeclaredTools.Proofs.Schema.Conformance
import DeclaredTools.Proofs.Validation.Acceptance

namespace DeclaredTools

open Schema Validation

/-! ## Unambiguous shapes -/

/-- There are choices, and they are all texts or all numbers. -/
def isUniform (choices : List Value) : Bool :=
  !choices.isEmpty &&
    (choices.all (Value.hasJsonType "string") || choices.all (Value.hasJsonType "number"))

namespace Shape

mutual

/-- Every enumeration is uniform, and no property is both required and given a default. -/
def isUnambiguous : Shape → Bool
  | .scalar _ _ => true
  | .enum _ values => isUniform values
  | .array _ none => true
  | .array _ (some items) => isUnambiguous items
  | .object _ none => true
  | .object _ (some ps) => areUnambiguous ps

def areUnambiguous : List (String × Shape) → Bool
  | [] => true
  | (_, shape) :: ps =>
    !(shape.note.required && shape.note.default.isSome) && isUnambiguous shape
      && areUnambiguous ps

end

end Shape

/-! ## Atoms -/

theorem isOk_checkScalar (kind : ScalarKind) (v : Value) :
    (checkScalar kind v).isOk = v.hasJsonType kind.name := by
  cases kind <;> cases v <;> rfl

theorem enumKind_of_text {first : Value} (h : first.hasJsonType "string" = true)
    (values : List Value) : Shape.enumKind (first :: values) = .string := by
  cases first with
  | text s => rfl
  | _ => contradiction

theorem enumKind_of_number {first : Value} (h : first.hasJsonType "number" = true)
    (values : List Value) : Shape.enumKind (first :: values) = .number := by
  cases first with
  | int n => rfl
  | float x => rfl
  | _ => contradiction

section

variable {c : Value}

theorem sameKind_and_same_of_text (hc : c.hasJsonType "string" = true) (v : Value) :
    (sameKind v c && v.same c) = (v.hasJsonType "string" && v.sameJson c) := by
  cases c with
  | text t =>
    cases v <;>
      simp [sameKind, Value.typeName, Value.isNumber, Value.hasJsonType, Value.same,
        Value.sameAtom, Value.sameJson]
  | _ => contradiction

theorem sameKind_and_same_of_number (hc : c.hasJsonType "number" = true) (v : Value) :
    (sameKind v c && v.same c) = (v.hasJsonType "number" && v.sameJson c) := by
  cases c with
  | int n =>
    cases v <;>
      simp [sameKind, Value.isNumber, Value.hasJsonType, Value.same, Value.sameAtom, Value.sameJson]
  | float x =>
    cases v <;>
      simp [sameKind, Value.isNumber, Value.hasJsonType, Value.same, Value.sameAtom, Value.sameJson]
  | _ => contradiction

end

/-- Choices of one type are those of that type which have an equal choice. -/
theorem isAmong_of_type {type : String} {choices : List Value} {v : Value}
    (h : ∀ c ∈ choices, (sameKind v c && v.same c) = (v.hasJsonType type && v.sameJson c)) :
    isAmong choices v = (v.hasJsonType type && choices.any v.sameJson) := by
  rw [isAmong]
  induction choices with
  | nil => rw [List.any_nil, List.any_nil, Bool.and_false]
  | cons c choices ih =>
    rw [List.any_cons, List.any_cons, h c List.mem_cons_self,
      ih fun c hc => h c (List.mem_cons_of_mem _ hc), Bool.and_or_distrib_left]

theorem isOk_checkChoice_of_isUniform {values : List Value} (h : isUniform values = true)
    (v : Value) :
    (checkChoice (choicesOf values) v).isOk =
      (v.hasJsonType (Shape.enumKind values).name && values.any v.sameJson) := by
  obtain ⟨hsome, huniform⟩ := Bool.and_eq_true_iff.1 h
  cases values with
  | nil => contradiction
  | cons first values =>
    rw [isOk_checkChoice, choicesOf, List.isEmpty_cons, if_neg Bool.false_ne_true]
    rcases Bool.or_eq_true_iff.1 huniform with htext | hnumber
    · have hall := List.all_eq_true.1 htext
      rw [enumKind_of_text (hall first List.mem_cons_self)]
      exact isAmong_of_type fun c hc => sameKind_and_same_of_text (hall c hc) v
    · have hall := List.all_eq_true.1 hnumber
      rw [enumKind_of_number (hall first List.mem_cons_self)]
      exact isAmong_of_type fun c hc => sameKind_and_same_of_number (hall c hc) v

/-! ## Maps -/

/-- The keys of a JSON map are all fit for an open map. -/
theorem isOk_checkOpenMap_of_json {es : List (Value × Value)}
    (h : Value.areJsonEntries es = true) : (checkOpenMap es).isOk = true := by
  rw [isOk_checkOpenMap, List.all_eq_true]
  intro e he
  obtain ⟨s, hs⟩ := Value.exists_text_of_mem h he
  rw [hs]
  rfl

/-- An absent property that is not both required and given a default is accepted unless it is
required. -/
theorem isOk_checkAbsent_eq_not_required {note : Note}
    (h : (!(note.required && note.default.isSome)) = true) :
    (checkAbsent note).isOk = !note.required := by
  rw [isOk_checkAbsent]
  cases hrequired : note.required with
  | true =>
    have hdefault : note.default.isSome = false := by simpa [hrequired] using h
    rw [hdefault]
    rfl
  | false => exact Bool.or_true _

/-! ## Shapes -/

mutual

/-- The validator of a shape accepts what conforms to the advertised schema. -/
theorem isOk_check_eq_conforms (model : String) :
    (shape : Shape) → shape.isUnambiguous = true → (v : Value) → v.isJson = true →
      (check model shape v).isOk = conforms shape.schema.toValue v
  | .scalar _ kind, _, v, _ => by
    rw [check, Shape.schema, conforms_primitive, isOk_checkScalar]
    exact (Bool.and_true _).symm
  | .enum _ values, hshape, v, _ => by
    rw [check, Shape.schema, conforms_primitive]
    exact isOk_checkChoice_of_isUniform hshape v
  | .array _ none, _, v, hv => by
    rw [Shape.schema, conforms_array]
    cases v with
    | list xs =>
      rw [check, isOk_checkElements]
      simp only [isOk_checkScalar, Shape.plainSchema, conforms_primitive, Option.all_none,
        Bool.and_true]
    | _ => rfl
  | .array _ (some items), hshape, v, hv => by
    rw [Shape.schema, conforms_array]
    cases v with
    | list xs =>
      rw [check, isOk_checkElements, Bool.eq_iff_iff, List.all_eq_true, List.all_eq_true]
      refine forall₂_congr fun x hx => ?_
      rw [isOk_check_eq_conforms _ items hshape x (Value.isJson_of_mem hv hx)]
    | _ => rfl
  | .object _ none, _, v, hv => by
    rw [Shape.schema, conforms_openMap]
    cases v with
    | map es =>
      rw [check, isOk_checkOpenMap_of_json hv]
      rfl
    | _ => rfl
  | .object _ (some ps), hshape, v, hv => by
    rw [Shape.schema, conforms_record]
    cases v with
    | map es =>
      rw [check, Result.isOk_map, isOk_checkFields]
      exact acceptsProperty_eq_conforms model ps hshape es hv
    | _ => rfl

/-- The same property by property. -/
theorem acceptsProperty_eq_conforms (model : String) :
    (ps : List (String × Shape)) → Shape.areUnambiguous ps = true → (es : List (Value × Value)) →
      Value.areJsonEntries es = true →
      ps.all (acceptsProperty model es) =
        (((Shape.schemas ps).all fun p =>
            (Value.lookup p.1 es).all fun v => conforms p.2.toValue v) &&
          (Shape.requiredNames ps).all fun name => (Value.lookup name es).isSome)
  | [], _, _, _ => rfl
  | (name, shape) :: ps, hps, es, hes => by
    obtain ⟨hshape, hrest⟩ := Bool.and_eq_true_iff.1 hps
    obtain ⟨hnote, hshape⟩ := Bool.and_eq_true_iff.1 hshape
    rw [List.all_cons, acceptsProperty_eq_conforms model ps hrest es hes, Shape.schemas,
      List.all_cons, Shape.requiredNames, acceptsProperty]
    cases hv : Value.lookup name es with
    | some v =>
      have hjson : v.isJson = true := Value.isJson_of_lookup_eq_some hes hv
      simp only [isOk_check_eq_conforms _ shape hshape v hjson]
      cases shape.note.required <;> simp [hv, Bool.and_assoc]
    | none =>
      simp only [isOk_checkAbsent_eq_not_required hnote]
      cases shape.note.required <;> simp [hv]

end

/-- **The schema and the validator agree.** A shape accepts a JSON value exactly when the value
conforms to the wire form of the schema of the shape, and so do parameters, whatever the name of
their record. -/
theorem accepted_iff_conforming :
    (∀ shape : Shape, shape.isUnambiguous = true → ∀ v : Value, v.isJson = true →
      ((shape.validate (some v)).isOk = true ↔ conforms shape.schema.toValue v = true)) ∧
    (∀ ps : Parameters, Shape.areUnambiguous ps = true →
      ∀ (model : String) (v : Value), v.isJson = true →
        ((ps.validate model (some v)).isOk = true ↔ conforms ps.schema.toValue v = true)) := by
  constructor
  · intro shape hshape v hv
    rw [Shape.validate, isOk_check_eq_conforms "Value" shape hshape v hv]
  · intro ps hps model v hv
    -- a set of parameters is checked as the record that it would be as a property
    have hrecord := isOk_check_eq_conforms model (.object ⟨none, false, none⟩ (some ps)) hps v hv
    rw [Shape.schema] at hrecord
    rw [Parameters.validate, Parameters.schema, ← Bool.eq_iff_iff]
    refine Eq.trans ?_ hrecord
    cases v <;> rfl

/-- A record with a required number out of two, a list of texts, and an open map. -/
private def levelled : Shape :=
  .object ⟨none, false, none⟩ (some
    [("level", .enum ⟨some "How much.", true, none⟩ [.int 1, .float (.ofRatio false 5 2)]),
      ("tags", .array ⟨none, false, some .null⟩ none),
      ("rest", .object ⟨none, false, none⟩ none)])

theorem accepted_iff_conforming_levelled :
    (levelled.validate (some (.map [(.text "level", .float (.ofInt 1)),
      (.text "tags", .list [.text "a"]), (.text "more", .null)]))).isOk = true ∧
    (levelled.validate (some (.map [(.text "level", .bool true)]))).isOk ≠ true ∧
    ((Parameters.validate [("scale", levelled)] "Arguments"
      (some (.map [(.text "scale", .map [])]))).isOk ≠ true) := by
  refine ⟨?_, ?_, ?_⟩
  · exact (accepted_iff_conforming.1 levelled (by decide +kernel) _ (by decide +kernel)).2
      (by decide +kernel)
  · exact fun h => absurd ((accepted_iff_conforming.1 levelled (by decide +kernel) _
      (by decide +kernel)).1 h) (by decide +kernel)
  · exact fun h => absurd ((accepted_iff_conforming.2 [("scale", levelled)] (by decide +kernel) _ _
      (by decide +kernel)).1 h) (by decide +kernel)

-- Shapes that are not unambiguous, each with a value that is accepted and does not conform.
example : ∀ e ∈ ([(.enum ⟨none, false, none⟩ [], .text ""),
      (.enum ⟨none, false, none⟩ [.int 1, .text "a"], .text "a"),
      (.object ⟨none, false, none⟩ (some [("a", .scalar ⟨none, true, some .null⟩ .string)]),
        .map [])] : List (Shape × Value)),
    (e.1.validate (some e.2)).isOk = true ∧ conforms e.1.schema.toValue e.2 = false := by
  decide +kernel

end DeclaredTools
