/-
  The kind of an enumeration. Three parts tell kinds of values apart: the check of definitions,
  which knows numbers and all else; the schema, which goes by the first value and calls all else a
  text; and the validator, which compares a value with each choice, kind by kind. On a definition
  without problems the first two agree (`enumKind_eq_of_mem`), and the third agrees with them on
  texts and numbers (`sameKind_and_same_and_isTextOrNumber`). Hence `enum_kinds_agree_iff`: schema
  and validator agree exactly when the choices are texts and numbers.

  Truth values, nulls and dates can be listed without a problem. They are accepted, under a schema
  that calls them texts.
-/
import DeclaredTools.Proofs.Schema.Agreement
import DeclaredTools.Proofs.Shape.Lint
import DeclaredTools.Proofs.Validation.Required

namespace DeclaredTools

open Schema Validation

/-! ## Texts and numbers -/

namespace Value

/-- A text or a number. A truth value is no number. -/
def isTextOrNumber (v : Value) : Bool := v.hasJsonType "string" || v.hasJsonType "number"

theorem hasJsonType_string (v : Value) : v.hasJsonType "string" = (v.typeName == "str") := by
  cases v <;> rfl

theorem hasJsonType_number (v : Value) : v.hasJsonType "number" = v.isNumber := by
  cases v <;> rfl

theorem isTextOrNumber_eq_of_sameKind {v c : Value} (h : sameKind v c = true) :
    v.isTextOrNumber = c.isTextOrNumber := by
  unfold isTextOrNumber
  rw [hasJsonType_number, hasJsonType_number, hasJsonType_string, hasJsonType_string]
  unfold sameKind at h
  split at h
  · obtain ⟨hv, hc⟩ := Bool.and_eq_true_iff.1 h
    rw [hv, hc, Bool.or_true, Bool.or_true]
  · next hnumber =>
    obtain ⟨hv, hc⟩ := Bool.or_eq_false_iff.1 (Bool.eq_false_iff.2 hnumber)
    rw [hv, hc, eq_of_beq h]

/-- Only a text is equal to a text. -/
theorem hasJsonType_string_of_sameJson {v c : Value} (h : v.sameJson c = true)
    (hv : v.hasJsonType "string" = true) : c.hasJsonType "string" = true := by
  cases v with
  | text s => cases c <;> first | rfl | cases h
  | _ => cases hv

end Value

/-! ## Kinds of choices -/

section

variable {values : List Value} {c : Value}

theorem isNumber_eq_of_mem {d : Value} (h : Shape.isMixed values = false) (hc : c ∈ values)
    (hd : d ∈ values) : c.isNumber = d.isNumber := by
  rcases Bool.and_eq_false_iff.1 h with hnone | hall
  · have hnone := List.any_eq_false.1 hnone
    rw [Bool.eq_false_iff.2 (hnone c hc), Bool.eq_false_iff.2 (hnone d hd)]
  · have hall := List.all_eq_true.1 ((Bool.not_eq_false' _).mp hall)
    rw [hall c hc, hall d hd]

/-- The schema takes for the kind of a value what the check of definitions takes for it. -/
theorem enumKind_singleton (c : Value) :
    Shape.enumKind [c] = if c.isNumber then .number else .string := rfl

/-- Values that are not mixed are all of the kind of the first. -/
theorem enumKind_eq_of_mem (h : Shape.isMixed values = false) (hc : c ∈ values) :
    Shape.enumKind values = Shape.enumKind [c] := by
  cases values with
  | nil => cases hc
  | cons first values =>
    show Shape.enumKind [first] = Shape.enumKind [c]
    rw [enumKind_singleton, enumKind_singleton,
      isNumber_eq_of_mem h List.mem_cons_self hc]

/-- A listed value is of the kind of its list just when it is a text or a number. -/
theorem hasJsonType_enumKind (h : Shape.isMixed values = false) (hc : c ∈ values) :
    c.hasJsonType (Shape.enumKind values).name = c.isTextOrNumber := by
  rw [enumKind_eq_of_mem h hc]
  cases c <;> rfl

/-- To the validator a text or a number is a choice just when it is of the kind of the choice and
equal to it. -/
theorem sameKind_and_same_and_isTextOrNumber (v c : Value) :
    (sameKind v c && v.same c && v.isTextOrNumber) =
      (v.hasJsonType (Shape.enumKind [c]).name && v.sameJson c) := by
  cases htext : c.hasJsonType "string" with
  | true =>
    rw [sameKind_and_same_of_text htext, enumKind_of_text htext, Value.isTextOrNumber]
    cases hv : v.hasJsonType "string" <;> simp [ScalarKind.name, hv]
  | false =>
    cases hnumber : c.hasJsonType "number" with
    | true =>
      rw [sameKind_and_same_of_number hnumber, enumKind_of_number hnumber, Value.isTextOrNumber]
      cases hv : v.hasJsonType "number" <;> simp [ScalarKind.name, hv]
    | false =>
      -- the choice is neither, so nothing that is a text or a number is like it
      have hneither : c.isTextOrNumber = false := by rw [Value.isTextOrNumber, htext, hnumber]; rfl
      rw [enumKind_singleton, ← Value.hasJsonType_number, hnumber, if_neg Bool.false_ne_true]
      transitivity false
      · rw [Bool.eq_false_iff]
        intro h
        obtain ⟨hsame, hv⟩ := Bool.and_eq_true_iff.1 h
        rw [Value.isTextOrNumber_eq_of_sameKind (Bool.and_eq_true_iff.1 hsame).1, hneither] at hv
        cases hv
      · symm
        rw [Bool.eq_false_iff]
        intro h
        obtain ⟨hv, hsame⟩ := Bool.and_eq_true_iff.1 h
        rw [Value.hasJsonType_string_of_sameJson hsame hv] at htext
        cases htext

/-- The same for a whole list. -/
theorem isAmong_and_isTextOrNumber (h : Shape.isMixed values = false) (v : Value) :
    (isAmong values v && v.isTextOrNumber) =
      (v.hasJsonType (Shape.enumKind values).name && values.any v.sameJson) := by
  rw [isAmong, List.and_any_distrib_right, List.and_any_distrib_left, Bool.eq_iff_iff,
    List.any_eq_true, List.any_eq_true]
  refine exists_congr fun c => and_congr_right fun hc => ?_
  rw [sameKind_and_same_and_isTextOrNumber, enumKind_eq_of_mem h hc]

end

/-! ## Definitions without problems -/

theorem isMixed_eq_false_of_enumProblems {path : String} {es : List (Value × Value)}
    (h : Shape.enumProblems path es = []) : Shape.isMixed (Shape.valuesOf es) = false := by
  unfold Shape.enumProblems at h
  split at h
  · next v vs hlookup =>
    rw [Shape.valuesOf, hlookup]
    split at h
    · cases h
    · next hmixed => exact Bool.eq_false_iff.2 hmixed
  · cases h

/-- The schema and the validator of an enumeration mean the same kind: every choice is of the type
that the schema names, and what is accepted is what conforms. -/
structure KindsAgree (shape : Shape) (choices : List Value) : Prop where
  listed : ∃ kind, shape.schema.toValue.get? "type" = some (.text kind) ∧
    ∀ c ∈ choices, c.hasJsonType kind = true
  accepted : ∀ v, (shape.validate (some v)).isOk = true ↔ conforms shape.schema.toValue v = true

theorem get?_type_primitive (kind : ScalarKind) (choices : Option (List Value))
    (notes : Annotations) :
    (toValue (.primitive kind choices notes)).get? "type" = some (.text kind.name) := by
  unfold toValue
  rw [get?_ofFields]
  rfl

theorem isOk_validate_enum {values : List Value} (hsome : values.isEmpty = false) (note : Note)
    (v : Value) : ((Shape.enum note values).validate (some v)).isOk = isAmong values v := by
  rw [Shape.validate, check, isOk_checkChoice, choicesOf, if_neg (Bool.eq_false_iff.1 hsome)]

/-- Of what is accepted, the texts and numbers conform. -/
theorem conforms_enum {values : List Value} (hsome : values.isEmpty = false)
    (hmixed : Shape.isMixed values = false) (note : Note) (v : Value) :
    conforms (Shape.enum note values).schema.toValue v =
      (((Shape.enum note values).validate (some v)).isOk && v.isTextOrNumber) := by
  rw [isOk_validate_enum hsome, isAmong_and_isTextOrNumber hmixed, Shape.schema,
    conforms_primitive]
  rfl

theorem kindsAgree_enum_iff {values : List Value} (hsome : values.isEmpty = false)
    (hmixed : Shape.isMixed values = false) (note : Note) :
    KindsAgree (.enum note values) values ↔ ∀ c ∈ values, c.isTextOrNumber = true := by
  constructor
  · rintro ⟨⟨kind, hkind, hlisted⟩, -⟩ c hc
    obtain rfl : (Shape.enumKind values).name = kind := by
      rw [Shape.schema, get?_type_primitive] at hkind
      exact Value.text.inj (Option.some.inj hkind)
    rw [← hasJsonType_enumKind hmixed hc]
    exact hlisted c hc
  · intro h
    refine ⟨⟨_, get?_type_primitive _ _ _, fun c hc => ?_⟩, fun v => ?_⟩
    · rw [hasJsonType_enumKind hmixed hc, h c hc]
    · rw [conforms_enum hsome hmixed, Bool.and_eq_true_iff]
      refine ⟨fun hok => ⟨hok, ?_⟩, fun hok => hok.1⟩
      rw [isOk_validate_enum hsome, isAmong, List.any_eq_true] at hok
      obtain ⟨c, hc, hchoice⟩ := hok
      obtain ⟨hkind, -⟩ := Bool.and_eq_true_iff.1 hchoice
      rw [Value.isTextOrNumber_eq_of_sameKind hkind, h c hc]

/-- **Kinds of enumerations agree on texts and numbers.** Of an enumeration without problems, the
schema and the validator mean the same kind exactly when all choices are texts and numbers. Whatever
the choices are, the values that conform are the texts and numbers among those accepted. -/
theorem enum_kinds_agree_iff {path : String} {es : List (Value × Value)}
    (htag : TypeTag.ofValue? (Shape.tagOf es) = some .enum)
    (hproblems : Shape.problems path (.map es) = []) :
    (KindsAgree (Shape.ofValue (.map es)) (Shape.valuesOf es) ↔
      ∀ c ∈ Shape.valuesOf es, c.isTextOrNumber = true) ∧
    ∀ v, conforms (Shape.ofValue (.map es)).schema.toValue v =
      (((Shape.ofValue (.map es)).validate (some v)).isOk && v.isTextOrNumber) := by
  obtain ⟨tag, hknown, hparts⟩ := Shape.tag_of_problems_eq_nil hproblems
  obtain rfl : tag = .enum := Option.some.inj (hknown.symm.trans htag)
  have hsome := Shape.valuesOf_ne_nil hparts
  have hmixed := isMixed_eq_false_of_enumProblems hparts
  rw [Shape.ofValue, htag]
  exact ⟨kindsAgree_enum_iff hsome hmixed _, conforms_enum hsome hmixed _⟩

/-- A whole number and a fraction. -/
private def halves : List (Value × Value) :=
  [(.text "type", .text "enum"),
    (.text "enum", .list [.int 1, .float (.ofRatio false 5 2)])]

theorem enum_kinds_agree_iff_halves :
    KindsAgree (Shape.ofValue (.map halves)) (Shape.valuesOf halves) ∧
    conforms (Shape.ofValue (.map halves)).schema.toValue (.float (.ofInt 1)) = true ∧
    conforms (Shape.ofValue (.map halves)).schema.toValue (.bool true) = false := by
  obtain ⟨hagree, hconforms⟩ := @enum_kinds_agree_iff "half" halves rfl rfl
  refine ⟨hagree.2 (by decide +kernel), ?_, ?_⟩
  · rw [hconforms]
    decide +kernel
  · rw [hconforms]
    decide +kernel

/-- The two truth values. -/
private def switches : List (Value × Value) :=
  [(.text "type", .text "enum"), (.text "enum", .list [.bool true, .bool false])]

/-- Truth values are listed without a problem and accepted; the schema calls them texts, and admits
none of them. -/
theorem truth_values_are_no_texts :
    TypeTag.ofValue? (Shape.tagOf switches) = some .enum ∧
    Shape.problems "on" (.map switches) = [] ∧
    ¬ KindsAgree (Shape.ofValue (.map switches)) (Shape.valuesOf switches) ∧
    ((Shape.ofValue (.map switches)).schema.toValue.get? "type" = some (.text "string")) ∧
    ∀ v ∈ [Value.bool true, .bool false],
      ((Shape.ofValue (.map switches)).validate (some v)).isOk = true ∧
      conforms (Shape.ofValue (.map switches)).schema.toValue v = false := by
  refine ⟨rfl, rfl, fun h => ?_, rfl, by decide +kernel⟩
  exact absurd ((h.accepted (.bool true)).1 (by decide +kernel)) (by decide +kernel)

end DeclaredTools
