/-
  Returned arguments and the advertised schema. For a declaration without problems whose
  enumerations list texts only or numbers only, and whose names are not empty, validation returns
  what conforms to the schema up to the defaults that it filled in: these are taken as they are
  declared, and neither the problems of a declaration nor validation say anything about them.

  So the returned arguments conform exactly when the filled-in defaults do
  (`returned_conforms_iff`), and they do not always (`default_not_conforming`).
-/
import DeclaredTools.Proofs.Schema.Agreement
import DeclaredTools.Proofs.Shape.Lint
import DeclaredTools.Proofs.Validation.Returned
import DeclaredTools.Registry

namespace DeclaredTools

open OrderedMap Schema Validation

namespace Shape

/-! ## Shapes and their defaults -/

/-- An enumeration lists texts only or numbers only. -/
def listsOneKind : Shape → Bool
  | .enum _ values =>
    values.all (Value.hasJsonType "string") || values.all (Value.hasJsonType "number")
  | _ => true

/-- The default of a shape, if it has one, conforms to the schema that advertises it. -/
def hasConformingDefault (shape : Shape) : Bool :=
  shape.note.default.all fun d => conforms shape.schema.toValue d

mutual

/-- Every default that stands in for something absent from a value is a conforming one. -/
def fillsConform : Shape → Value → Bool
  | .array _ (some items), .list xs => xs.all fun x => fillsConform items x
  | .object _ (some ps), .map es => fillsConformIn ps es
  | _, _ => true

/-- The same for the properties of a record. -/
def fillsConformIn : List (String × Shape) → List (Value × Value) → Bool
  | [], _ => true
  | (name, shape) :: ps, es =>
    (match Value.lookup name es with
      | some v => fillsConform shape v
      | none => shape.hasConformingDefault)
    && fillsConformIn ps es

end

mutual

/-- Where all defaults are conforming ones, so are those that are filled in. -/
theorem fillsConform_of_all : (shape : Shape) → shape.all hasConformingDefault = true →
    (v : Value) → shape.fillsConform v = true
  | .scalar _ _, _, v | .enum _ _, _, v | .array _ none, _, v | .object _ none, _, v => by
    cases v <;> rfl
  | .array _ (some items), h, v => by
    cases v with
    | list xs =>
      refine List.all_eq_true.2 fun x _ => ?_
      exact fillsConform_of_all items (Bool.and_eq_true_iff.1 h).2 x
    | _ => rfl
  | .object _ (some ps), h, v => by
    cases v with
    | map es => exact fillsConformIn_of_allIn ps (Bool.and_eq_true_iff.1 h).2 es
    | _ => rfl

theorem fillsConformIn_of_allIn : (ps : List (String × Shape)) →
    allIn hasConformingDefault ps = true → (es : List (Value × Value)) →
      fillsConformIn ps es = true
  | [], _, _ => rfl
  | (name, shape) :: ps, h, es => by
    obtain ⟨hshape, hrest⟩ := Bool.and_eq_true_iff.1 h
    refine Bool.and_eq_true_iff.2 ⟨?_, fillsConformIn_of_allIn ps hrest es⟩
    cases Value.lookup name es with
    | some v => exact fillsConform_of_all shape hshape v
    | none => exact self_of_all hshape

end

/-- What has to hold of every shape for the law of this file. -/
def isSettled (shape : Shape) : Bool :=
  (shape.hasDistinctNames && shape.hasProperNames) && (shape.hasChoices && shape.listsOneKind)

theorem isSettled_iff {shape : Shape} : shape.isSettled = true ↔
    (shape.hasDistinctNames = true ∧ shape.hasProperNames = true) ∧
      shape.hasChoices = true ∧ shape.listsOneKind = true := by
  simp only [isSettled, Bool.and_eq_true]

end Shape

open Shape

/-! ## Returned values -/

theorem conforms_of_checkScalar_eq_ok {kind : ScalarKind} {v out : Value}
    (h : checkScalar kind v = .ok out) : out.hasJsonType kind.name = true := by
  have hok : (checkScalar kind v).isOk = true := by rw [h]; rfl
  rwa [checkScalar_eq_ok h, ← isOk_checkScalar]

theorem all_eq_all_of_forall₂ {p q : Value → Bool} {R : Value → Value → Prop}
    {xs ys : List Value} (h : List.Forall₂ R xs ys) (heq : ∀ x y, R x y → p y = q x) :
    ys.all p = xs.all q := by
  induction h with
  | nil => rfl
  | cons hxy _ ih => rw [List.all_cons, List.all_cons, heq _ _ hxy, ih]

mutual

/-- A returned value conforms if the defaults in it do. -/
theorem conforms_returned (model : String) : (shape : Shape) → shape.all isSettled = true →
    (v out : Value) → check model shape v = .ok out →
      conforms shape.schema.toValue out = shape.fillsConform v
  | .scalar _ kind, _, v, out, h => by
    rw [Shape.schema, conforms_primitive, conforms_of_checkScalar_eq_ok h]
    cases v <;> rfl
  | .enum _ values, hshape, v, out, h => by
    obtain ⟨_, hchoices, hkind⟩ := isSettled_iff.1 (self_of_all hshape)
    have huniform : isUniform values = true := Bool.and_eq_true_iff.2 ⟨hchoices, hkind⟩
    have hok : (checkChoice (choicesOf values) v).isOk = true := by
      rw [check] at h
      rw [h]
      rfl
    rw [Shape.schema, conforms_primitive, checkChoice_eq_ok h]
    refine (isOk_checkChoice_of_isUniform huniform v).symm.trans (hok.trans ?_)
    cases v <;> rfl
  | .array _ none, _, v, out, h => by
    cases v with
    | list xs =>
      obtain ⟨ys, rfl, hpairs⟩ := checkElements_eq_ok h
      rw [Shape.schema, conforms_array]
      have hall := all_eq_all_of_forall₂ (p := fun y => conforms plainSchema.toValue y)
        (q := fun _ => true) hpairs fun x y hy => by
          rw [plainSchema, conforms_primitive, conforms_of_checkScalar_eq_ok hy]
          rfl
      exact hall.trans (List.all_eq_true.2 fun _ _ => rfl)
    | _ => cases h
  | .array _ (some items), hshape, v, out, h => by
    cases v with
    | list xs =>
      obtain ⟨ys, rfl, hpairs⟩ := checkElements_eq_ok h
      rw [Shape.schema, conforms_array]
      exact all_eq_all_of_forall₂ hpairs fun x y hy =>
        conforms_returned _ items (Bool.and_eq_true_iff.1 hshape).2 x y hy
    | _ => cases h
  | .object _ none, _, v, out, h => by
    cases v with
    | map es =>
      obtain ⟨m, rfl, _⟩ := checkOpenMap_eq_ok h
      rw [Shape.schema, conforms_openMap]
      rfl
    | _ => cases h
  | .object note (some ps), hshape, v, out, h => by
    cases v with
    | map es =>
      obtain ⟨hself, hall⟩ := Bool.and_eq_true_iff.1 hshape
      obtain ⟨⟨hdistinct, hproper⟩, _⟩ := isSettled_iff.1 hself
      have hnodup : (keys ps).Nodup := of_decide_eq_true hdistinct
      have hnonempty : ∀ p ∈ ps, p.1 ≠ "" := fun p hp => by
        simpa using List.all_eq_true.1 hproper p hp
      obtain ⟨rfl, hresults⟩ := check_record_eq_ok hnodup hnonempty h
      rw [Shape.schema, conforms_record]
      show _ = fillsConformIn ps es
      simp only [Value.ofFields, Value.lookup_fields]
      refine conformsIn_returned model ps hall es _ fun p hp => ?_
      obtain ⟨r, hr⟩ := hresults p hp
      exact ⟨r, hr, get?_returned hnodup hp hr⟩
    | _ => cases h

/-- The same for the properties of a record, of which `m` is what is returned. -/
theorem conformsIn_returned (model : String) : (ps : List (String × Shape)) →
    allIn isSettled ps = true → (es : List (Value × Value)) → (m : OrderedMap Value) →
      (∀ p ∈ ps, ∃ r, propertyResult model es p = .ok r ∧ m.get? p.1 = r) →
        (((schemas ps).all fun p => (m.get? p.1).all fun v => conforms p.2.toValue v) &&
          (requiredNames ps).all fun name => (m.get? name).isSome) = fillsConformIn ps es
  | [], _, _, _, _ => rfl
  | (name, shape) :: ps, hps, es, m, hresults => by
    obtain ⟨hshape, hrest⟩ := Bool.and_eq_true_iff.1 hps
    obtain ⟨⟨r, hr, hget⟩, hresults⟩ := List.forall_mem_cons.1 hresults
    have ih := conformsIn_returned model ps hrest es m hresults
    have hhead : ((m.get? name).all fun v => conforms shape.schema.toValue v) =
        (match Value.lookup name es with
          | some v => shape.fillsConform v
          | none => shape.hasConformingDefault) := by
      rw [hget]
      rcases propertyResult_eq_ok hr with ⟨v, out, hv, hout, rfl⟩ | ⟨hnone, rfl, _⟩
      · rw [hv]
        exact conforms_returned _ shape hshape v out hout
      · rw [hnone]
        rfl
    -- what is required and accepted has a value, be it a default
    have hrequired : shape.note.required = true → (m.get? name).isSome = true := by
      intro hnote
      rw [hget]
      rcases propertyResult_eq_ok hr with ⟨v, out, _, _, rfl⟩ | ⟨_, _, hsome⟩
      · rfl
      · exact hsome hnote
    rw [schemas, List.all_cons, requiredNames, fillsConformIn, ← ih, ← hhead]
    cases hnote : shape.note.required with
    | false => rw [if_neg Bool.false_ne_true, Bool.and_assoc]
    | true => rw [if_pos rfl, List.all_cons, hrequired hnote, Bool.true_and, Bool.and_assoc]

end

/-! ## Declarations without problems -/

namespace Declaration

theorem parameterList_ofEntries (key : String) (es : List (Value × Value)) :
    (ofEntries key es).parameterList =
      Parameters.ofValue ((Value.lookup "parameters" es).getD .null) := by
  unfold parameterList ofEntries
  cases Value.lookup "parameters" es with
  | none => rfl
  | some v => cases v <;> rfl

/-- The parameters of a declaration without problems have choices for every enumeration. -/
theorem hasChoices_of_lint_eq_nil {key : String} {es : List (Value × Value)}
    (h : lint key (.map es) = []) :
    (ofEntries key es).parameterList.shape.all hasChoices = true := by
  rw [parameterList_ofEntries]
  rw [lint] at h
  cases hparameters : (Value.lookup "parameters" es).getD .null with
  | null => rfl
  | map ps =>
    rw [hparameters] at h
    dsimp only at h
    rw [parameterProblems_eq_flatMap, List.flatMap_eq_nil_iff] at h
    refine Bool.and_eq_true_iff.2 ⟨rfl, allIn_iff.2 fun p hp => ?_⟩
    obtain ⟨e, he, rfl⟩ := mem_ofEntries_shapesOf hp
    exact hasChoices_of_problems_eq_nil (h e he)
  | _ =>
    rw [hparameters] at h
    cases h

theorem isSettled_of_lint_eq_nil {key : String} {es : List (Value × Value)}
    (hlint : lint key (.map es) = [])
    (hkinds : (ofEntries key es).parameterList.shape.all listsOneKind = true)
    (hnames : (ofEntries key es).parameterList.shape.all hasProperNames = true) :
    (ofEntries key es).parameterList.shape.all isSettled = true := by
  have hdistinct : (ofEntries key es).parameterList.shape.all hasDistinctNames = true := by
    rw [parameterList_ofEntries]
    exact Parameters.distinct_shape_ofValue _
  have hchoices := hasChoices_of_lint_eq_nil hlint
  unfold isSettled
  rw [all_and, all_and, all_and, hdistinct, hnames, hchoices, hkinds]
  rfl

end Declaration

/-- **Returned arguments conform up to their defaults.** For a declaration without problems whose
enumerations list texts only or numbers only and whose names are not empty, the arguments that
validation returns conform to the advertised schema exactly when every default filled in does; in
particular if all declared defaults conform to their own schemas. -/
theorem returned_conforms_iff {key : String} {es : List (Value × Value)} {args out : Value}
    (hlint : lint key (.map es) = [])
    (hkinds : (Declaration.ofEntries key es).parameterList.shape.all listsOneKind = true)
    (hnames : (Declaration.ofEntries key es).parameterList.shape.all hasProperNames = true)
    (hout : (Tool.ofDeclaration (.ofEntries key es)).validate args = .ok out) :
    (conforms (Tool.ofDeclaration (.ofEntries key es)).inputSchema.toValue out = true ↔
      (Declaration.ofEntries key es).parameterList.shape.fillsConform args = true) ∧
    ((Declaration.ofEntries key es).parameterList.shape.all hasConformingDefault = true →
      conforms (Tool.ofDeclaration (.ofEntries key es)).inputSchema.toValue out = true) := by
  have hsettled := Declaration.isSettled_of_lint_eq_nil hlint hkinds hnames
  rw [Tool.validate, Parameters.validate_eq_check] at hout
  have heq : conforms (Tool.ofDeclaration (.ofEntries key es)).inputSchema.toValue out =
      (Declaration.ofEntries key es).parameterList.shape.fillsConform args :=
    conforms_returned _ _ hsettled args out hout
  rw [heq]
  exact ⟨Iff.rfl, fun hdefaults => fillsConform_of_all _ hdefaults args⟩

/-- A size that is 16 unless it is given, and a display whose theme is light. -/
private def display : List (Value × Value) :=
  [(.text "parameters", .map
    [(.text "size", .map [(.text "type", .text "number"), (.text "default", .int 16)]),
      (.text "display", .map [(.text "type", .text "object"), (.text "properties", .map
        [(.text "theme", .map [(.text "type", .text "enum"),
            (.text "enum", .list [.text "light", .text "dark"]),
            (.text "default", .text "light")]),
          (.text "tags", .map [(.text "type", .text "array")])])])])]

theorem returned_conforms_iff_display :
    conforms (Tool.ofDeclaration (.ofEntries "show" display)).inputSchema.toValue
      (.map [(.text "size", .int 16), (.text "display", .map [(.text "theme", .text "light")])])
      = true :=
  have hout : (Tool.ofDeclaration (.ofEntries "show" display)).validate
      (.map [(.text "display", .map [])]) = .ok (.map [(.text "size", .int 16),
        (.text "display", .map [(.text "theme", .text "light")])]) := rfl
  (returned_conforms_iff rfl (by decide +kernel) (by decide +kernel) hout).2 (by decide +kernel)

/-- A number whose default is a text. -/
private def mistyped : List (Value × Value) :=
  [(.text "parameters", .map
    [(.text "a", .map [(.text "type", .text "number"), (.text "default", .text "x")])])]

/-- A declaration can be without problems, and what validation returns not conform. -/
theorem default_not_conforming :
    lint "t" (.map mistyped) = [] ∧
      (Declaration.ofEntries "t" mistyped).parameterList.shape.all listsOneKind = true ∧
      (Tool.ofDeclaration (.ofEntries "t" mistyped)).validate (.map []) =
        .ok (.map [(.text "a", .text "x")]) ∧
      conforms (Tool.ofDeclaration (.ofEntries "t" mistyped)).inputSchema.toValue
        (.map [(.text "a", .text "x")]) = false :=
  ⟨rfl, by decide +kernel, rfl, by decide +kernel⟩

end DeclaredTools
