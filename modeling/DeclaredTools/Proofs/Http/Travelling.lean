/-
  Values that can travel: those in which all bytes are texts. If the schema of parameters can
  travel, then so can all arguments that are returned for JSON (`travels_of_validate_eq_ok`), since
  every default that may be among them stands in the schema.
-/
import DeclaredTools.Proofs.Json.Reading
import DeclaredTools.Proofs.Validation.Returned
import DeclaredTools.Schema.Basic

namespace DeclaredTools

open Http Result

/-! ## Parts of values that travel -/

/-- The value has a form in which it travels. -/
def Value.travels (v : Value) : Bool := (plain v).isOk

namespace Value

theorem isOk_plainList (xs : List Value) : (plainList xs).isOk = xs.all travels := by
  induction xs with
  | nil => rfl
  | cons x xs ih => rw [plainList, isOk_bind_bind_pure, ih, List.all_cons, travels]

theorem travels_list_iff {xs : List Value} :
    (Value.list xs).travels = true ↔ ∀ x ∈ xs, x.travels = true := by
  rw [travels, plain, isOk_map, isOk_plainList, List.all_eq_true]

theorem travels_of_isOk_plainEntries {es : List (Value × Value)}
    (h : (plainEntries es).isOk = true) : ∀ e ∈ es, e.2.travels = true := by
  induction es with
  | nil => exact fun e he => nomatch he
  | cons e es ih =>
    obtain ⟨k, v⟩ := e
    obtain ⟨answer, hanswer⟩ := isOk_eq_true_iff.1 h
    rw [plainEntries] at hanswer
    obtain ⟨name, _, hanswer⟩ := bind_eq_ok hanswer
    obtain ⟨w, hw, hanswer⟩ := bind_eq_ok hanswer
    obtain ⟨rest, hrest, _⟩ := bind_eq_ok hanswer
    refine List.forall_mem_cons.2 ⟨?_, ih (isOk_eq_true_iff.2 ⟨rest, hrest⟩)⟩
    exact isOk_eq_true_iff.2 ⟨w, hw⟩

theorem isOk_plainEntries_fields (m : List (String × Value)) :
    (plainEntries (m.map fun (k, v) => (.text k, v))).isOk = m.all fun f => f.2.travels := by
  induction m with
  | nil => rfl
  | cons f m ih =>
    obtain ⟨k, v⟩ := f
    show ((plain v) >>= fun v => _ >>= fun es => pure _).isOk = _
    rw [isOk_bind_bind_pure, ih, List.all_cons, travels]

theorem travels_ofFields_iff {m : List (String × Value)} :
    (ofFields m).travels = true ↔ ∀ f ∈ m, f.2.travels = true := by
  rw [travels, ofFields, plain, isOk_map, isOk_plainEntries_fields, List.all_eq_true]

theorem hereditary_travels : Hereditary travels where
  list_iff := travels_list_iff
  entry h := by
    rw [travels, plain, isOk_map] at h
    exact travels_of_isOk_plainEntries h
  ofFields := travels_ofFields_iff.2

end Value

/-! ## Defaults in schemas -/

namespace Shape

open Schema Value

theorem default_travels_of_noteFields {note : Note} {fields : List (String × Value)}
    (h : (ofFields (fields ++ noteFields (annotations note))).travels = true) :
    note.default.all travels = true ∧ ∀ f ∈ fields, f.2.travels = true := by
  have hfields := travels_ofFields_iff.1 h
  refine ⟨?_, fun f hf => hfields f (List.mem_append_left _ hf)⟩
  cases hdefault : note.default with
  | none => rfl
  | some v =>
    refine hfields ("default", v) (List.mem_append_right _ (List.mem_append_right _ ?_))
    rw [annotations, hdefault]
    exact List.mem_singleton.2 rfl

mutual

/-- Every default in a shape stands in its schema, and so travels with it. -/
theorem defaults_travel : (shape : Shape) → shape.schema.toValue.travels = true →
    shape.all (defaultHas travels) = true
  | .scalar _ _, h | .enum _ _, h | .array _ none, h | .object _ none, h =>
    (default_travels_of_noteFields h).1
  | .array _ (some items), h => by
    obtain ⟨hdefault, hfields⟩ := default_travels_of_noteFields h
    have hitems : items.schema.toValue.travels = true :=
      hfields ("items", _) (List.mem_cons_of_mem _ List.mem_cons_self)
    exact Bool.and_eq_true_iff.2 ⟨hdefault, defaults_travel items hitems⟩
  | .object _ (some ps), h => by
    obtain ⟨hdefault, hfields⟩ := default_travels_of_noteFields h
    have hproperties : (Value.map (fieldValues (schemas ps))).travels = true :=
      hfields ("properties", _)
        (List.mem_append_left _ (List.mem_cons_of_mem _ List.mem_cons_self))
    exact Bool.and_eq_true_iff.2 ⟨hdefault, property_defaults_travel ps
      (hereditary_travels.entry hproperties)⟩

theorem property_defaults_travel : (ps : List (String × Shape)) →
    (∀ e ∈ fieldValues (schemas ps), e.2.travels = true) → allIn (defaultHas travels) ps = true
  | [], _ => rfl
  | (name, shape) :: ps, h => by
    obtain ⟨hshape, hrest⟩ := List.forall_mem_cons.1 h
    exact Bool.and_eq_true_iff.2
      ⟨defaults_travel shape hshape, property_defaults_travel ps hrest⟩

end

end Shape

/-! ## JSON travels -/

namespace Value

mutual

theorem travels_of_isJson : (v : Value) → v.isJson = true → v.travels = true
  | .null, _ | .bool _, _ | .int _, _ | .float .nan, _ | .float (.infinite _), _
  | .float (.finite ..), _ | .text _, _ => rfl
  | .list xs, h => travels_list_iff.2 (travel_of_areJson xs h)
  | .map es, h => by
    obtain ⟨m, rfl, hm⟩ := exists_fields_of_areJsonEntries es h
    exact travels_ofFields_iff.2 hm

theorem travel_of_areJson : (xs : List Value) → areJson xs = true → ∀ x ∈ xs, x.travels = true
  | [], _ => fun _ hx => nomatch hx
  | x :: xs, h => by
    obtain ⟨hx, hxs⟩ := Bool.and_eq_true_iff.1 h
    exact List.forall_mem_cons.2 ⟨travels_of_isJson x hx, travel_of_areJson xs hxs⟩

theorem exists_fields_of_areJsonEntries : (es : List (Value × Value)) → areJsonEntries es = true →
    ∃ m : List (String × Value), (m.map fun (k, v) => (Value.text k, v)) = es ∧
      ∀ f ∈ m, f.2.travels = true
  | [], _ => ⟨[], rfl, fun _ hf => nomatch hf⟩
  | (k, v) :: es, h => by
    obtain ⟨⟨s, rfl⟩, hv, hes⟩ := areJsonEntries_cons_iff.1 h
    obtain ⟨m, rfl, hm⟩ := exists_fields_of_areJsonEntries es hes
    exact ⟨(s, v) :: m, rfl, List.forall_mem_cons.2 ⟨travels_of_isJson v hv, hm⟩⟩

end

end Value

/-- What is returned for JSON arguments travels if the schema does. -/
theorem Parameters.travels_of_validate_eq_ok {ps : Parameters} {model : String}
    {es : Arguments} {out : Value} (hschema : ps.schema.toValue.travels = true)
    (hjson : Value.areJsonEntries es = true) (h : ps.validate model (some (.map es)) = .ok out) :
    out.travels = true := by
  -- parameters have the schema that they would have as a property
  have hdefaults : ps.shape.all (Shape.defaultHas Value.travels) = true :=
    Shape.defaults_travel ps.shape hschema
  rw [Parameters.validate_eq_check] at h
  exact Validation.hereditary_returned Value.hereditary_travels model ps.shape hdefaults (.map es)
    out (Value.travels_of_isJson _ hjson) h

end DeclaredTools
