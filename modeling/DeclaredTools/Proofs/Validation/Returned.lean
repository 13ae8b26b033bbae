/-
  What validation returns for a value that it accepts: atoms as they are, lists with every element
  as it is returned by itself, and records with those of their properties that the value has or
  that have a default (`check_record_eq_ok`).

  So nothing is returned that is in neither the value nor a default, and what both have is handed
  down to it (`hereditary_returned`). In particular all maps in it have JSON keys if those in the
  value and in the defaults have (`hasJsonText_returned`).
-/
import DeclaredTools.Proofs.Json.Printing
import DeclaredTools.Proofs.Validation.Issues

namespace DeclaredTools

open OrderedMap

namespace Checked

variable {α : Type}

theorem under_eq_ok {step : Step} {r : Except (List Issue) α} {a : α} (h : under step r = .ok a) :
    r = .ok a := by
  cases r with
  | ok b => exact h
  | error is => cases h

end Checked

namespace Validation

open Checked Result

/-! ## Atoms, lists and open maps -/

theorem checkScalar_eq_ok {kind : ScalarKind} {v out : Value}
    (h : checkScalar kind v = .ok out) : out = v := by
  unfold checkScalar at h
  split at h
  · exact (Except.ok.inj h).symm
  · cases h
  · exact (Except.ok.inj h).symm
  · cases h
  · split at h
    · exact (Except.ok.inj h).symm
    · cases h

theorem checkChoice_eq_ok {choices : List Value} {v out : Value}
    (h : checkChoice choices v = .ok out) : out = v := by
  unfold checkChoice at h
  split at h
  · exact (Except.ok.inj h).symm
  · cases h

theorem checkElements_eq_ok {check : Value → Except (List Issue) Value} {xs : List Value}
    {out : Value} (h : checkElements check xs = .ok out) :
    ∃ ys, out = .list ys ∧ List.Forall₂ (fun x y => check x = .ok y) xs ys := by
  obtain ⟨ys, hgather, rfl⟩ := map_eq_ok h
  -- the index under which an element is checked plays no part in what is returned for it
  have helement : ∀ (i : Nat) (x y : Value), under (.index i) (check x) = .ok y → check x = .ok y :=
    fun _ _ _ => under_eq_ok
  exact ⟨ys, rfl, forall₂_of_mapIdx_eq_map helement (eq_map_ok_of_gather hgather)⟩

theorem checkOpenMap_eq_ok {es : List (Value × Value)} {out : Value}
    (h : checkOpenMap es = .ok out) :
    ∃ m : OrderedMap Value, out = Value.ofFields m ∧ ∀ f ∈ m, ∃ e ∈ es, f.2 = e.2 := by
  obtain ⟨fields, hgather, rfl⟩ := map_eq_ok h
  refine ⟨OrderedMap.ofEntries fields, rfl, fun f hf => ?_⟩
  have hmem : f ∈ fields :=
    mem_of_get?_ofEntries (get?_eq_some_of_mem (nodup_keys_ofEntries fields) hf)
  have hresult : Except.ok f ∈ fields.map (Except.ok (ε := List Issue)) :=
    List.mem_map_of_mem hmem
  rw [← eq_map_ok_of_gather hgather] at hresult
  obtain ⟨e, he, hf⟩ := List.mem_map.1 hresult
  obtain ⟨s, _, rfl⟩ := map_eq_ok hf
  exact ⟨e, he, rfl⟩

/-! ## Records -/

/-- An accepted property of a record has what its value is returned as, or else its default; it has
one of them if it is required. -/
theorem propertyResult_eq_ok {model : String} {es : List (Value × Value)} {name : String}
    {shape : Shape} {r : Option Value} (h : propertyResult model es (name, shape) = .ok r) :
    (∃ v out, Value.lookup name es = some v ∧
      check (ModelName.property model name) shape v = .ok out ∧ r = some out) ∨
    (Value.lookup name es = none ∧ r = shape.note.default ∧
      (shape.note.required = true → r.isSome = true)) := by
  unfold propertyResult at h
  cases hv : Value.lookup name es with
  | some v =>
    rw [hv] at h
    obtain ⟨out, hout, rfl⟩ := map_eq_ok h
    exact .inl ⟨v, out, rfl, hout, rfl⟩
  | none =>
    rw [hv] at h
    refine .inr ⟨rfl, ?_⟩
    dsimp only at h
    unfold checkAbsent at h
    cases hdefault : shape.note.default with
    | some d =>
      rw [hdefault] at h
      obtain rfl := Except.ok.inj h
      exact ⟨rfl, fun _ => rfl⟩
    | none =>
      rw [hdefault] at h
      dsimp only at h
      split at h
      · cases h
      · next hoptional =>
        obtain rfl := Except.ok.inj h
        exact ⟨rfl, fun hrequired => absurd hrequired hoptional⟩

/-- Each property of an accepted record has a result, and its field is made from that. -/
theorem forall₂_fields {model : String} {index : Nat} {ps : List (String × Shape)}
    {es : List (Value × Value)} {fields : List (Option (String × Value))}
    (h : gather (checkFields model index ps es) = .ok fields) :
    List.Forall₂ (fun p f => ∃ i r, propertyResult model es p = .ok r ∧
      f = returnedField i p.1 r) ps fields := by
  have hfields := eq_map_ok_of_gather h
  clear h
  induction ps generalizing index fields with
  | nil =>
    rw [checkFields, eq_comm, List.map_eq_nil_iff] at hfields
    rw [hfields]
    exact .nil
  | cons p ps ih =>
    rw [checkFields_cons] at hfields
    obtain ⟨f, fields, rfl, hf, hrest⟩ := List.map_eq_cons_iff.1 hfields.symm
    obtain ⟨r, hr, rfl⟩ := map_eq_ok hf.symm
    exact .cons ⟨index, r, under_eq_ok hr, rfl⟩ (ih hrest.symm)

/-- A record returns nothing but what its properties gave. -/
theorem mem_recordOf {model : String} {ps : List (String × Shape)} {es : List (Value × Value)}
    {fields : List (Option (String × Value))}
    (h : gather (checkFields model 0 ps es) = .ok fields) {f : String × Value}
    (hf : f ∈ OrderedMap.ofEntries (fields.filterMap id)) :
    ∃ p ∈ ps, propertyResult model es p = .ok (some f.2) := by
  have hmem : f ∈ fields.filterMap id :=
    mem_of_get?_ofEntries (get?_eq_some_of_mem (nodup_keys_ofEntries _) hf)
  obtain ⟨f', hf', hid⟩ := List.mem_filterMap.1 hmem
  obtain rfl : f' = some f := hid
  obtain ⟨p, hp, i, r, hr, hfield⟩ := exists_of_forall₂_of_mem (forall₂_fields h) hf'
  obtain ⟨v, rfl, rfl⟩ := Option.map_eq_some_iff.1 hfield.symm
  exact ⟨p, hp, hr⟩

/-- What a record returns for a property, if anything. -/
def returned? (model : String) (es : List (Value × Value)) (name : String) (shape : Shape) :
    Option Value :=
  (propertyResult model es (name, shape)).toOption.join

/-- A record returns a property that its value has, or that has a default. -/
def isReturned (es : List (Value × Value)) (p : String × Shape) : Bool :=
  (Value.lookup p.1 es).isSome || p.2.note.default.isSome

theorem isSome_of_propertyResult_eq_ok {model : String} {es : List (Value × Value)}
    {p : String × Shape} {r : Option Value} (h : propertyResult model es p = .ok r) :
    r.isSome = isReturned es p := by
  unfold isReturned
  rcases propertyResult_eq_ok h with ⟨v, out, hv, _, rfl⟩ | ⟨hnone, rfl, _⟩
  · rw [hv]
    rfl
  · rw [hnone]
    rfl

/-- An accepted record returns its properties under their names, in their order, if all names are
distinct and those of what is returned are not empty. -/
theorem check_record_eq_ok_of_named {model : String} {note : Note} {ps : OrderedMap Shape}
    {es : List (Value × Value)} {out : Value} (hnodup : ps.keys.Nodup)
    (hnames : ∀ p ∈ ps, isReturned es p = true → p.1 ≠ "")
    (h : check model (.object note (some ps)) (.map es) = .ok out) :
    out = Value.ofFields (ps.filterMapValues (returned? model es)) ∧
      ∀ p ∈ ps, ∃ r, propertyResult model es p = .ok r := by
  rw [check] at h
  obtain ⟨fields, hgather, rfl⟩ := map_eq_ok h
  have hpairs := forall₂_fields hgather
  have hfields : fields.filterMap id = ps.filterMapValues (returned? model es) ∧
      ∀ p ∈ ps, ∃ r, propertyResult model es p = .ok r := by
    clear h hgather hnodup
    induction hpairs with
    | nil => exact ⟨rfl, by simp⟩
    | @cons p f ps fields hp _ ih =>
      obtain ⟨name, shape⟩ := p
      obtain ⟨i, r, hr, rfl⟩ := hp
      obtain ⟨hrest, hall⟩ := ih fun p hp => hnames p (List.mem_cons_of_mem _ hp)
      have hreturned : returned? model es name shape = r := by
        rw [returned?, hr]
        cases r <;> rfl
      refine ⟨?_, List.forall_mem_cons.2 ⟨⟨r, hr⟩, hall⟩⟩
      rw [filterMapValues_cons, hreturned, ← hrest, List.filterMap_cons, returnedField]
      cases r with
      | none => rfl
      | some v =>
        have hname : name ≠ "" :=
          hnames _ List.mem_cons_self (isSome_of_propertyResult_eq_ok hr).symm
        rw [outputName, if_neg hname]
        rfl
  have hdistinct : (ps.filterMapValues (returned? model es)).keys.Nodup :=
    hnodup.sublist (keys_filterMapValues_sublist _ ps)
  refine ⟨?_, hfields.2⟩
  rw [recordOf, hfields.1, ofEntries_eq_self hdistinct]

/-- An accepted record returns its properties under their names, in their order, if all names are
distinct and none is empty. -/
theorem check_record_eq_ok {model : String} {note : Note} {ps : OrderedMap Shape}
    {es : List (Value × Value)} {out : Value} (hnodup : ps.keys.Nodup)
    (hnames : ∀ p ∈ ps, p.1 ≠ "")
    (h : check model (.object note (some ps)) (.map es) = .ok out) :
    out = Value.ofFields (ps.filterMapValues (returned? model es)) ∧
      ∀ p ∈ ps, ∃ r, propertyResult model es p = .ok r :=
  check_record_eq_ok_of_named hnodup (fun p hp _ => hnames p hp) h

/-- What an accepted record has for one of its properties. -/
theorem get?_returned {model : String} {ps : OrderedMap Shape} {es : List (Value × Value)}
    (hnodup : ps.keys.Nodup) {name : String} {shape : Shape} (hmem : (name, shape) ∈ ps)
    {r : Option Value} (hr : propertyResult model es (name, shape) = .ok r) :
    (ps.filterMapValues (returned? model es)).get? name = r := by
  rw [get?_filterMapValues _ hnodup, get?_eq_some_of_mem hnodup hmem, Option.bind_some, returned?,
    hr]
  cases r <;> rfl

end Validation

/-! ## What is handed down -/

/-- A property that the parts of lists and maps have if the whole has it, and that lists and records
have if their parts have it. -/
structure Value.Hereditary (P : Value → Bool) : Prop where
  list_iff : ∀ {xs}, P (.list xs) = true ↔ ∀ x ∈ xs, P x = true
  entry : ∀ {es}, P (.map es) = true → ∀ e ∈ es, P e.2 = true
  ofFields : ∀ {m : List (String × Value)}, (∀ f ∈ m, P f.2 = true) → P (.ofFields m) = true

theorem Value.hereditary_hasJsonText : Hereditary hasJsonText where
  list_iff := haveJsonTexts_iff
  entry := fun h e he => (entriesHaveJsonTexts_iff.1 h e he).2
  ofFields := hasJsonText_ofFields.2

/-- The default of a shape, if it has one, has a property. -/
def Shape.defaultHas (P : Value → Bool) (shape : Shape) : Bool := shape.note.default.all P

/-- The default has a JSON text. -/
def Shape.hasJsonDefault (shape : Shape) : Bool := shape.note.default.all Value.hasJsonText

namespace Validation

open Checked Result Shape

section

variable {P : Value → Bool} (hP : Value.Hereditary P)

include hP

mutual

/-- What is returned is made of parts of the value and of defaults. -/
theorem hereditary_returned (model : String) : (shape : Shape) →
    shape.all (defaultHas P) = true → (v out : Value) → P v = true →
      check model shape v = .ok out → P out = true
  | .scalar _ _, _, v, out, hv, h => by
    rw [checkScalar_eq_ok h]
    exact hv
  | .enum _ _, _, v, out, hv, h => by
    rw [checkChoice_eq_ok h]
    exact hv
  | .array _ none, _, v, out, hv, h => by
    cases v with
    | list xs =>
      obtain ⟨ys, rfl, hpairs⟩ := checkElements_eq_ok h
      refine hP.list_iff.2 fun y hy => ?_
      obtain ⟨x, hx, hxy⟩ := exists_of_forall₂_of_mem hpairs hy
      rw [checkScalar_eq_ok hxy]
      exact hP.list_iff.1 hv x hx
    | _ => cases h
  | .array _ (some items), hshape, v, out, hv, h => by
    cases v with
    | list xs =>
      obtain ⟨ys, rfl, hpairs⟩ := checkElements_eq_ok h
      refine hP.list_iff.2 fun y hy => ?_
      obtain ⟨x, hx, hxy⟩ := exists_of_forall₂_of_mem hpairs hy
      exact hereditary_returned _ items (Bool.and_eq_true_iff.1 hshape).2 x y
        (hP.list_iff.1 hv x hx) hxy
    | _ => cases h
  | .object _ none, _, v, out, hv, h => by
    cases v with
    | map es =>
      obtain ⟨m, rfl, hm⟩ := checkOpenMap_eq_ok h
      refine hP.ofFields fun f hf => ?_
      obtain ⟨e, he, heq⟩ := hm f hf
      rw [heq]
      exact hP.entry hv e he
    | _ => cases h
  | .object _ (some ps), hshape, v, out, hv, h => by
    cases v with
    | map es =>
      rw [check] at h
      obtain ⟨fields, hgather, rfl⟩ := map_eq_ok h
      refine hP.ofFields fun f hf => ?_
      obtain ⟨p, hp, hresult⟩ := mem_recordOf hgather hf
      exact hereditary_property model ps (Bool.and_eq_true_iff.1 hshape).2 es hv p hp f.2 hresult
    | _ => cases h

theorem hereditary_property (model : String) : (ps : List (String × Shape)) →
    allIn (defaultHas P) ps = true → (es : List (Value × Value)) →
      P (.map es) = true → ∀ p ∈ ps, ∀ out,
        propertyResult model es p = .ok (some out) → P out = true
  | [], _, _, _, p, hp, _, _ => by cases hp
  | (name, shape) :: ps, hps, es, hes, p, hp, out, h => by
    obtain ⟨hshape, hrest⟩ := Bool.and_eq_true_iff.1 hps
    rcases List.mem_cons.1 hp with rfl | hp
    · rcases propertyResult_eq_ok h with ⟨v, w, hv, hw, heq⟩ | ⟨_, hdefault, _⟩
      · obtain ⟨k, hmem⟩ := Value.exists_mem_of_lookup hv
        rw [Option.some.inj heq]
        exact hereditary_returned _ shape hshape v w (hP.entry hes (k, v) hmem) hw
      · have hhas : shape.defaultHas P = true := self_of_all hshape
        rw [defaultHas, ← hdefault] at hhas
        exact hhas
    · exact hereditary_property model ps hrest es hes p hp out h

end

end

theorem hasJsonText_returned (model : String) (shape : Shape)
    (hshape : shape.all hasJsonDefault = true) (v out : Value) (hv : v.hasJsonText = true)
    (h : check model shape v = .ok out) : out.hasJsonText = true :=
  hereditary_returned Value.hereditary_hasJsonText model shape hshape v out hv h

end Validation

end DeclaredTools
