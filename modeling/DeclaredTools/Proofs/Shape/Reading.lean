/-
  Shapes as trees. `Shape.all` asks something of a shape and of all shapes in it. A shape that was
  read from a definition consists of shapes that were read from parts of this definition, so that
  what every reading gives holds everywhere in the tree (`all_ofValue`); thus no object in it has
  two properties of one name (`distinct_ofValue`).
-/
import DeclaredTools.Proofs.OrderedMap
import DeclaredTools.Shape.Reading

namespace DeclaredTools

open OrderedMap

namespace Value

/-! ## Parts of definitions -/

theorem exists_mem_of_lookup {name : String} {v : Value} {es : List (Value × Value)}
    (h : lookup name es = some v) : ∃ k, (k, v) ∈ es := by
  induction es with
  | nil => cases h
  | cons e es ih =>
    obtain ⟨k, w⟩ := e
    rw [lookup] at h
    split at h
    · exact ⟨k, Option.some.inj h ▸ List.mem_cons_self⟩
    · obtain ⟨k', hmem⟩ := ih h
      exact ⟨k', List.mem_cons_of_mem _ hmem⟩

theorem sizeOf_lt_of_mem {e : Value × Value} {es : List (Value × Value)} (h : e ∈ es) :
    sizeOf e.2 < sizeOf es := by
  have hmem := List.sizeOf_lt_of_mem h
  obtain ⟨k, v⟩ := e
  simp only [Prod.mk.sizeOf_spec] at hmem ⊢
  omega

theorem sizeOf_lt_of_lookup {name : String} {v : Value} {es : List (Value × Value)}
    (h : lookup name es = some v) : sizeOf v < sizeOf es := by
  obtain ⟨k, hmem⟩ := exists_mem_of_lookup h
  exact sizeOf_lt_of_mem hmem

theorem isText_iff {name : String} {k : Value} : k.isText name = true ↔ k = .text name := by
  cases k <;> simp [isText]

theorem lookup_append (name : String) (es fs : List (Value × Value)) :
    lookup name (es ++ fs) = (lookup name es).or (lookup name fs) := by
  induction es with
  | nil => rfl
  | cons e es ih =>
    obtain ⟨k, v⟩ := e
    rw [List.cons_append, lookup, lookup]
    by_cases hk : k.isText name = true
    · rw [if_pos hk, if_pos hk, Option.some_or]
    · rw [if_neg hk, if_neg hk, ih]

/-- What is under a key is the same with entries left out that have other keys. -/
theorem lookup_filter {keep : Value × Value → Bool} {name : String}
    (hkeep : ∀ v, keep (.text name, v) = true) (es : List (Value × Value)) :
    lookup name (es.filter keep) = lookup name es := by
  induction es with
  | nil => rfl
  | cons e es ih =>
    obtain ⟨k, v⟩ := e
    by_cases hk : k.isText name = true
    · have hkept : keep (k, v) = true := isText_iff.1 hk ▸ hkeep v
      rw [List.filter_cons_of_pos hkept, lookup, lookup, if_pos hk, if_pos hk]
    · rw [List.filter_cons, lookup, if_neg hk]
      split
      · rw [lookup, if_neg hk, ih]
      · exact ih

/-- Nothing is under a key whose entries are left out. -/
theorem lookup_filter_eq_none {keep : Value × Value → Bool} {name : String}
    (hkeep : ∀ v, keep (.text name, v) = false) (es : List (Value × Value)) :
    lookup name (es.filter keep) = none := by
  induction es with
  | nil => rfl
  | cons e es ih =>
    obtain ⟨k, v⟩ := e
    rw [List.filter_cons]
    split
    · next hkept =>
      have hk : ¬ k.isText name = true := by
        intro hk
        rw [isText_iff.1 hk, hkeep] at hkept
        exact Bool.false_ne_true hkept
      rw [lookup, if_neg hk, ih]
    · exact ih

theorem lookup_fields (name : String) (fields : OrderedMap Value) :
    lookup name (fields.map fun (k, v) => (.text k, v)) = fields.get? name := by
  induction fields with
  | nil => rfl
  | cons f fields ih =>
    obtain ⟨n, v⟩ := f
    rw [List.map_cons, lookup, get?_cons, ih, isText]
    simp only [beq_iff_eq]

end Value

namespace Shape

theorem itemsOf_eq (es : List (Value × Value)) :
    itemsOf es = match Value.lookup "items" es with
      | none => none
      | some .null => none
      | some v => some (ofValue v) := by
  induction es with
  | nil => rfl
  | cons e es ih =>
    obtain ⟨k, v⟩ := e
    rw [itemsOf.eq_def, Value.lookup]
    dsimp only
    by_cases hk : k.isText "items" = true
    · rw [if_pos hk, if_pos hk]
      cases v <;> rfl
    · rw [if_neg hk, if_neg hk]
      exact ih

theorem propertiesOf_eq (es : List (Value × Value)) :
    propertiesOf es = match Value.lookup "properties" es with
      | some (.map ps) => some (OrderedMap.ofEntries (shapesOf ps))
      | _ => none := by
  induction es with
  | nil => rfl
  | cons e es ih =>
    obtain ⟨k, v⟩ := e
    rw [propertiesOf.eq_def, Value.lookup]
    dsimp only
    by_cases hk : k.isText "properties" = true
    · rw [if_pos hk, if_pos hk]
      cases v <;> rfl
    · rw [if_neg hk, if_neg hk]
      exact ih

theorem itemsOf_eq_some {es : List (Value × Value)} {items : Shape} (h : itemsOf es = some items) :
    ∃ v, Value.lookup "items" es = some v ∧ v ≠ .null ∧ items = ofValue v := by
  rw [itemsOf_eq] at h
  split at h
  · cases h
  · cases h
  · next v hnull hlookup => exact ⟨v, hlookup, hnull, (Option.some.inj h).symm⟩

theorem propertiesOf_eq_some {es : List (Value × Value)} {ps : List (String × Shape)}
    (h : propertiesOf es = some ps) :
    ∃ qs, Value.lookup "properties" es = some (.map qs) ∧
      ps = OrderedMap.ofEntries (shapesOf qs) := by
  rw [propertiesOf_eq] at h
  split at h
  · next qs hlookup => exact ⟨qs, hlookup, (Option.some.inj h).symm⟩
  · cases h

theorem shapesOf_eq_map (es : List (Value × Value)) :
    shapesOf es = es.map fun e => (e.1.display, ofValue e.2) := by
  induction es with
  | nil => rfl
  | cons e es ih =>
    obtain ⟨k, v⟩ := e
    rw [shapesOf, ih, List.map_cons]

/-- Every property that was read was read from an entry. -/
theorem mem_ofEntries_shapesOf {es : List (Value × Value)} {p : String × Shape}
    (h : p ∈ OrderedMap.ofEntries (shapesOf es)) : ∃ e ∈ es, p = (e.1.display, ofValue e.2) := by
  have hget := get?_eq_some_of_mem (nodup_keys_ofEntries _) h
  have hmem := mem_of_get?_ofEntries hget
  rw [shapesOf_eq_map] at hmem
  obtain ⟨e, he, hp⟩ := List.mem_map.1 hmem
  exact ⟨e, he, hp.symm⟩

/-! ## Everywhere in a tree -/

mutual

/-- Something holds of a shape, and of the shapes of its items or properties, and so on. -/
def all (p : Shape → Bool) : Shape → Bool
  | .scalar note kind => p (.scalar note kind)
  | .enum note values => p (.enum note values)
  | .array note none => p (.array note none)
  | .array note (some items) => p (.array note (some items)) && all p items
  | .object note none => p (.object note none)
  | .object note (some ps) => p (.object note (some ps)) && allIn p ps

/-- The same of the shapes of all properties. -/
def allIn (p : Shape → Bool) : List (String × Shape) → Bool
  | [] => true
  | (_, shape) :: ps => all p shape && allIn p ps

end

section

variable {p : Shape → Bool}

theorem self_of_all {shape : Shape} (h : shape.all p = true) : p shape = true := by
  unfold all at h
  split at h
  all_goals first
    | exact h
    | exact (Bool.and_eq_true_iff.1 h).1

theorem allIn_iff {ps : List (String × Shape)} :
    allIn p ps = true ↔ ∀ e ∈ ps, e.2.all p = true := by
  induction ps with
  | nil => simp [allIn]
  | cons e ps ih =>
    obtain ⟨name, shape⟩ := e
    rw [allIn, Bool.and_eq_true_iff, ih, List.forall_mem_cons]

theorem all_of_get? {ps : OrderedMap Shape} (h : allIn p ps = true) {name : String}
    {shape : Shape} (hget : ps.get? name = some shape) : shape.all p = true := by
  induction ps with
  | nil => cases hget
  | cons e ps ih =>
    obtain ⟨n, s⟩ := e
    obtain ⟨hs, hps⟩ := Bool.and_eq_true_iff.1 h
    rw [get?_cons] at hget
    split at hget
    · exact Option.some.inj hget ▸ hs
    · exact ih hps hget

mutual

theorem all_and (p q : Shape → Bool) : (shape : Shape) →
    shape.all (fun s => p s && q s) = (shape.all p && shape.all q)
  | .scalar _ _ | .enum _ _ | .array _ none | .object _ none => rfl
  | .array note (some items) => by
    rw [all, all, all, all_and p q items]
    ac_rfl
  | .object note (some ps) => by
    rw [all, all, all, allIn_and p q ps]
    ac_rfl

theorem allIn_and (p q : Shape → Bool) : (ps : List (String × Shape)) →
    allIn (fun s => p s && q s) ps = (allIn p ps && allIn q ps)
  | [] => rfl
  | (_, shape) :: ps => by
    rw [allIn, allIn, allIn, all_and p q shape, allIn_and p q ps]
    ac_rfl

end

/-- What holds of every shape read from a definition of some kind holds everywhere in such a shape,
if the parts of such a definition are of this kind again. -/
theorem all_ofValue {Q : Value → Prop} (hself : ∀ v, Q v → p (ofValue v) = true)
    (hitems : ∀ es v, Q (.map es) → TypeTag.ofValue? (tagOf es) = some .array →
      Value.lookup "items" es = some v → v ≠ .null → Q v)
    (hproperties : ∀ es qs, Q (.map es) → TypeTag.ofValue? (tagOf es) = some .object →
      Value.lookup "properties" es = some (.map qs) → ∀ e ∈ qs, Q e.2)
    (v : Value) (hv : Q v) : (ofValue v).all p = true := by
  have hroot := hself v hv
  match v, hv, hroot with
  | .map es, hv, hroot =>
    rw [ofValue] at hroot ⊢
    cases htag : TypeTag.ofValue? (tagOf es) with
    | none =>
      simp only [htag] at hroot
      exact hroot
    | some tag =>
      simp only [htag] at hroot
      cases tag with
      | scalar kind => exact hroot
      | enum => exact hroot
      | array =>
        cases hfound : itemsOf es with
        | none =>
          rw [hfound] at hroot
          exact hroot
        | some items =>
          rw [hfound] at hroot
          obtain ⟨w, hlookup, hnull, rfl⟩ := itemsOf_eq_some hfound
          have hsize : sizeOf w < sizeOf (Value.map es) := by
            have := Value.sizeOf_lt_of_lookup hlookup
            simp only [Value.map.sizeOf_spec]
            omega
          have hw : Q w := hitems es w hv htag hlookup hnull
          exact Bool.and_eq_true_iff.2 ⟨hroot, all_ofValue hself hitems hproperties w hw⟩
      | object =>
        cases hfound : propertiesOf es with
        | none =>
          rw [hfound] at hroot
          exact hroot
        | some ps =>
          rw [hfound] at hroot
          obtain ⟨qs, hlookup, rfl⟩ := propertiesOf_eq_some hfound
          refine Bool.and_eq_true_iff.2 ⟨hroot, allIn_iff.2 fun e he => ?_⟩
          obtain ⟨entry, hentry, rfl⟩ := mem_ofEntries_shapesOf he
          have hsize : sizeOf entry.2 < sizeOf (Value.map es) := by
            have := Value.sizeOf_lt_of_lookup hlookup
            have := Value.sizeOf_lt_of_mem hentry
            simp only [Value.map.sizeOf_spec] at *
            omega
          have hpart : Q entry.2 := hproperties es qs hv htag hlookup entry hentry
          exact all_ofValue hself hitems hproperties entry.2 hpart
  | .null, _, hroot | .bool _, _, hroot | .int _, _, hroot | .float _, _, hroot
  | .text _, _, hroot | .bytes _, _, hroot | .date _, _, hroot | .timestamp _, _, hroot
  | .list _, _, hroot | .tuple _, _, hroot | .set _, _, hroot => exact hroot
termination_by sizeOf v
decreasing_by all_goals assumption

end

/-! ## Names -/

/-- No two properties of an object have one name. -/
def hasDistinctNames : Shape → Bool
  | .object _ (some ps) => decide (keys ps).Nodup
  | _ => true

/-- No property of an object has an empty name. -/
def hasProperNames : Shape → Bool
  | .object _ (some ps) => ps.all fun p => p.1 != ""
  | _ => true

theorem ne_empty_of_hasProperNames {note : Note} {ps : List (String × Shape)}
    (h : hasProperNames (.object note (some ps)) = true) {p : String × Shape} (hp : p ∈ ps) :
    p.1 ≠ "" := by
  simpa using List.all_eq_true.1 h p hp

theorem hasDistinctNames_ofValue (v : Value) : (ofValue v).hasDistinctNames = true := by
  unfold ofValue
  split
  · next es =>
    split
    · rfl
    · rfl
    · rfl
    · cases hfound : propertiesOf es with
      | none => rfl
      | some ps =>
        obtain ⟨qs, _, rfl⟩ := propertiesOf_eq_some hfound
        exact decide_eq_true (nodup_keys_ofEntries _)
    · rfl
  · rfl

theorem distinct_ofValue (v : Value) : (ofValue v).all hasDistinctNames = true :=
  all_ofValue (Q := fun _ => True) (fun v _ => hasDistinctNames_ofValue v)
    (fun _ _ _ _ _ _ => trivial) (fun _ _ _ _ _ _ _ => trivial) v trivial

end Shape

/-! ## Parameters -/

namespace Parameters

/-- Parameters as the properties of one object. -/
def shape (ps : Parameters) : Shape := .object ⟨none, false, none⟩ (some ps)

theorem distinct_shape_ofValue (raw : Value) :
    (ofValue raw).shape.all Shape.hasDistinctNames = true := by
  cases raw with
  | map es =>
    refine Bool.and_eq_true_iff.2 ⟨decide_eq_true (nodup_keys_ofEntries _), ?_⟩
    refine Shape.allIn_iff.2 fun e he => ?_
    obtain ⟨entry, _, rfl⟩ := Shape.mem_ofEntries_shapesOf he
    exact Shape.distinct_ofValue entry.2
  | _ => rfl

end Parameters

end DeclaredTools
