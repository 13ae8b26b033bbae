/-
  The keys of what validation returns. A record returns those of its properties that its value has
  or that have a default: under their names, in declared order, and nothing else. What the value has
  is returned as the shape of the property by itself returns it; what it lacks, as the default.

  This holds of every record in the value, with one exception. A property whose name is empty is
  returned under a key that is made up from its position, and another property may have this key
  for its name (`nameless_displaces`). So all records return what they declare exactly when each
  property that they return has a name (`returns_declared_iff`).
-/
import DeclaredTools.Proofs.Validation.Brief
import DeclaredTools.Proofs.Validation.Returned

namespace DeclaredTools

open OrderedMap

namespace Value

theorem ofFields_injective {m m' : OrderedMap Value} (h : ofFields m = ofFields m') : m = m' := by
  refine List.map_injective_iff.2 ?_ (Value.map.inj h)
  rintro ⟨k, v⟩ ⟨k', v'⟩ heq
  obtain ⟨hk, rfl⟩ := Prod.mk.inj heq
  rw [Value.text.inj hk]

theorem at?_ofFields (m : OrderedMap Value) (name : String) (path : List Step) :
    (ofFields m).at? (.name name :: path) = (m.get? name).bind (at? path) := by
  rw [ofFields, at?, lookup_fields]

end Value

namespace Validation

open Checked Result

/-! ## Records -/

/-- What a record with these properties is to return for these entries. -/
structure ReturnsDeclared (ps : List (String × Shape)) (es : List (Value × Value))
    (m : OrderedMap Value) : Prop where
  /-- The keys are the names of the properties that are returned, in declared order. -/
  keys_eq : m.keys = (ps.filter (isReturned es)).map Prod.fst
  /-- No two properties share a key. -/
  nodup : m.keys.Nodup
  /-- What the entries have for a property is returned as its shape returns it. -/
  present : ∀ p ∈ ps, ∀ v, Value.lookup p.1 es = some v →
    ∃ w, p.2.validate (some v) = .ok w ∧ m.get? p.1 = some w
  /-- What they do not have is returned as its default, if any. -/
  absent : ∀ p ∈ ps, Value.lookup p.1 es = none → m.get? p.1 = p.2.note.default

/-- Every property that is returned has a name. -/
def ReturnsNamed (ps : List (String × Shape)) (es : List (Value × Value)) : Prop :=
  ∀ p ∈ ps, isReturned es p = true → p.1 ≠ ""

theorem keys_returned {model : String} {ps : OrderedMap Shape} {es : List (Value × Value)}
    (h : ∀ p ∈ ps, ∃ r, propertyResult model es p = .ok r) :
    (ps.filterMapValues (returned? model es)).keys =
      (ps.filter (isReturned es)).map Prod.fst := by
  rw [keys_filterMapValues]
  refine congrArg (List.map Prod.fst) (List.filter_congr fun p hp => ?_)
  obtain ⟨r, hr⟩ := h p hp
  rw [← isSome_of_propertyResult_eq_ok hr, returned?, hr]
  cases r <;> rfl

theorem returnsDeclared_of_named {model : String} {note : Note} {ps : OrderedMap Shape}
    {es : List (Value × Value)} {out : Value} (hnodup : ps.keys.Nodup)
    (hnamed : ReturnsNamed ps es)
    (h : check model (.object note (some ps)) (.map es) = .ok out) :
    ∃ m, out = Value.ofFields m ∧ ReturnsDeclared ps es m := by
  obtain ⟨rfl, hresults⟩ := check_record_eq_ok_of_named hnodup hnamed h
  have hget : ∀ p ∈ ps, ∃ r, propertyResult model es p = .ok r ∧
      (ps.filterMapValues (returned? model es)).get? p.1 = r := by
    intro p hp
    obtain ⟨r, hr⟩ := hresults p hp
    exact ⟨r, hr, get?_returned hnodup hp hr⟩
  refine ⟨_, rfl, keys_returned hresults, ?_, ?_, ?_⟩
  · exact hnodup.sublist (keys_filterMapValues_sublist _ ps)
  · intro p hp v hv
    obtain ⟨r, hr, hr'⟩ := hget p hp
    rcases propertyResult_eq_ok hr with ⟨v', w, hv', hw, rfl⟩ | ⟨hnone, _, _⟩
    · rw [hv] at hv'
      obtain rfl := Option.some.inj hv'
      exact ⟨w, check_eq_ok_of_check_eq_ok hw "Value", hr'⟩
    · rw [hv] at hnone
      cases hnone
  · intro p hp hnone
    obtain ⟨r, hr, hr'⟩ := hget p hp
    rcases propertyResult_eq_ok hr with ⟨v, w, hv, _, _⟩ | ⟨_, hdefault, _⟩
    · rw [hnone] at hv
      cases hv
    · exact hr'.trans hdefault

theorem outputName_ne_empty (index : Nat) (name : String) : outputName index name ≠ "" := by
  unfold outputName
  split
  · intro h
    have := congrArg String.length h
    simp at this
  · next h => exact h

/-- No key of a record that is returned is empty, whatever the names of its properties. -/
theorem empty_not_mem_keys {model : String} {note : Note} {ps : List (String × Shape)}
    {es : List (Value × Value)} {m : OrderedMap Value}
    (h : check model (.object note (some ps)) (.map es) = .ok (Value.ofFields m)) :
    "" ∉ m.keys := by
  rw [check] at h
  obtain ⟨fields, hgather, hfields⟩ := map_eq_ok h
  obtain rfl := Value.ofFields_injective hfields
  intro hmem
  rw [keys_ofEntries, List.mem_eraseDups] at hmem
  obtain ⟨⟨key, v⟩, hf, rfl⟩ := List.mem_map.1 hmem
  obtain ⟨f, hf, rfl⟩ := List.mem_filterMap.1 hf
  obtain ⟨p, _, i, r, _, hfield⟩ := exists_of_forall₂_of_mem (forall₂_fields hgather) hf
  obtain ⟨w, _, heq⟩ := Option.map_eq_some_iff.1 hfield.symm
  exact outputName_ne_empty i p.1 (Prod.mk.inj heq).1

theorem named_of_returnsDeclared {model : String} {note : Note} {ps : List (String × Shape)}
    {es : List (Value × Value)} {m : OrderedMap Value} (hm : ReturnsDeclared ps es m)
    (h : check model (.object note (some ps)) (.map es) = .ok (Value.ofFields m)) :
    ReturnsNamed ps es := by
  intro p hp hreturned hname
  refine empty_not_mem_keys h ?_
  rw [hm.keys_eq, ← hname]
  exact List.mem_map_of_mem (List.mem_filter.2 ⟨hp, hreturned⟩)

/-! ## Records at all places -/

/-- Something holds of every record in a value: of its place, its properties and its entries. -/
def ForRecords (P : List Step → List (String × Shape) → List (Value × Value) → Prop)
    (shape : Shape) (v : Value) : Prop :=
  ∀ path note ps es, shape.at? path = some (.object note (some ps)) →
    v.at? path = some (.map es) → P path ps es

/-- A step from an accepted value to a part of it leads from what is returned for the value to what
is returned for the part, if a record at the start returns what it declares. -/
theorem exists_returned_part {model : String} {shape inner : Shape} {v part out : Value}
    {step : Step} {path : List Step} (hshape : shape.all Shape.hasDistinctNames = true)
    (h : check model shape v = .ok out)
    (hrecord : ∀ note ps es, shape = .object note (some ps) → v = .map es →
      ∃ m, out = Value.ofFields m ∧ ReturnsDeclared ps es m)
    (hplace : shape.at? (step :: path) = some inner) (hpart : v.at? (step :: path) = some part) :
    ∃ model' s w w', s.all Shape.hasDistinctNames = true ∧ check model' s w = .ok w' ∧
      (∀ rest, shape.at? (step :: rest) = s.at? rest) ∧
      (∀ rest, v.at? (step :: rest) = w.at? rest) ∧
      ∀ rest, out.at? (step :: rest) = w'.at? rest := by
  rcases Shape.at?_cons_eq_some hplace with
    ⟨name, note, ps, s, rfl, rfl, hs, _⟩ | ⟨i, note, items, rfl, rfl, _⟩
  · cases v with
    | map es =>
      obtain ⟨w, hw, _⟩ := Option.bind_eq_some_iff.1 hpart
      obtain ⟨m, rfl, hm⟩ := hrecord note ps es rfl rfl
      obtain ⟨w', hw', hget⟩ := hm.present (name, s) (mem_of_get? hs) w hw
      have hall := Shape.all_of_get? (Bool.and_eq_true_iff.1 hshape).2 hs
      refine ⟨"Value", s, w, w', hall, hw', fun rest => ?_, fun rest => ?_, fun rest => ?_⟩
      · rw [Shape.at?, hs, Option.bind_some]
      · rw [Value.at?, hw, Option.bind_some]
      · rw [Value.at?_ofFields, hget, Option.bind_some]
    | _ => cases hpart
  · cases v with
    | list xs =>
      obtain ⟨w, hw, _⟩ := Option.bind_eq_some_iff.1 hpart
      obtain ⟨ys, rfl, hpairs⟩ := checkElements_eq_ok h
      obtain ⟨hi, rfl⟩ := List.getElem?_eq_some_iff.1 hw
      have hi' : i < ys.length := hpairs.length_eq ▸ hi
      have hw' : check (ModelName.item model) items xs[i] = .ok ys[i] := hpairs.get hi hi'
      refine ⟨_, items, xs[i], ys[i], (Bool.and_eq_true_iff.1 hshape).2, hw', fun rest => rfl,
        fun rest => ?_, fun rest => ?_⟩
      · show xs[i]?.bind _ = _
        rw [hw, Option.bind_some]
      · show ys[i]?.bind _ = _
        rw [List.getElem?_eq_getElem hi', Option.bind_some]
    | _ => cases hpart

theorem returnsDeclared_here {model : String} {shape : Shape} {v out : Value}
    (hshape : shape.all Shape.hasDistinctNames = true) (h : check model shape v = .ok out)
    (hnamed : ForRecords (fun _ ps es => ReturnsNamed ps es) shape v) (note : Note)
    (ps : List (String × Shape)) (es : List (Value × Value))
    (hobject : shape = .object note (some ps)) (hmap : v = .map es) :
    ∃ m, out = Value.ofFields m ∧ ReturnsDeclared ps es m := by
  subst hobject hmap
  have hdistinct : (keys ps).Nodup := of_decide_eq_true (Bool.and_eq_true_iff.1 hshape).1
  exact returnsDeclared_of_named hdistinct (hnamed [] note ps es rfl rfl) h

/-- Where all that is returned has a name, all records return what they declare. -/
theorem returnsDeclared_at {model : String} {shape : Shape} {v out : Value} {path : List Step}
    {note : Note} {ps : List (String × Shape)} {es : List (Value × Value)}
    (hshape : shape.all Shape.hasDistinctNames = true) (h : check model shape v = .ok out)
    (hnamed : ForRecords (fun _ ps es => ReturnsNamed ps es) shape v)
    (hplace : shape.at? path = some (.object note (some ps)))
    (hpart : v.at? path = some (.map es)) :
    ∃ m, out.at? path = some (Value.ofFields m) ∧ ReturnsDeclared ps es m := by
  induction path generalizing model shape v out with
  | nil =>
    obtain ⟨m, rfl, hm⟩ := returnsDeclared_here hshape h hnamed note ps es
      (Option.some.inj hplace) (Option.some.inj hpart)
    exact ⟨m, rfl, hm⟩
  | cons step path ih =>
    obtain ⟨model', s, w, w', hs, hw', hshapeAt, hvAt, houtAt⟩ :=
      exists_returned_part hshape h (returnsDeclared_here hshape h hnamed) hplace hpart
    have hnamed' : ForRecords (fun _ ps es => ReturnsNamed ps es) s w := by
      intro rest note ps es hplace hpart
      exact hnamed (step :: rest) note ps es ((hshapeAt rest).trans hplace)
        ((hvAt rest).trans hpart)
    rw [houtAt]
    exact ih hs hw' hnamed' ((hshapeAt path).symm.trans hplace) ((hvAt path).symm.trans hpart)

/-- Where all records return what they declare, all that is returned has a name. -/
theorem returnsNamed_at {model : String} {shape : Shape} {v out : Value} {path : List Step}
    {note : Note} {ps : List (String × Shape)} {es : List (Value × Value)}
    (hshape : shape.all Shape.hasDistinctNames = true) (h : check model shape v = .ok out)
    (hdeclared : ForRecords (fun path ps es => ∃ m, out.at? path = some (Value.ofFields m) ∧
      ReturnsDeclared ps es m) shape v)
    (hplace : shape.at? path = some (.object note (some ps)))
    (hpart : v.at? path = some (.map es)) : ReturnsNamed ps es := by
  induction path generalizing model shape v out with
  | nil =>
    obtain rfl := Option.some.inj hplace
    obtain rfl := Option.some.inj hpart
    obtain ⟨m, hout, hm⟩ := hdeclared [] note ps es rfl rfl
    obtain rfl := Option.some.inj hout
    exact named_of_returnsDeclared hm h
  | cons step path ih =>
    have hrecord : ∀ note ps es, shape = .object note (some ps) → v = .map es →
        ∃ m, out = Value.ofFields m ∧ ReturnsDeclared ps es m := by
      rintro note ps es rfl rfl
      obtain ⟨m, hout, hm⟩ := hdeclared [] note ps es rfl rfl
      exact ⟨m, Option.some.inj hout, hm⟩
    obtain ⟨model', s, w, w', hs, hw', hshapeAt, hvAt, houtAt⟩ :=
      exists_returned_part hshape h hrecord hplace hpart
    have hdeclared' : ForRecords (fun path ps es => ∃ m, w'.at? path = some (Value.ofFields m) ∧
        ReturnsDeclared ps es m) s w := by
      intro rest note ps es hplace hpart
      rw [← houtAt]
      exact hdeclared (step :: rest) note ps es ((hshapeAt rest).trans hplace)
        ((hvAt rest).trans hpart)
    exact ih hs hw' hdeclared' ((hshapeAt path).symm.trans hplace) ((hvAt path).symm.trans hpart)

theorem returnsNamed_of_hasProperNames {shape : Shape}
    (h : shape.all Shape.hasProperNames = true) (v : Value) :
    ForRecords (fun _ ps es => ReturnsNamed ps es) shape v := by
  intro path note ps es hplace _ p hp _
  exact Shape.ne_empty_of_hasProperNames (Shape.self_of_all (Shape.all_of_at? h hplace)) hp

/-- **What validation returns has the declared keys.** For arguments that parameters accept, each
record in them is returned with exactly the names of those of its properties that it has or that
have a default, in declared order, with the returned values and the defaults, if and only if none
of these names is empty, in any of the records; in particular if no property has an empty name. -/
theorem returns_declared_iff {ps : Parameters} {model : String} {args out : Value}
    (hdistinct : ps.shape.all Shape.hasDistinctNames = true)
    (hout : ps.validate model (some args) = .ok out) :
    (ForRecords (fun path qs es => ∃ m, out.at? path = some (Value.ofFields m) ∧
        ReturnsDeclared qs es m) ps.shape args ↔
      ForRecords (fun _ qs es => ReturnsNamed qs es) ps.shape args) ∧
    (ps.shape.all Shape.hasProperNames = true →
      ForRecords (fun path qs es => ∃ m, out.at? path = some (Value.ofFields m) ∧
        ReturnsDeclared qs es m) ps.shape args) := by
  rw [Parameters.validate_eq_check] at hout
  have hnamed : ForRecords (fun _ qs es => ReturnsNamed qs es) ps.shape args →
      ForRecords (fun path qs es => ∃ m, out.at? path = some (Value.ofFields m) ∧
        ReturnsDeclared qs es m) ps.shape args := by
    intro h path note qs es hplace hpart
    exact returnsDeclared_at hdistinct hout h hplace hpart
  refine ⟨⟨fun h => ?_, hnamed⟩, fun h => hnamed (returnsNamed_of_hasProperNames h args)⟩
  intro path note qs es hplace hpart
  exact returnsNamed_at hdistinct hout h hplace hpart

/-- The properties of a row: one named like a key made up from a position, one with a default. -/
private def rowProperties : List (String × Shape) :=
  [("field_1", .scalar ⟨none, true, none⟩ .string),
    ("size", .scalar ⟨none, false, some (.int 16)⟩ .number), ("label", .plain)]

private def rowTable : Parameters :=
  [("rows", .array ⟨none, false, none⟩ (some (.object ⟨none, false, none⟩ (some rowProperties))))]

/-- A row with a key that is not declared. -/
private def overfullRow : List (Value × Value) :=
  [(.text "field_0", .null), (.text "label", .text "b"), (.text "field_1", .text "a")]

theorem returns_declared_iff_rowTable :
    ∃ m, (Value.ofFields [("rows", .list [.ofFields
        [("field_1", .text "a"), ("size", .int 16), ("label", .text "b")]])]).at?
          [.name "rows", .index 0] = some (Value.ofFields m) ∧
      ReturnsDeclared rowProperties overfullRow m := by
  have hout : rowTable.validate "Arguments"
      (some (.map [(.text "more", .null), (.text "rows", .list [.map overfullRow])])) =
        .ok (.ofFields [("rows", .list [.ofFields
          [("field_1", .text "a"), ("size", .int 16), ("label", .text "b")]])]) := rfl
  exact (returns_declared_iff (by decide +kernel) hout).2 (by decide +kernel)
    [.name "rows", .index 0] _ rowProperties overfullRow rfl rfl

/-- Two texts, the second of which has no name. -/
private def partlyNamed : Parameters := [("field_1", .plain), ("", .plain)]

/-- What has no name can be returned under the name of another property, in its place. -/
theorem nameless_displaces :
    partlyNamed.shape.all Shape.hasDistinctNames = true ∧
    partlyNamed.validate "Arguments"
      (some (.ofFields [("field_1", .text "y"), ("", .text "x")])) =
        .ok (.ofFields [("field_1", .text "x")]) ∧
    ¬ ForRecords (fun path qs es => ∃ m,
        (Value.ofFields [("field_1", .text "x")]).at? path = some (Value.ofFields m) ∧
          ReturnsDeclared qs es m)
      partlyNamed.shape (.ofFields [("field_1", .text "y"), ("", .text "x")]) := by
  refine ⟨by decide +kernel, rfl, fun h => ?_⟩
  obtain ⟨m, hout, hm⟩ := h [] _ partlyNamed _ rfl rfl
  obtain rfl := Value.ofFields_injective (Option.some.inj hout)
  exact absurd hm.keys_eq (by decide +kernel)

end Validation

end DeclaredTools
