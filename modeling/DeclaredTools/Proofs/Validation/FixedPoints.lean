/-
  Validation of what validation has returned. Where no property has an empty name and each default
  is a value that its own shape accepts and returns unchanged, what was returned is accepted again,
  and returned as it is (`validate_returned_eq_self`).

  The reason is that a record finds for each property in what it returned the same as it found in
  the value (`propertyResult_returned`): a value that is returned unchanged, or a default that is,
  or nothing again.
-/
import DeclaredTools.Proofs.Validation.Brief
import DeclaredTools.Proofs.Validation.Returned

namespace DeclaredTools

open OrderedMap

namespace Shape

mutual

/-- The default of every property within the shape is accepted by its own shape and returned
unchanged. -/
def HasFixedDefaults : Shape → Prop
  | .array _ (some items) => HasFixedDefaults items
  | .object _ (some ps) => HaveFixedDefaults ps
  | _ => True

/-- The same for the properties of an object. -/
def HaveFixedDefaults : List (String × Shape) → Prop
  | [] => True
  | (_, shape) :: ps =>
    (∀ d, shape.note.default = some d → shape.validate (some d) = .ok d) ∧
      HasFixedDefaults shape ∧ HaveFixedDefaults ps

end

end Shape

namespace Checked

theorem gather_map_ok {α : Type} (as : List α) :
    gather (as.map (Except.ok (ε := List Issue))) = .ok as := by
  induction as with
  | nil => rfl
  | cons a as ih =>
    rw [List.map_cons, gather.eq_def]
    dsimp only
    rw [ih]

end Checked

namespace Validation

open Checked Result Shape

/-- An open map takes the texts among its keys as they are. -/
theorem checkOpenMap_fields {m : OrderedMap Value} (h : m.keys.Nodup) :
    checkOpenMap (m.map fun (k, v) => (.text k, v)) = .ok (Value.ofFields m) := by
  rw [checkOpenMap, List.map_map]
  show (gather (m.map (Except.ok (ε := List Issue)))).map
    (fun fields => Value.ofFields (OrderedMap.ofEntries fields)) = _
  rw [gather_map_ok]
  exact congrArg (fun m => Except.ok (Value.ofFields m)) (ofEntries_eq_self h)

mutual

/-- What a check returned is accepted again and returned as it is. -/
theorem check_returned (model : String) : (shape : Shape) →
    shape.all hasDistinctNames = true → shape.all hasProperNames = true → shape.HasFixedDefaults →
      (v out : Value) → check model shape v = .ok out → check model shape out = .ok out
  | .scalar _ _, _, _, _, v, out, h => by
    obtain rfl := checkScalar_eq_ok h
    exact h
  | .enum _ _, _, _, _, v, out, h => by
    obtain rfl := checkChoice_eq_ok h
    exact h
  | .array _ none, _, _, _, v, out, h => by
    cases v with
    | list xs =>
      obtain ⟨ys, rfl, hpairs⟩ := checkElements_eq_ok h
      have hsame : xs = ys := by
        refine List.forall₂_eq_eq_eq ▸ hpairs.imp fun x y hxy => ?_
        exact (checkScalar_eq_ok hxy).symm
      exact hsame ▸ h
    | _ => cases h
  | .array _ (some items), hdistinct, hnames, hdefaults, v, out, h => by
    cases v with
    | list xs =>
      obtain ⟨ys, rfl, hpairs⟩ := checkElements_eq_ok h
      rw [← h, check, check]
      refine (checkElements_congr hpairs.length_eq fun i x y hx hy => ?_).symm
      obtain ⟨hi, rfl⟩ := List.getElem?_eq_some_iff.1 hx
      obtain ⟨hi', rfl⟩ := List.getElem?_eq_some_iff.1 hy
      have hxy : check (ModelName.item model) items xs[i] = .ok ys[i] := hpairs.get hi hi'
      rw [hxy]
      exact (check_returned _ items (Bool.and_eq_true_iff.1 hdistinct).2
        (Bool.and_eq_true_iff.1 hnames).2 hdefaults _ _ hxy).symm
    | _ => cases h
  | .object _ none, _, _, _, v, out, h => by
    cases v with
    | map es =>
      obtain ⟨fields, _, rfl⟩ := map_eq_ok h
      exact checkOpenMap_fields (nodup_keys_ofEntries fields)
    | _ => cases h
  | .object note (some ps), hdistinct, hnames, hdefaults, v, out, h => by
    cases v with
    | map es =>
      obtain ⟨hself, hallDistinct⟩ := Bool.and_eq_true_iff.1 hdistinct
      obtain ⟨hproper, hallNames⟩ := Bool.and_eq_true_iff.1 hnames
      have hnodup : (keys ps).Nodup := of_decide_eq_true hself
      obtain ⟨rfl, hresults⟩ :=
        check_record_eq_ok hnodup (fun _ hp => ne_empty_of_hasProperNames hproper hp) h
      have hfields := propertyResult_returned model ps hallDistinct hallNames hdefaults es
        (filterMapValues (returned? model es) ps) fun p hp => by
          obtain ⟨r, hr⟩ := hresults p hp
          exact ⟨r, hr, get?_returned hnodup hp hr⟩
      rw [← h, Value.ofFields, check, check, checkFields_congr hfields]
    | _ => cases h

/-- A record that returned `m` finds in it what it found in the entries. -/
theorem propertyResult_returned (model : String) : (ps : List (String × Shape)) →
    allIn hasDistinctNames ps = true → allIn hasProperNames ps = true → HaveFixedDefaults ps →
      (es : List (Value × Value)) → (m : OrderedMap Value) →
        (∀ p ∈ ps, ∃ r, propertyResult model es p = .ok r ∧ m.get? p.1 = r) →
          ∀ p ∈ ps, propertyResult model (m.map fun (k, v) => (.text k, v)) p =
            propertyResult model es p
  | [], _, _, _, _, _, _, p, hp => by cases hp
  | (name, shape) :: ps, hdistinct, hnames, hdefaults, es, m, hresults, p, hp => by
    obtain ⟨hshapeDistinct, hrestDistinct⟩ := Bool.and_eq_true_iff.1 hdistinct
    obtain ⟨hshapeNames, hrestNames⟩ := Bool.and_eq_true_iff.1 hnames
    obtain ⟨hdefault, hshapeDefaults, hrestDefaults⟩ := hdefaults
    obtain ⟨hfirst, hresults⟩ := List.forall_mem_cons.1 hresults
    rcases List.mem_cons.1 hp with rfl | hp
    · obtain ⟨r, hr, hget⟩ := hfirst
      rw [hr, propertyResult, Value.lookup_fields, hget]
      rcases propertyResult_eq_ok hr with ⟨v, out, _, hout, rfl⟩ | ⟨hnone, hd, _⟩
      · -- what the entries had
        have hagain := check_returned _ shape hshapeDistinct hshapeNames hshapeDefaults v out hout
        dsimp only
        rw [hagain]
        rfl
      · cases r with
        | some d =>
          -- a default
          have hfixed := check_eq_ok_of_check_eq_ok (hdefault d hd.symm)
            (ModelName.property model name)
          dsimp only
          rw [hfixed]
          rfl
        | none =>
          -- nothing, and nothing again
          rw [propertyResult, hnone] at hr
          exact hr
    · exact propertyResult_returned model ps hrestDistinct hrestNames hrestDefaults es m hresults p
        hp

end

/-- **What is returned is a fixed point.** For parameters without empty names, at any depth, and
with defaults that their own shapes accept and return unchanged, arguments that were returned are
accepted again, and returned as they are. -/
theorem validate_returned_eq_self {ps : Parameters} {model : String} {args out : Value}
    (hdistinct : ps.shape.all hasDistinctNames = true)
    (hnames : ps.shape.all hasProperNames = true) (hdefaults : ps.shape.HasFixedDefaults)
    (hout : ps.validate model (some args) = .ok out) :
    ps.validate model (some out) = .ok out := by
  rw [Parameters.validate_eq_check] at hout ⊢
  exact check_returned model ps.shape hdistinct hnames hdefaults args out hout

/-- A display with a size and a theme, of which the theme may be left out, and a list of records. -/
private def displayed : Parameters :=
  [("display", .object ⟨none, true, some (.ofFields [("theme", .text "light")])⟩ (some
      [("size", .scalar ⟨none, false, none⟩ .number),
        ("theme", .scalar ⟨none, true, some (.text "light")⟩ .string)])),
    ("notes", .array ⟨none, false, none⟩ (some (.object ⟨none, false, none⟩ (some
      [("text", .scalar ⟨none, false, some (.text "")⟩ .string),
        ("more", .object ⟨none, false, none⟩ none)]))))]

theorem validate_returned_eq_self_displayed :
    let args := Value.ofFields [("notes", .list [.map [(.text "other", .null), (.text "more",
      .map [(.text "a", .int 2)])], .map []]), ("size", .null)]
    let out := Value.ofFields [("display", .ofFields [("theme", .text "light")]), ("notes", .list
      [.ofFields [("text", .text ""), ("more", .ofFields [("a", .int 2)])],
        .ofFields [("text", .text "")]])]
    displayed.validate "Arguments" (some args) = .ok out ∧
      displayed.validate "Arguments" (some out) = .ok out := by
  intro args out
  have hdefaults : displayed.shape.HasFixedDefaults := by
    refine ⟨?_, ⟨?_, trivial, ?_, trivial, trivial⟩, ?_, ⟨?_, trivial, ?_, trivial, trivial⟩,
      trivial⟩
    all_goals rintro d ⟨⟩ <;> rfl
  have hout : displayed.validate "Arguments" (some args) = .ok out := rfl
  exact ⟨hout, validate_returned_eq_self (by decide +kernel) (by decide +kernel) hdefaults hout⟩

-- A default that its own shape rejects is returned, and what is returned is rejected.
example :
    let ps : Parameters := [("a", .scalar ⟨none, false, some (.text "x")⟩ .number)]
    ps.validate "Arguments" (some (.map [])) = .ok (.ofFields [("a", .text "x")]) ∧
      (ps.validate "Arguments" (some (.ofFields [("a", .text "x")]))).isOk = false :=
  ⟨rfl, rfl⟩

end Validation

end DeclaredTools
