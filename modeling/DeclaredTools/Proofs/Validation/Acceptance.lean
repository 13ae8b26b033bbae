/-
  Which values validation accepts, without the values it returns and the issues it lists: a list is
  accepted when its elements are, and a record when each of its properties is (`isOk_checkElements`,
  `isOk_checkFields`).
-/
import DeclaredTools.Proofs.Result
import DeclaredTools.Validation.Basic

namespace DeclaredTools

namespace Checked

variable {α : Type}

theorem isOk_under (step : Step) (r : Except (List Issue) α) : (under step r).isOk = r.isOk := by
  cases r <;> rfl

/-- Gathering succeeds when everything that is gathered does. -/
theorem isOk_gather (rs : List (Except (List Issue) α)) :
    (gather rs).isOk = rs.all Except.isOk := by
  induction rs with
  | nil => rfl
  | cons r rs ih =>
    unfold gather
    rw [List.all_cons, ← ih]
    cases r <;> cases gather rs <;> rfl

end Checked

namespace Validation

open Checked Result

/-- An absent property is accepted with a default, and if it is not required. -/
theorem isOk_checkAbsent (note : Note) :
    (checkAbsent note).isOk = (note.default.isSome || !note.required) := by
  unfold checkAbsent
  cases note.default with
  | some v => rfl
  | none => cases note.required <;> rfl

theorem isOk_checkChoice (choices : List Value) (v : Value) :
    (checkChoice choices v).isOk = isAmong choices v := by
  unfold checkChoice
  cases isAmong choices v <;> rfl

theorem isOk_checkElements (check : Value → Except (List Issue) Value) (xs : List Value) :
    (checkElements check xs).isOk = xs.all fun x => (check x).isOk := by
  rw [checkElements, isOk_map, isOk_gather, List.mapIdx_eq_zipIdx_map]
  calc (xs.zipIdx.map fun (x, i) => under (.index i) (check x)).all Except.isOk
      = xs.zipIdx.all fun p => (check p.1).isOk := by
        rw [List.all_map]
        congr 1
        funext p
        exact isOk_under _ _
    _ = (xs.zipIdx.map Prod.fst).all fun x => (check x).isOk := by rw [List.all_map]; rfl
    _ = xs.all fun x => (check x).isOk := by rw [List.zipIdx_map_fst]

theorem isOk_checkOpenMap (es : List (Value × Value)) :
    (checkOpenMap es).isOk = es.all fun e => (checkKey e.1).isOk := by
  rw [checkOpenMap, isOk_map, isOk_gather, List.all_map]
  congr 1
  funext e
  rw [Function.comp, isOk_map, isOk_under, isOk_under]

/-- What the entries of a map have for a property is accepted. -/
def acceptsProperty (model : String) (es : List (Value × Value)) (p : String × Shape) : Bool :=
  match Value.lookup p.1 es with
  | some v => (check (ModelName.property model p.1) p.2 v).isOk
  | none => (checkAbsent p.2.note).isOk

theorem isOk_checkFields (model : String) (index : Nat) (ps : List (String × Shape))
    (es : List (Value × Value)) :
    (gather (checkFields model index ps es)).isOk =
      ps.all (acceptsProperty model es) := by
  rw [isOk_gather]
  induction ps generalizing index with
  | nil => rfl
  | cons p ps ih =>
    obtain ⟨name, shape⟩ := p
    rw [checkFields, List.all_cons, List.all_cons, ih, isOk_map, isOk_under,
      acceptsProperty]
    cases Value.lookup name es with
    | none => rfl
    | some v => rw [isOk_map]

end Validation

end DeclaredTools
