/-
  Results in brief: with their issues known by path and code. The names that messages give to
  records are not in them, and so in brief a check does not depend on these names (`brief_check`).
  In particular, what is returned does not (`check_eq_ok_of_check_eq_ok`).
-/
import DeclaredTools.Proofs.Validation.Issues

namespace DeclaredTools

/-! ## Results in brief -/

/-- Where an issue stands, and its code. -/
def Issue.brief (issue : Issue) : List Step × String := (issue.path, issue.cause.code)

namespace Checked

variable {α β : Type}

/-- A result whose issues are known by path and code. -/
def brief (r : Except (List Issue) α) : Except (List (List Step × String)) α :=
  r.mapError (List.map Issue.brief)

/-- The paths and codes of the issues of a result. -/
def briefs (r : Except (List Issue) α) : List (List Step × String) := (issues r).map Issue.brief

/-- An issue in brief as seen from one step further out. -/
def behind (step : Step) (b : List Step × String) : List Step × String := (step :: b.1, b.2)

theorem map_brief_under (step : Step) (is : List Issue) :
    (is.map (Issue.under step)).map Issue.brief = (is.map Issue.brief).map (behind step) := by
  rw [List.map_map, List.map_map]
  rfl

/-- Results that are the same in brief have the same value, or issues that are the same in brief. -/
theorem brief_eq_cases {r s : Except (List Issue) α} (h : brief r = brief s) :
    (∃ a, r = .ok a ∧ s = .ok a) ∨
      ∃ is js, r = .error is ∧ s = .error js ∧ is.map Issue.brief = js.map Issue.brief := by
  cases r with
  | ok a =>
    cases s with
    | ok b => exact .inl ⟨a, rfl, congrArg Except.ok (Except.ok.inj h).symm⟩
    | error js => cases h
  | error is =>
    cases s with
    | ok b => cases h
    | error js => exact .inr ⟨is, js, rfl, rfl, Except.error.inj h⟩

theorem eq_ok_of_brief_eq {r s : Except (List Issue) α} (h : brief r = brief s) {a : α}
    (hr : r = .ok a) : s = .ok a := by
  rcases brief_eq_cases h with ⟨b, hb, hs⟩ | ⟨is, js, his, _, _⟩
  · rw [hs, ← hb, hr]
  · rw [his] at hr
    cases hr

theorem briefs_eq_of_brief_eq {r s : Except (List Issue) α} (h : brief r = brief s) :
    briefs r = briefs s := by
  rcases brief_eq_cases h with ⟨a, rfl, rfl⟩ | ⟨is, js, rfl, rfl, hissues⟩
  · rfl
  · exact hissues

theorem brief_map_congr {r s : Except (List Issue) α} (f : α → β) (h : brief r = brief s) :
    brief (r.map f) = brief (s.map f) := by
  rcases brief_eq_cases h with ⟨a, rfl, rfl⟩ | ⟨is, js, rfl, rfl, hissues⟩
  · rfl
  · exact congrArg Except.error hissues

theorem brief_under_congr {r s : Except (List Issue) α} (step : Step) (h : brief r = brief s) :
    brief (under step r) = brief (under step s) := by
  rcases brief_eq_cases h with ⟨a, rfl, rfl⟩ | ⟨is, js, rfl, rfl, hissues⟩
  · rfl
  · refine congrArg Except.error ?_
    rw [map_brief_under, map_brief_under, hissues]

theorem brief_gather_congr {rs ss : List (Except (List Issue) α)}
    (h : rs.map brief = ss.map brief) : brief (gather rs) = brief (gather ss) := by
  induction rs generalizing ss with
  | nil =>
    cases ss with
    | nil => rfl
    | cons s ss => cases h
  | cons r rs ih =>
    cases ss with
    | nil => cases h
    | cons s ss =>
      obtain ⟨hhead, htail⟩ := List.cons.inj h
      unfold gather
      rcases brief_eq_cases hhead with ⟨a, rfl, rfl⟩ | ⟨is, js, rfl, rfl, hissues⟩
      · rcases brief_eq_cases (ih htail) with ⟨as, hr, hs⟩ | ⟨is', js', hr, hs, hrest⟩
        · rw [hr, hs]
        · rw [hr, hs]
          exact congrArg Except.error hrest
      · rcases brief_eq_cases (ih htail) with ⟨as, hr, hs⟩ | ⟨is', js', hr, hs, hrest⟩
        · rw [hr, hs]
          exact congrArg Except.error hissues
        · rw [hr, hs]
          refine congrArg Except.error ?_
          rw [List.map_append, List.map_append, hissues, hrest]

theorem briefs_map (f : α → β) (r : Except (List Issue) α) : briefs (r.map f) = briefs r := by
  rw [briefs, issues_map]
  rfl

theorem briefs_under (step : Step) (r : Except (List Issue) α) :
    briefs (under step r) = (briefs r).map (behind step) := by
  rw [briefs, issues_under, map_brief_under]
  rfl

theorem briefs_gather (rs : List (Except (List Issue) α)) :
    briefs (gather rs) = rs.flatMap briefs := by
  rw [briefs, issues_gather, List.map_flatMap]
  rfl

theorem isOk_iff_briefs_eq_nil {r : Except (List Issue) α} (h : Explained r) :
    r.isOk = true ↔ briefs r = [] := by
  rw [h, List.isEmpty_iff, briefs, List.map_eq_nil_iff]

end Checked

namespace Validation

open Checked Result

/-! ## The names of records -/

mutual

/-- In brief, a check does not depend on the name that messages give to the record. -/
theorem brief_check (model other : String) : (shape : Shape) → (v : Value) →
    brief (check model shape v) = brief (check other shape v)
  | .scalar _ _, v => by rw [check, check]
  | .enum _ _, v => by rw [check, check]
  | .array _ none, v => by cases v <;> rfl
  | .array _ (some items), v => by
    cases v with
    | list xs =>
      refine brief_map_congr _ (brief_gather_congr ?_)
      rw [map_mapIdx, map_mapIdx, List.mapIdx_eq_mapIdx_iff]
      intro i hi
      exact brief_under_congr _ (brief_check _ _ items xs[i])
    | _ => rfl
  | .object _ none, v => by cases v <;> rfl
  | .object _ (some ps), v => by
    cases v with
    | map es => exact brief_map_congr _ (brief_gather_congr (brief_checkFields model other 0 ps es))
    | _ => rfl

/-- The same for each field of a record. -/
theorem brief_checkFields (model other : String) (index : Nat) : (ps : List (String × Shape)) →
    (es : List (Value × Value)) →
      (checkFields model index ps es).map brief = (checkFields other index ps es).map brief
  | [], _ => rfl
  | (name, shape) :: ps, es => by
    have hproperty : brief (propertyResult model es (name, shape)) =
        brief (propertyResult other es (name, shape)) := by
      unfold propertyResult
      cases Value.lookup name es with
      | some v => exact brief_map_congr _ (brief_check _ _ shape v)
      | none => rfl
    rw [checkFields_cons, checkFields_cons, List.map_cons, List.map_cons,
      brief_checkFields model other (index + 1) ps es,
      brief_map_congr _ (brief_under_congr _ hproperty)]

end

/-- What a check returns does not depend on the name of the record. -/
theorem check_eq_ok_of_check_eq_ok {model : String} {shape : Shape} {v out : Value}
    (h : check model shape v = .ok out) (other : String) : check other shape v = .ok out :=
  eq_ok_of_brief_eq (brief_check model other shape v) h

theorem briefs_check (model other : String) (shape : Shape) (v : Value) :
    briefs (check model shape v) = briefs (check other shape v) :=
  briefs_eq_of_brief_eq (brief_check model other shape v)

end Validation

end DeclaredTools
