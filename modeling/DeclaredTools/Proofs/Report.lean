/-
  Outcomes of reports: work in steps has a result exactly when its steps have, one after the other.
-/
import DeclaredTools.Report

namespace DeclaredTools.Report

variable {ε α β : Type}

theorem bind_eq_andThen (r : Report ε α) (f : α → Report ε β) : r >>= f = r.andThen f := rfl

instance : LawfulMonad (Report ε) :=
  LawfulMonad.mk' (Report ε)
    (by
      rintro α ⟨events, outcome⟩
      cases outcome with
      | ok a =>
        show (⟨events ++ [], .ok a⟩ : Report ε α) = ⟨events, .ok a⟩
        rw [List.append_nil]
      | error e => rfl)
    (fun _ _ => rfl)
    (by
      rintro α β γ ⟨events, outcome⟩ f g
      cases outcome with
      | error e => rfl
      | ok a =>
        simp only [bind_eq_andThen, andThen]
        cases (f a).outcome with
        | error e => rfl
        | ok b => simp only [List.append_assoc])

theorem outcome_bind_eq_ok_iff {r : Report ε α} {f : α → Report ε β} {b : β} :
    (r >>= f).outcome = .ok b ↔ ∃ a, r.outcome = .ok a ∧ (f a).outcome = .ok b := by
  rw [outcome_bind]
  cases h : r.outcome with
  | ok a => simp [Except.bind]
  | error e => simp [Except.bind]

/-- A fold has a result if each of its steps has one: `P` says of which elements that is so,
and `g` what the steps give. -/
theorem outcome_foldlM_eq_ok_iff {P : α → Prop} {step : β → α → Report ε β} {g : β → α → β}
    (hstep : ∀ b a c, (step b a).outcome = .ok c ↔ P a ∧ c = g b a) (xs : List α) (b c : β) :
    (xs.foldlM step b).outcome = .ok c ↔ (∀ a ∈ xs, P a) ∧ c = xs.foldl g b := by
  induction xs generalizing b with
  | nil => simp [eq_comm]
  | cons a xs ih =>
    rw [List.foldlM_cons, outcome_bind_eq_ok_iff, List.foldl_cons, List.forall_mem_cons]
    constructor
    · rintro ⟨d, hd, hc⟩
      obtain ⟨ha, rfl⟩ := (hstep b a d).1 hd
      obtain ⟨hxs, rfl⟩ := (ih _).1 hc
      exact ⟨⟨ha, hxs⟩, rfl⟩
    · rintro ⟨⟨ha, hxs⟩, rfl⟩
      exact ⟨g b a, (hstep b a _).2 ⟨ha, rfl⟩, (ih _).2 ⟨hxs, rfl⟩⟩

/-- A fold stops at the first element that stops it. -/
theorem outcome_foldlM_eq {stops : α → Option ε} {step : β → α → Report ε β} {g : β → α → β}
    (hstep : ∀ b a, (step b a).outcome = (stops a).elim (.ok (g b a)) .error)
    (xs : List α) (b : β) :
    (xs.foldlM step b).outcome = (xs.findSome? stops).elim (.ok (xs.foldl g b)) .error := by
  induction xs generalizing b with
  | nil => rfl
  | cons a xs ih =>
    rw [List.foldlM_cons, outcome_bind, hstep, List.findSome?_cons, List.foldl_cons]
    cases stops a with
    | none => exact ih (g b a)
    | some e => rfl

/-- The same for mapping. -/
theorem outcome_mapM_eq_ok_iff {P : α → Prop} {step : α → Report ε β} {g : α → β}
    (hstep : ∀ a c, (step a).outcome = .ok c ↔ P a ∧ c = g a) (xs : List α) (cs : List β) :
    (xs.mapM step).outcome = .ok cs ↔ (∀ a ∈ xs, P a) ∧ cs = xs.map g := by
  induction xs generalizing cs with
  | nil => simp [eq_comm]
  | cons a xs ih =>
    rw [List.mapM_cons, outcome_bind_eq_ok_iff, List.map_cons, List.forall_mem_cons]
    constructor
    · rintro ⟨c, hc, hrest⟩
      obtain ⟨ha, rfl⟩ := (hstep a c).1 hc
      obtain ⟨ds, hds, hcs⟩ := outcome_bind_eq_ok_iff.1 hrest
      obtain ⟨hxs, rfl⟩ := (ih ds).1 hds
      exact ⟨⟨ha, hxs⟩, (Except.ok.inj hcs).symm⟩
    · rintro ⟨⟨ha, hxs⟩, rfl⟩
      have hrest := (ih (xs.map g)).2 ⟨hxs, rfl⟩
      exact ⟨g a, (hstep a _).2 ⟨ha, rfl⟩, outcome_bind_eq_ok_iff.2 ⟨xs.map g, hrest, rfl⟩⟩

end DeclaredTools.Report
