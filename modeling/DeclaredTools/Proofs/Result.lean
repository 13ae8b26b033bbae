/-
  Results of work that can fail: when work in parts succeeds, and what is known of the parts if it
  does.
-/
import Mathlib.Data.List.Forall2

namespace DeclaredTools.Result

variable {ε α β γ : Type}

theorem isOk_eq_true_iff {r : Except ε α} : r.isOk = true ↔ ∃ a, r = .ok a := by
  cases r with
  | ok a => exact iff_of_true rfl ⟨a, rfl⟩
  | error e =>
    refine iff_of_false Bool.false_ne_true ?_
    rintro ⟨a, h⟩
    cases h

theorem toOption_eq_none {r : Except ε α} (h : ¬ r.isOk = true) : r.toOption = none := by
  cases r with
  | ok a => exact absurd rfl h
  | error e => rfl

theorem eq_ok_of_toOption {r : Except ε α} {a : α} (h : r.toOption = some a) : r = .ok a := by
  cases r with
  | ok b => exact congrArg Except.ok (Option.some.inj h)
  | error e => cases h

theorem isOk_map (f : α → β) (r : Except ε α) : (r.map f).isOk = r.isOk := by
  cases r <;> rfl

theorem map_eq_ok {f : α → β} {r : Except ε α} {b : β} (h : r.map f = .ok b) :
    ∃ a, r = .ok a ∧ f a = b := by
  cases r with
  | ok a => exact ⟨a, rfl, Except.ok.inj h⟩
  | error e => cases h

theorem bind_eq_ok {r : Except ε α} {f : α → Except ε β} {b : β} (h : r >>= f = .ok b) :
    ∃ a, r = .ok a ∧ f a = .ok b := by
  cases r with
  | ok a => exact ⟨a, rfl, h⟩
  | error e => cases h

theorem isOk_bind_pure (r : Except ε α) (f : α → β) :
    (r >>= fun a => pure (f a)).isOk = r.isOk := by
  cases r <;> rfl

theorem isOk_bind_bind_pure (r : Except ε α) (s : Except ε β) (f : α → β → γ) :
    (r >>= fun a => s >>= fun b => pure (f a b)).isOk = (r.isOk && s.isOk) := by
  cases r <;> cases s <;> rfl

/-! ## Lists -/

theorem exists_of_forall₂_of_mem {R : α → β → Prop} {xs : List α} {ys : List β}
    (h : List.Forall₂ R xs ys) {y : β} (hy : y ∈ ys) : ∃ x ∈ xs, R x y := by
  induction h with
  | nil => cases hy
  | cons hxy _ ih =>
    rcases List.mem_cons.1 hy with rfl | hy
    · exact ⟨_, List.mem_cons_self, hxy⟩
    · obtain ⟨x, hx, h⟩ := ih hy
      exact ⟨x, List.mem_cons_of_mem _ hx, h⟩

theorem forall₂_of_mapIdx_eq_map {R : α → γ → Prop} {f : Nat → α → β} {g : γ → β}
    (hR : ∀ i x z, f i x = g z → R x z) {xs : List α} {zs : List γ}
    (h : xs.mapIdx f = zs.map g) : List.Forall₂ R xs zs := by
  induction xs generalizing f zs with
  | nil =>
    rw [List.mapIdx_nil, eq_comm, List.map_eq_nil_iff] at h
    rw [h]
    exact .nil
  | cons x xs ih =>
    rw [List.mapIdx_cons] at h
    obtain ⟨z, zs, rfl, hz, hrest⟩ := List.map_eq_cons_iff.1 h.symm
    exact .cons (hR 0 x z hz.symm) (ih (fun i => hR (i + 1)) hrest.symm)

theorem map_mapIdx (g : β → γ) (f : Nat → α → β) (xs : List α) :
    (xs.mapIdx f).map g = xs.mapIdx fun i x => g (f i x) := by
  rw [List.mapIdx_eq_zipIdx_map, List.mapIdx_eq_zipIdx_map, List.map_map]
  rfl

theorem isOk_mapM (f : α → Except ε β) (xs : List α) :
    (xs.mapM f).isOk = xs.all fun x => (f x).isOk := by
  induction xs with
  | nil => rfl
  | cons x xs ih => rw [List.mapM_cons, isOk_bind_bind_pure, ih, List.all_cons]

/-- Mapping gives the results of the elements, one for each. -/
theorem forall₂_of_mapM_eq_ok {f : α → Except ε β} {xs : List α} {ys : List β}
    (h : xs.mapM f = .ok ys) : List.Forall₂ (fun x y => f x = .ok y) xs ys := by
  induction xs generalizing ys with
  | nil =>
    obtain rfl : [] = ys := Except.ok.inj h
    exact .nil
  | cons x xs ih =>
    rw [List.mapM_cons] at h
    cases hx : f x with
    | error e =>
      rw [hx] at h
      cases h
    | ok y =>
      cases hxs : xs.mapM f with
      | error e =>
        rw [hx, hxs] at h
        cases h
      | ok rest =>
        rw [hx, hxs] at h
        obtain rfl : y :: rest = ys := Except.ok.inj h
        exact .cons hx (ih hxs)

theorem mapM_eq_ok {f : α → Except ε β} {g : α → β} {xs : List α} (h : ∀ x ∈ xs, f x = .ok (g x)) :
    xs.mapM f = .ok (xs.map g) := by
  induction xs with
  | nil => rfl
  | cons x xs ih =>
    have hx : f x = .ok (g x) := h x List.mem_cons_self
    have hxs := ih fun y hy => h y (List.mem_cons_of_mem x hy)
    rw [List.mapM_cons, hx, hxs]
    rfl

theorem forM_eq_ok {f : α → Except ε Unit} {xs : List α} (h : ∀ x ∈ xs, f x = .ok ()) :
    xs.forM f = .ok () := by
  induction xs with
  | nil => rfl
  | cons x xs ih =>
    have hx : f x = .ok () := h x List.mem_cons_self
    have hxs := ih fun y hy => h y (List.mem_cons_of_mem x hy)
    show (f x >>= fun _ => xs.forM f) = .ok ()
    rw [hx]
    exact hxs

/-! ## Texts -/

/-- The texts of the elements, one behind the other. -/
def concatM (f : α → Except ε String) (xs : List α) : Except ε String :=
  (xs.mapM f).map String.join

theorem concatM_cons (f : α → Except ε String) (x : α) (xs : List α) :
    concatM f (x :: xs) = (f x).bind fun a => (concatM f xs).map fun b => a ++ b := by
  unfold concatM
  rw [List.mapM_cons]
  cases f x with
  | error e => rfl
  | ok a =>
    cases xs.mapM f with
    | error e => rfl
    | ok bs => exact congrArg Except.ok String.join_cons

theorem concatM_singleton (f : α → Except ε String) (x : α) : concatM f [x] = f x := by
  rw [concatM_cons]
  cases f x with
  | error e => rfl
  | ok a => exact congrArg Except.ok String.append_empty

theorem concatM_append (f : α → Except ε String) (xs ys : List α) :
    concatM f (xs ++ ys) =
      (concatM f xs).bind fun a => (concatM f ys).map fun b => a ++ b := by
  induction xs with
  | nil =>
    show concatM f ys = (concatM f ys).map fun b => "" ++ b
    cases concatM f ys with
    | error e => rfl
    | ok b => exact congrArg Except.ok String.empty_append.symm
  | cons x xs ih =>
    rw [List.cons_append, concatM_cons, concatM_cons, ih]
    cases f x with
    | error e => rfl
    | ok a =>
      cases concatM f xs with
      | error e => rfl
      | ok b =>
        cases concatM f ys with
        | error e => rfl
        | ok c => exact congrArg Except.ok String.append_assoc.symm

/-- Elements that stand for several others. -/
theorem concatM_flatMap (f : β → Except ε String) (g : α → List β) (xs : List α) :
    concatM f (xs.flatMap g) = concatM (fun x => concatM f (g x)) xs := by
  induction xs with
  | nil => rfl
  | cons x xs ih => rw [List.flatMap_cons, concatM_append, ih, concatM_cons]

theorem concatM_congr {f g : α → Except ε String} {xs : List α} (h : ∀ x ∈ xs, f x = g x) :
    concatM f xs = concatM g xs := by
  induction xs with
  | nil => rfl
  | cons x xs ih =>
    rw [concatM_cons, concatM_cons, h x List.mem_cons_self,
      ih fun y hy => h y (List.mem_cons_of_mem x hy)]

/-- Where each element has a text, all of them together have one. -/
theorem concatM_eq_ok {f : α → Except ε String} {g : α → String} {xs : List α}
    (h : ∀ x ∈ xs, f x = .ok (g x)) : concatM f xs = .ok (String.join (xs.map g)) := by
  rw [concatM, mapM_eq_ok h]
  rfl

end DeclaredTools.Result
