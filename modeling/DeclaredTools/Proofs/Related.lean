/-
  Two runs side by side. Maps are related if they have the same names in the same order, and related
  values under each of them; reports, if they report the same and have related results, or the
  same error. What does the same to both sides keeps them related (`related_ofEntries`,
  `Report.rel_foldlM`), so that a difference in what goes in can be followed to what comes out.
-/
import DeclaredTools.Proofs.OrderedMap
import DeclaredTools.Proofs.Report
import Mathlib.Data.List.Forall2

namespace DeclaredTools

/-! ## Lists -/

section

variable {α β : Type}

/-- Lists that differ in one place are related if the elements there are. -/
theorem forall₂_of_one {R : α → α → Prop} (hrefl : ∀ a, R a a) {x y : α} (h : R x y)
    (front back : List α) : List.Forall₂ R (front ++ x :: back) (front ++ y :: back) := by
  have hback : List.Forall₂ R (x :: back) (y :: back) :=
    .cons h (List.forall₂_same.2 fun a _ => hrefl a)
  induction front with
  | nil => exact hback
  | cons a front ih => exact .cons (hrefl a) ih

/-- Related elements are elements of the lists. -/
theorem forall₂_of_mem {R : α → β → Prop} {xs : List α} {ys : List β} (h : List.Forall₂ R xs ys) :
    List.Forall₂ (fun x y => R x y ∧ x ∈ xs ∧ y ∈ ys) xs ys := by
  induction h with
  | nil => exact .nil
  | cons hxy _ ih =>
    refine .cons ⟨hxy, List.mem_cons_self, List.mem_cons_self⟩ (ih.imp ?_)
    rintro x y ⟨hR, hx, hy⟩
    exact ⟨hR, List.mem_cons_of_mem _ hx, List.mem_cons_of_mem _ hy⟩

/-- Sorting keeps lists related whose elements compare alike. -/
theorem forall₂_mergeSort {R : α → β → Prop} {le : α → α → Bool} {le' : β → β → Bool}
    (hle : ∀ a b a' b', R a b → R a' b' → le a a' = le' b b') {xs : List α} {ys : List β}
    (h : List.Forall₂ R xs ys) : List.Forall₂ R (xs.mergeSort le) (ys.mergeSort le') := by
  -- both are sorted as the list of the pairs is
  obtain ⟨hlength, hR⟩ := List.forall₂_iff_zip.1 h
  have hfst : (xs.zip ys).map Prod.fst = xs := List.map_fst_zip (Nat.le_of_eq hlength)
  have hsnd : (xs.zip ys).map Prod.snd = ys := List.map_snd_zip (Nat.le_of_eq hlength.symm)
  have hxs : ((xs.zip ys).mergeSort fun p q => le p.1 q.1).map Prod.fst = xs.mergeSort le := by
    rw [List.map_mergeSort (s := le) fun _ _ _ _ => rfl, hfst]
  have hys : ((xs.zip ys).mergeSort fun p q => le p.1 q.1).map Prod.snd = ys.mergeSort le' := by
    rw [List.map_mergeSort fun p hp q hq => hle p.1 p.2 q.1 q.2 (hR hp) (hR hq), hsnd]
  rw [← hxs, ← hys, List.forall₂_map_left_iff, List.forall₂_map_right_iff, List.forall₂_same]
  intro p hp
  exact hR (List.mem_mergeSort.1 hp)

end

/-! ## Maps -/

namespace OrderedMap

variable {α β : Type} {R : String → α → β → Prop}

/-- The same names in the same order, with related values. -/
def Related (R : String → α → β → Prop) (m : OrderedMap α) (m' : OrderedMap β) : Prop :=
  List.Forall₂ (fun e e' => e.1 = e'.1 ∧ R e.1 e.2 e'.2) m m'

theorem Related.get? {m : OrderedMap α} {m' : OrderedMap β} (h : Related R m m') (name : String) :
    Option.Rel (R name) (m.get? name) (m'.get? name) := by
  induction h with
  | nil => exact .none
  | @cons e e' m m' he _ ih =>
    obtain ⟨n, a⟩ := e
    obtain ⟨n', b⟩ := e'
    obtain ⟨rfl, hab⟩ := he
    rw [get?_cons, get?_cons]
    by_cases hn : n = name
    · rw [if_pos hn, if_pos hn]
      exact .some (hn ▸ hab)
    · rw [if_neg hn, if_neg hn]
      exact ih

theorem Related.insert {m : OrderedMap α} {m' : OrderedMap β} (h : Related R m m') {name : String}
    {a : α} {b : β} (hab : R name a b) : Related R (m.insert name a) (m'.insert name b) := by
  induction h with
  | nil => exact .cons ⟨rfl, hab⟩ .nil
  | @cons e e' m m' he hrest ih =>
    obtain ⟨n, c⟩ := e
    obtain ⟨n', d⟩ := e'
    obtain ⟨rfl, hcd⟩ := he
    unfold OrderedMap.insert
    by_cases hn : n = name
    · rw [if_pos hn, if_pos hn]
      exact .cons ⟨rfl, hn ▸ hab⟩ hrest
    · rw [if_neg hn, if_neg hn]
      exact .cons ⟨rfl, hcd⟩ ih

theorem related_insertAll {m : OrderedMap α} {m' : OrderedMap β} (hm : Related R m m')
    {es : List (String × α)} {fs : List (String × β)} (h : Related R es fs) :
    Related R (m.insertAll es) (m'.insertAll fs) := by
  induction h generalizing m m' with
  | nil => exact hm
  | @cons e e' es fs he _ ih =>
    obtain ⟨n, a⟩ := e
    obtain ⟨n', b⟩ := e'
    obtain ⟨rfl, hab⟩ := he
    exact ih (hm.insert hab)

theorem related_ofEntries {es : List (String × α)} {fs : List (String × β)}
    (h : Related R es fs) : Related R (ofEntries es) (ofEntries fs) := related_insertAll .nil h

/-- The same names in the same order, and the same under all of them but one. -/
def AgreeBut (name : String) (m m' : OrderedMap α) : Prop :=
  Related (fun n a b => n ≠ name → a = b) m m'

theorem agreeBut_refl (name : String) (m : OrderedMap α) : AgreeBut name m m :=
  List.forall₂_same.2 fun _ _ => ⟨rfl, fun _ => rfl⟩

/-- Induction over both maps: an entry of the one is under the name in question, or it is an entry
of the other as well. -/
@[elab_as_elim]
theorem AgreeBut.inductionOn {name : String}
    {motive : (m m' : OrderedMap α) → AgreeBut name m m' → Prop} {m m' : OrderedMap α}
    (h : AgreeBut name m m') (nil : motive [] [] .nil)
    (changed : ∀ (a b : α) {m m' : OrderedMap α} (h : AgreeBut name m m'), motive m m' h →
      motive ((name, a) :: m) ((name, b) :: m') (.cons ⟨rfl, fun hne => absurd rfl hne⟩ h))
    (same : ∀ (n : String) (a : α) {m m' : OrderedMap α} (_ : n ≠ name)
      (h : AgreeBut name m m'), motive m m' h →
      motive ((n, a) :: m) ((n, a) :: m') (.cons ⟨rfl, fun _ => rfl⟩ h)) : motive m m' h := by
  induction h with
  | nil => exact nil
  | @cons e e' m m' he hrest ih =>
    obtain ⟨n, a⟩ := e
    obtain ⟨n', b⟩ := e'
    have hnames : n = n' := he.1
    subst hnames
    by_cases hn : n = name
    · subst hn
      exact changed a b hrest ih
    · have hab : a = b := he.2 hn
      subst hab
      exact same n a hn hrest ih

/-- There is no difference under a name that does not occur. -/
theorem AgreeBut.eq_of_notMem {name : String} {m m' : OrderedMap α} (h : AgreeBut name m m')
    (hname : name ∉ m.keys) : m = m' := by
  induction h using AgreeBut.inductionOn with
  | nil => rfl
  | changed a b _ _ => exact absurd List.mem_cons_self hname
  | same n a _ _ ih =>
    rw [keys_cons, List.mem_cons, not_or] at hname
    rw [ih hname.2]

end OrderedMap

/-! ## Results and reports -/

/-- Related results, or the same error. -/
inductive Result.Rel {ε α β : Type} (R : α → β → Prop) : Except ε α → Except ε β → Prop
  | ok {a : α} {b : β} (h : R a b) : Rel R (.ok a) (.ok b)
  | error (e : ε) : Rel R (.error e) (.error e)

/-- Related results are equal in what is the same of related values. -/
theorem Result.Rel.map_eq {ε α β γ : Type} {R : α → β → Prop} {r : Except ε α} {s : Except ε β}
    (h : Rel R r s) {f : α → γ} {g : β → γ} (hfg : ∀ a b, R a b → f a = g b) :
    r.map f = s.map g := by
  cases h with
  | ok hab => exact congrArg Except.ok (hfg _ _ hab)
  | error e => rfl

namespace Report

variable {ε α β γ δ σ τ : Type}

/-- The same events, and related results or the same error. -/
structure Rel (R : α → β → Prop) (r : Report ε α) (s : Report ε β) : Prop where
  events : r.events = s.events
  outcome : Result.Rel R r.outcome s.outcome

theorem rel_pure {R : α → β → Prop} {a : α} {b : β} (h : R a b) :
    Rel R (pure a : Report ε α) (pure b) := ⟨rfl, .ok h⟩

theorem rel_stop (R : α → β → Prop) (e : ε) : Rel R (stop e) (stop e) := ⟨rfl, .error e⟩

theorem Rel.bind {R : α → β → Prop} {S : γ → δ → Prop} {r : Report ε α} {s : Report ε β}
    {f : α → Report ε γ} {g : β → Report ε δ} (h : Rel R r s)
    (hfg : ∀ a b, R a b → Rel S (f a) (g b)) : Rel S (r >>= f) (s >>= g) := by
  obtain ⟨events, outcome⟩ := r
  obtain ⟨events', outcome'⟩ := s
  obtain ⟨hevents, houtcome⟩ := h
  obtain rfl : events = events' := hevents
  cases houtcome with
  | error e => exact ⟨rfl, .error e⟩
  | ok hab =>
    have hnext := hfg _ _ hab
    exact ⟨congrArg (events ++ ·) hnext.events, hnext.outcome⟩

/-- Steps that keep two states related do so over related lists. -/
theorem rel_foldlM {R : α → β → Prop} {S : σ → τ → Prop} {step : σ → α → Report ε σ}
    {step' : τ → β → Report ε τ}
    (hstep : ∀ s t a b, S s t → R a b → Rel S (step s a) (step' t b)) {xs : List α} {ys : List β}
    (h : List.Forall₂ R xs ys) {s : σ} {t : τ} (hst : S s t) :
    Rel S (xs.foldlM step s) (ys.foldlM step' t) := by
  induction h generalizing s t with
  | nil => exact rel_pure hst
  | cons hab _ ih =>
    rw [List.foldlM_cons, List.foldlM_cons]
    exact (hstep s t _ _ hst hab).bind fun _ _ hst' => ih hst'

/-- Related reports are equal if results are related only to themselves. -/
theorem Rel.eq {R : α → α → Prop} {r s : Report ε α} (h : Rel R r s)
    (hR : ∀ a b, r.outcome = .ok a → R a b → b = a) : s = r := by
  obtain ⟨events, outcome⟩ := r
  obtain ⟨events', outcome'⟩ := s
  obtain ⟨hevents, houtcome⟩ := h
  obtain rfl : events = events' := hevents
  cases houtcome with
  | error e => rfl
  | ok hab => rw [hR _ _ rfl hab]

end Report

end DeclaredTools
