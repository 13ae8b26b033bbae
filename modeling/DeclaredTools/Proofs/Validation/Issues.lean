/-
  The issues of a rejected value, and where they stand. A list has the issues of its elements, each
  under its index, and a record those of its properties, each under its name
  (`mem_issues_checkElements`, `mem_issues_checkFields`). So the issues below a place in a value are
  the issues of what stands at this place, checked against the shape at the same place
  (`mem_issues_check_at`).

  A value is rejected with at least one issue (`isOk_check_eq`).
-/
import DeclaredTools.Proofs.Shape.Reading
import DeclaredTools.Proofs.Validation.Acceptance

namespace DeclaredTools

open OrderedMap

/-! ## Results -/

namespace Checked

variable {α β : Type}

/-- The issues of a result; what is accepted has none. -/
def issues : Except (List Issue) α → List Issue
  | .ok _ => []
  | .error is => is

@[simp] theorem issues_map (f : α → β) (r : Except (List Issue) α) :
    issues (r.map f) = issues r := by
  cases r <;> rfl

@[simp] theorem issues_under (step : Step) (r : Except (List Issue) α) :
    issues (under step r) = (issues r).map (Issue.under step) := by
  cases r <;> rfl

/-- All issues of all results, in order. -/
theorem issues_gather (rs : List (Except (List Issue) α)) :
    issues (gather rs) = rs.flatMap issues := by
  induction rs with
  | nil => rfl
  | cons r rs ih =>
    rw [List.flatMap_cons, ← ih, gather.eq_def]
    dsimp only
    cases r with
    | ok a => cases gather rs <;> rfl
    | error is =>
      cases gather rs with
      | ok as => exact (List.append_nil is).symm
      | error more => rfl

/-- If gathering succeeds, then each result is one of those that were gathered. -/
theorem eq_map_ok_of_gather {rs : List (Except (List Issue) α)} {as : List α}
    (h : gather rs = .ok as) : rs = as.map .ok := by
  induction rs generalizing as with
  | nil =>
    obtain rfl := Except.ok.inj h
    rfl
  | cons r rs ih =>
    rw [gather.eq_def] at h
    dsimp only at h
    split at h
    · next a bs hrest =>
      obtain rfl := Except.ok.inj h
      rw [List.map_cons, ← ih hrest]
    all_goals cases h

/-- A result is accepted exactly when it has no issues. -/
def Explained (r : Except (List Issue) α) : Prop := r.isOk = (issues r).isEmpty

theorem explained_map {r : Except (List Issue) α} (f : α → β) (h : Explained r) :
    Explained (r.map f) := by
  unfold Explained
  rw [Result.isOk_map, issues_map]
  exact h

theorem explained_under {r : Except (List Issue) α} (step : Step) (h : Explained r) :
    Explained (under step r) := by
  unfold Explained
  rw [isOk_under, issues_under, List.isEmpty_map]
  exact h

theorem explained_gather {rs : List (Except (List Issue) α)} (h : ∀ r ∈ rs, Explained r) :
    Explained (gather rs) := by
  unfold Explained
  rw [isOk_gather, issues_gather]
  induction rs with
  | nil => rfl
  | cons r rs ih =>
    have hr : r.isOk = (issues r).isEmpty := h r List.mem_cons_self
    rw [List.all_cons, List.flatMap_cons, hr, ih fun s hs => h s (List.mem_cons_of_mem r hs)]
    cases issues r <;> rfl

end Checked

namespace Validation

open Checked

/-! ## Records -/

/-- What checking finds for a property in the entries of a map. -/
def propertyResult (model : String) (es : List (Value × Value)) (p : String × Shape) :
    Except (List Issue) (Option Value) :=
  match Value.lookup p.1 es with
  | some v => (check (ModelName.property model p.1) p.2 v).map some
  | none => checkAbsent p.2.note

/-- A property as its record returns it. -/
def returnedField (index : Nat) (name : String) (v : Option Value) : Option (String × Value) :=
  v.map fun v => (outputName index name, v)

theorem checkFields_cons (model : String) (index : Nat) (p : String × Shape)
    (ps : List (String × Shape)) (es : List (Value × Value)) :
    checkFields model index (p :: ps) es =
      (under (.name p.1) (propertyResult model es p)).map (returnedField index p.1)
        :: checkFields model (index + 1) ps es := by
  obtain ⟨name, shape⟩ := p
  rfl

/-- The fields of a record depend on what its properties find under their names. -/
theorem checkFields_congr {model : String} {ps : List (String × Shape)}
    {es fs : List (Value × Value)}
    (h : ∀ p ∈ ps, propertyResult model es p = propertyResult model fs p) (index : Nat) :
    checkFields model index ps es = checkFields model index ps fs := by
  induction ps generalizing index with
  | nil => rfl
  | cons p ps ih =>
    obtain ⟨hp, hrest⟩ := List.forall_mem_cons.1 h
    rw [checkFields_cons, checkFields_cons, hp, ih hrest]

theorem mem_issues_checkFields {model : String} {index : Nat} {ps : List (String × Shape)}
    {es : List (Value × Value)} {issue : Issue} :
    issue ∈ issues (gather (checkFields model index ps es)) ↔
      ∃ p ∈ ps, ∃ inner ∈ issues (propertyResult model es p), issue = inner.under (.name p.1) := by
  rw [issues_gather]
  induction ps generalizing index with
  | nil => simp [checkFields]
  | cons p ps ih =>
    rw [checkFields_cons, List.flatMap_cons, List.mem_append, ih, issues_map, issues_under,
      List.mem_map]
    simp only [List.exists_mem_cons_iff, @eq_comm _ issue]

/-! ## Lists -/

/-- Elements that are checked alike make lists that are checked alike. -/
theorem checkElements_congr {check : Value → Except (List Issue) Value} {xs ys : List Value}
    (hlength : xs.length = ys.length)
    (h : ∀ (i : Nat) x y, xs[i]? = some x → ys[i]? = some y → check x = check y) :
    checkElements check xs = checkElements check ys := by
  have hresults : (xs.mapIdx fun i x => Checked.under (.index i) (check x)) =
      ys.mapIdx fun i y => Checked.under (.index i) (check y) := by
    apply List.ext_getElem?
    intro i
    rw [List.getElem?_mapIdx, List.getElem?_mapIdx]
    cases hx : xs[i]? with
    | none =>
      have hy : ys[i]? = none := by
        rw [List.getElem?_eq_none_iff] at hx ⊢
        omega
      rw [hy]
    | some x =>
      have hi : i < ys.length := by
        have := (List.getElem?_eq_some_iff.1 hx).1
        omega
      have hy : ys[i]? = some ys[i] := List.getElem?_eq_getElem hi
      rw [hy, Option.map_some, Option.map_some, h i x ys[i] hx hy]
  unfold checkElements
  rw [hresults]

theorem mem_issues_checkElements {check : Value → Except (List Issue) Value} {xs : List Value}
    {issue : Issue} :
    issue ∈ issues (checkElements check xs) ↔
      ∃ (i : Nat) (x : Value), xs[i]? = some x ∧
        ∃ inner ∈ issues (check x), issue = inner.under (.index i) := by
  rw [checkElements, issues_map, issues_gather, List.mem_flatMap]
  simp only [List.mem_mapIdx]
  constructor
  · rintro ⟨_, ⟨i, hi, rfl⟩, hissue⟩
    rw [issues_under, List.mem_map] at hissue
    obtain ⟨inner, hinner, rfl⟩ := hissue
    exact ⟨i, xs[i], List.getElem?_eq_getElem hi, inner, hinner, rfl⟩
  · rintro ⟨i, x, hx, inner, hinner, rfl⟩
    obtain ⟨hi, rfl⟩ := List.getElem?_eq_some_iff.1 hx
    refine ⟨_, ⟨i, hi, rfl⟩, ?_⟩
    rw [issues_under]
    exact List.mem_map_of_mem hinner

/-! ## Every rejection has an issue -/

theorem explained_checkAbsent (note : Note) : Explained (checkAbsent note) := by
  unfold checkAbsent
  cases note.default with
  | some v => rfl
  | none => cases note.required <;> rfl

theorem explained_checkScalar (kind : ScalarKind) (v : Value) :
    Explained (checkScalar kind v) := by
  cases kind <;> cases v <;> rfl

theorem explained_checkChoice (choices : List Value) (v : Value) :
    Explained (checkChoice choices v) := by
  unfold checkChoice
  split <;> rfl

theorem explained_checkElements {check : Value → Except (List Issue) Value} {xs : List Value}
    (h : ∀ x ∈ xs, Explained (check x)) : Explained (checkElements check xs) := by
  refine explained_map _ (explained_gather fun r hr => ?_)
  obtain ⟨i, hi, rfl⟩ := List.mem_mapIdx.1 hr
  exact explained_under _ (h _ (List.getElem_mem hi))

theorem explained_checkKey (k : Value) : Explained (checkKey k) := by
  unfold checkKey
  split
  · rfl
  · split <;> rfl
  · rfl

theorem explained_checkOpenMap (es : List (Value × Value)) : Explained (checkOpenMap es) := by
  refine explained_map _ (explained_gather fun r hr => ?_)
  obtain ⟨e, _, rfl⟩ := List.mem_map.1 hr
  exact explained_map _ (explained_under _ (explained_under _ (explained_checkKey e.1)))

mutual

theorem explained_check (model : String) : (shape : Shape) → (v : Value) →
    Explained (check model shape v)
  | .scalar _ kind, v => explained_checkScalar kind v
  | .enum _ values, v => explained_checkChoice (choicesOf values) v
  | .array _ none, v => by
    cases v with
    | list xs => exact explained_checkElements fun x _ => explained_checkScalar .string x
    | _ => rfl
  | .array _ (some items), v => by
    cases v with
    | list xs => exact explained_checkElements fun x _ => explained_check _ items x
    | _ => rfl
  | .object _ none, v => by
    cases v with
    | map es => exact explained_checkOpenMap es
    | _ => rfl
  | .object _ (some ps), v => by
    cases v with
    | map es => exact explained_map _ (explained_gather (explained_checkFields model 0 ps es))
    | _ => rfl

theorem explained_checkFields (model : String) (index : Nat) : (ps : List (String × Shape)) →
    (es : List (Value × Value)) → ∀ r ∈ checkFields model index ps es, Explained r
  | [], _, r, hr => by cases hr
  | (name, shape) :: ps, es, r, hr => by
    rw [checkFields_cons] at hr
    rcases List.mem_cons.1 hr with rfl | hr
    · refine explained_map _ (explained_under _ ?_)
      unfold propertyResult
      split
      · next v _ => exact explained_map _ (explained_check _ shape v)
      · exact explained_checkAbsent shape.note
    · exact explained_checkFields model (index + 1) ps es r hr

end

end Validation

/-! ## Places -/

/-- What stands at a place in a value. -/
def Value.at? : List Step → Value → Option Value
  | [], v => some v
  | .name n :: path, .map es => (lookup n es).bind (at? path)
  | .index (.ofNat i) :: path, .list xs => xs[i]?.bind (at? path)
  | _ :: _, _ => none

/-- The shape of what stands at a place; all elements of an array have one. -/
def Shape.at? : List Step → Shape → Option Shape
  | [], shape => some shape
  | .name n :: path, .object _ (some ps) => (OrderedMap.get? n ps).bind (at? path)
  | .index (.ofNat _) :: path, .array _ (some items) => at? path items
  | _ :: _, _ => none

/-- A step into an object with properties, or into an array with items. -/
theorem Shape.at?_cons_eq_some {step : Step} {path : List Step} {shape inner : Shape}
    (h : shape.at? (step :: path) = some inner) :
    (∃ name note ps s, step = .name name ∧ shape = .object note (some ps) ∧
      OrderedMap.get? name ps = some s ∧ s.at? path = some inner) ∨
    (∃ i note items, step = .index (.ofNat i) ∧ shape = .array note (some items) ∧
      items.at? path = some inner) := by
  unfold Shape.at? at h
  split at h
  · next heq => cases heq
  · next name path' note ps heq =>
    obtain ⟨rfl, rfl⟩ := List.cons.inj heq
    obtain ⟨s, hs, hinner⟩ := Option.bind_eq_some_iff.1 h
    exact Or.inl ⟨name, note, ps, s, rfl, rfl, hs, hinner⟩
  · next i path' note items heq =>
    obtain ⟨rfl, rfl⟩ := List.cons.inj heq
    exact Or.inr ⟨i, note, items, rfl, rfl, h⟩
  · cases h

/-- What holds everywhere in a shape holds everywhere in the shape at a place. -/
theorem Shape.all_of_at? {p : Shape → Bool} {shape inner : Shape} {path : List Step}
    (h : shape.all p = true) (hinner : shape.at? path = some inner) : inner.all p = true := by
  induction path generalizing shape with
  | nil => exact Option.some.inj hinner ▸ h
  | cons step path ih =>
    rcases Shape.at?_cons_eq_some hinner with
      ⟨name, note, ps, s, rfl, rfl, hs, hinner'⟩ | ⟨i, note, items, rfl, rfl, hinner'⟩
    · exact ih (Shape.all_of_get? (Bool.and_eq_true_iff.1 h).2 hs) hinner'
    · exact ih (Bool.and_eq_true_iff.1 h).2 hinner'

namespace Validation

open Checked

theorem mem_issues_property {model : String} {ps : OrderedMap Shape} {es : List (Value × Value)}
    (hnodup : ps.keys.Nodup) {name : String} {shape : Shape} (hget : ps.get? name = some shape)
    {path : List Step} {cause : Cause} :
    ⟨.name name :: path, cause⟩ ∈ issues (gather (checkFields model 0 ps es)) ↔
      ⟨path, cause⟩ ∈ issues (propertyResult model es (name, shape)) := by
  rw [mem_issues_checkFields]
  constructor
  · rintro ⟨⟨n, s⟩, hp, ⟨path', cause'⟩, hinner, heq⟩
    obtain ⟨hpath, rfl⟩ := Issue.mk.inj heq
    obtain ⟨hname, rfl⟩ := List.cons.inj hpath
    obtain rfl := Step.name.inj hname
    have hs := get?_eq_some_of_mem hnodup hp
    rw [hget] at hs
    rw [Option.some.inj hs]
    exact hinner
  · intro hinner
    exact ⟨(name, shape), mem_of_get? hget, _, hinner, rfl⟩

theorem mem_issues_element {check : Value → Except (List Issue) Value} {xs : List Value} {i : Nat}
    {x : Value} (hx : xs[i]? = some x) {path : List Step} {cause : Cause} :
    ⟨.index (.ofNat i) :: path, cause⟩ ∈ issues (checkElements check xs) ↔
      ⟨path, cause⟩ ∈ issues (check x) := by
  rw [mem_issues_checkElements]
  constructor
  · rintro ⟨j, y, hy, ⟨path', cause'⟩, hinner, heq⟩
    obtain ⟨hpath, rfl⟩ := Issue.mk.inj heq
    obtain ⟨hindex, rfl⟩ := List.cons.inj hpath
    obtain rfl : i = j := Int.ofNat.inj (Step.index.inj hindex)
    rw [hx] at hy
    rw [Option.some.inj hy]
    exact hinner
  · intro hinner
    exact ⟨i, x, hx, _, hinner, rfl⟩

/-- The issues below a place are those of the part that stands there, up to the name under which
messages know the record at this place. -/
theorem mem_issues_check_at {shape inner : Shape} {v part : Value} {path : List Step}
    (hshape : shape.all Shape.hasDistinctNames = true) (hinner : shape.at? path = some inner)
    (hpart : v.at? path = some part) (model : String) :
    ∃ model', ∀ rest cause, ⟨path ++ rest, cause⟩ ∈ issues (check model shape v) ↔
      ⟨rest, cause⟩ ∈ issues (check model' inner part) := by
  induction path generalizing shape v model with
  | nil =>
    obtain rfl := Option.some.inj hinner
    obtain rfl := Option.some.inj hpart
    exact ⟨model, fun _ _ => Iff.rfl⟩
  | cons step path ih =>
    rcases Shape.at?_cons_eq_some hinner with
      ⟨name, note, ps, s, rfl, rfl, hs, hinner'⟩ | ⟨i, note, items, rfl, rfl, hinner'⟩
    · obtain ⟨hnames, hall⟩ := Bool.and_eq_true_iff.1 hshape
      cases v with
      | map es =>
        obtain ⟨w, hw, hpart'⟩ := Option.bind_eq_some_iff.1 hpart
        obtain ⟨model', hmodel⟩ :=
          ih (Shape.all_of_get? hall hs) hinner' hpart' (ModelName.property model name)
        refine ⟨model', fun rest cause => ?_⟩
        rw [← hmodel, check, issues_map, List.cons_append,
          mem_issues_property (of_decide_eq_true hnames) hs, propertyResult]
        dsimp only
        rw [hw, issues_map]
      | _ => cases hpart
    · obtain ⟨_, hall⟩ := Bool.and_eq_true_iff.1 hshape
      cases v with
      | list xs =>
        obtain ⟨x, hx, hpart'⟩ := Option.bind_eq_some_iff.1 hpart
        obtain ⟨model', hmodel⟩ := ih hall hinner' hpart' (ModelName.item model)
        refine ⟨model', fun rest cause => ?_⟩
        rw [← hmodel, check, List.cons_append, mem_issues_element hx]
      | _ => cases hpart

end Validation

/-- Arguments are checked as the record that the parameters would be as a property. -/
theorem Parameters.validate_eq_check (ps : Parameters) (model : String) (v : Value) :
    ps.validate model (some v) = Validation.check model ps.shape v := by
  cases v <;> rfl

end DeclaredTools
