/-
  The validation of a whole out of the validations of its parts, each done by itself: of a record
  out of those of its properties, present or absent, and of a list out of those of its elements. The
  whole is accepted exactly when all parts are, and its issues are those of the parts in their
  order, each behind the step to its part (`validation_composed`).

  A part that is validated by itself knows the records in it by other names than within the whole,
  so issues are compared in brief. Paths are told apart by their steps; only an open map can list
  one path twice, for two keys that are no texts and are known by one step.
-/
import DeclaredTools.Proofs.Schema.Conformance
import DeclaredTools.Proofs.Validation.Brief

namespace DeclaredTools

open OrderedMap

namespace Validation

open Checked Result

/-! ## Parts -/

theorem explained_validate (shape : Shape) : (v : Option Value) → Explained (shape.validate v)
  | some v => explained_check "Value" shape v
  | none => explained_map _ (explained_checkAbsent shape.note)

/-- A property of a record is validated as its shape validates what the record has for it. -/
theorem briefs_propertyResult (model : String) (es : List (Value × Value)) (p : String × Shape) :
    briefs (propertyResult model es p) = briefs (p.2.validate (Value.lookup p.1 es)) := by
  unfold propertyResult Shape.validate
  cases Value.lookup p.1 es with
  | some v => exact (briefs_map some _).trans (briefs_check _ _ p.2 v)
  | none => exact (briefs_map (fun r : Option Value => r.getD .null) _).symm

/-- The properties of a record: what its entries have for each, validated by itself. -/
def propertyParts (ps : List (String × Shape)) (es : List (Value × Value)) :
    List (Step × Except (List Issue) Value) :=
  ps.map fun p => (.name p.1, p.2.validate (Value.lookup p.1 es))

/-- The elements of a list, each validated by itself. -/
def elementParts (validate : Value → Except (List Issue) Value) (xs : List Value) :
    List (Step × Except (List Issue) Value) :=
  xs.mapIdx fun i x => (.index i, validate x)

theorem briefs_checkFields (model : String) (index : Nat) (ps : List (String × Shape))
    (es : List (Value × Value)) :
    briefs (gather (checkFields model index ps es)) =
      (propertyParts ps es).flatMap fun part => (briefs part.2).map (behind part.1) := by
  rw [briefs_gather, propertyParts, List.flatMap_map]
  induction ps generalizing index with
  | nil => rfl
  | cons p ps ih =>
    rw [checkFields_cons, List.flatMap_cons, List.flatMap_cons, ih, briefs_map, briefs_under,
      briefs_propertyResult]

theorem briefs_checkElements {check validate : Value → Except (List Issue) Value}
    (h : ∀ x, briefs (check x) = briefs (validate x)) (xs : List Value) :
    briefs (checkElements check xs) =
      (elementParts validate xs).flatMap fun part => (briefs part.2).map (behind part.1) := by
  rw [checkElements, briefs_map, briefs_gather, elementParts, List.flatMap_def, List.flatMap_def,
    map_mapIdx, map_mapIdx]
  simp only [briefs_under, h]

theorem nodup_steps_elementParts (validate : Value → Except (List Issue) Value)
    (xs : List Value) : ((elementParts validate xs).map Prod.fst).Nodup := by
  have hindices : (elementParts validate xs).map Prod.fst =
      (List.range' 0 xs.length).map fun i : Nat => Step.index i := by
    rw [elementParts, map_mapIdx, List.mapIdx_eq_zipIdx_map, ← List.zipIdx_map_snd, List.map_map]
    rfl
  have hdistinct : (List.range' 0 xs.length).Nodup := List.nodup_range'
  rw [hindices]
  exact hdistinct.map fun _ _ hstep => Int.ofNat.inj (Step.index.inj hstep)

theorem nodup_steps_propertyParts {ps : OrderedMap Shape} (h : ps.keys.Nodup)
    (es : List (Value × Value)) : ((propertyParts ps es).map Prod.fst).Nodup := by
  have hnames : (propertyParts ps es).map Prod.fst = ps.keys.map Step.name := by
    rw [propertyParts, List.map_map, keys, List.map_map]
    rfl
  rw [hnames]
  exact h.map fun _ _ hstep => Step.name.inj hstep

/-- A whole with the results of its parts, each behind the step to it. -/
structure ComposedOf (whole : Except (List Issue) Value)
    (parts : List (Step × Except (List Issue) Value)) : Prop where
  /-- The whole is accepted exactly when all parts are. -/
  isOk_iff : whole.isOk = true ↔ ∀ part ∈ parts, part.2.isOk = true
  /-- A result is accepted exactly when it has no issues. -/
  isOk_iff_nil : whole.isOk = true ↔ issues whole = []
  /-- The issues of the whole are those of the parts, part by part. -/
  briefs_eq : briefs whole = parts.flatMap fun part => (briefs part.2).map (behind part.1)
  /-- What the whole has behind the step to a part is what the part has, once. -/
  once : ∀ part ∈ parts, (briefs whole).filter (fun b => b.1.head? = some part.1) =
    (briefs part.2).map (behind part.1)

theorem filter_map_behind (step other : Step) (bs : List (List Step × String)) :
    (bs.map (behind step)).filter (fun b => b.1.head? = some other) =
      if step = other then bs.map (behind step) else [] := by
  split
  · next h =>
    rw [List.filter_eq_self]
    intro b hb
    obtain ⟨c, _, rfl⟩ := List.mem_map.1 hb
    exact decide_eq_true (congrArg some h)
  · next h =>
    rw [List.filter_eq_nil_iff]
    intro b hb
    obtain ⟨c, _, rfl⟩ := List.mem_map.1 hb
    simpa [behind] using h

/-- Issues behind distinct steps are told apart by their first steps. -/
theorem filter_flatMap_behind {parts : List (Step × Except (List Issue) Value)}
    (h : (parts.map Prod.fst).Nodup) {part : Step × Except (List Issue) Value}
    (hpart : part ∈ parts) :
    (parts.flatMap fun part => (briefs part.2).map (behind part.1)).filter
      (fun b => b.1.head? = some part.1) = (briefs part.2).map (behind part.1) := by
  induction parts with
  | nil => cases hpart
  | cons first parts ih =>
    rw [List.map_cons, List.nodup_cons] at h
    rw [List.flatMap_cons, List.filter_append, filter_map_behind]
    rcases List.mem_cons.1 hpart with rfl | hpart
    · -- no other part is behind this step
      have hrest : (parts.flatMap fun part => (briefs part.2).map (behind part.1)).filter
          (fun b => b.1.head? = some part.1) = [] := by
        rw [List.filter_flatMap, List.flatMap_eq_nil_iff]
        intro other hother
        have hne : other.1 ≠ part.1 := fun heq => h.1 (heq ▸ List.mem_map_of_mem hother)
        rw [filter_map_behind, if_neg hne]
      rw [if_pos rfl, hrest, List.append_nil]
    · have hne : first.1 ≠ part.1 := fun heq => h.1 (heq ▸ List.mem_map_of_mem hpart)
      rw [if_neg hne, List.nil_append, ih h.2 hpart]

theorem composedOf_of_briefs_eq {whole : Except (List Issue) Value}
    {parts : List (Step × Except (List Issue) Value)} (hwhole : Explained whole)
    (hparts : ∀ part ∈ parts, Explained part.2) (hsteps : (parts.map Prod.fst).Nodup)
    (hbriefs : briefs whole = parts.flatMap fun part => (briefs part.2).map (behind part.1)) :
    ComposedOf whole parts where
  isOk_iff := by
    rw [isOk_iff_briefs_eq_nil hwhole, hbriefs, List.flatMap_eq_nil_iff]
    refine forall₂_congr fun part hpart => ?_
    rw [List.map_eq_nil_iff, isOk_iff_briefs_eq_nil (hparts part hpart)]
  isOk_iff_nil := by rw [hwhole, List.isEmpty_iff]
  briefs_eq := hbriefs
  once part hpart := by rw [hbriefs, filter_flatMap_behind hsteps hpart]

/-! ## Paths -/

/-- The steps to the keys that an open map rejects. -/
def rejectedSteps (es : List (Value × Value)) : List Step :=
  (es.filter fun e => !(checkKey e.1).isOk).map fun e => Step.ofKey e.1

/-- A result that is accepted, or rejected as a whole. -/
def Undivided {α : Type} (r : Except (List Issue) α) : Prop :=
  (∃ a, r = .ok a) ∨ ∃ cause, r = reject cause

theorem undivided_checkScalar (kind : ScalarKind) (v : Value) :
    Undivided (checkScalar kind v) := by
  unfold checkScalar
  split
  · exact .inl ⟨_, rfl⟩
  · exact .inr ⟨_, rfl⟩
  · exact .inl ⟨_, rfl⟩
  · exact .inr ⟨_, rfl⟩
  · split
    · exact .inl ⟨_, rfl⟩
    · exact .inr ⟨_, rfl⟩

theorem undivided_checkChoice (choices : List Value) (v : Value) :
    Undivided (checkChoice choices v) := by
  unfold checkChoice
  split
  · exact .inl ⟨_, rfl⟩
  · exact .inr ⟨_, rfl⟩

theorem undivided_checkKey (k : Value) : Undivided (checkKey k) := by
  unfold checkKey
  split
  · exact .inl ⟨_, rfl⟩
  · split
    · exact .inl ⟨_, rfl⟩
    · exact .inr ⟨_, rfl⟩
  · exact .inr ⟨_, rfl⟩

theorem undivided_checkAbsent (note : Note) : Undivided (checkAbsent note) := by
  unfold checkAbsent
  split
  · exact .inl ⟨_, rfl⟩
  · split
    · exact .inr ⟨_, rfl⟩
    · exact .inl ⟨_, rfl⟩

theorem paths_of_undivided {α : Type} {r : Except (List Issue) α} (h : Undivided r) :
    (briefs r).map Prod.fst = if r.isOk then [] else [[]] := by
  rcases h with ⟨a, rfl⟩ | ⟨cause, rfl⟩
  · rfl
  · rfl

theorem nodup_paths_of_undivided {α : Type} {r : Except (List Issue) α} (h : Undivided r) :
    ((briefs r).map Prod.fst).Nodup := by
  rw [paths_of_undivided h]
  split
  · exact List.nodup_nil
  · exact List.nodup_singleton _

theorem paths_behind (step : Step) (bs : List (List Step × String)) :
    (bs.map (behind step)).map Prod.fst = (bs.map Prod.fst).map (step :: ·) := by
  rw [List.map_map, List.map_map]
  rfl

theorem paths_checkOpenMap (es : List (Value × Value)) :
    (briefs (checkOpenMap es)).map Prod.fst =
      (rejectedSteps es).map fun step => [step, .name "[key]"] := by
  rw [checkOpenMap, briefs_map, briefs_gather, rejectedSteps]
  induction es with
  | nil => rfl
  | cons e es ih =>
    rw [List.map_cons, List.flatMap_cons, List.map_append, ih, briefs_map, briefs_under,
      briefs_under, paths_behind, paths_behind, paths_of_undivided (undivided_checkKey e.1),
      List.filter_cons]
    cases (checkKey e.1).isOk <;> rfl

/-- Behind distinct steps there are distinct paths if there are behind each. -/
theorem nodup_paths_flatMap {parts : List (Step × Except (List Issue) Value)}
    (hsteps : (parts.map Prod.fst).Nodup)
    (hparts : ∀ part ∈ parts, ((briefs part.2).map Prod.fst).Nodup) :
    ((parts.flatMap fun part => (briefs part.2).map (behind part.1)).map Prod.fst).Nodup := by
  rw [List.map_flatMap, List.nodup_flatMap]
  constructor
  · intro part hpart
    rw [paths_behind]
    exact (hparts part hpart).map fun _ _ h => (List.cons.inj h).2
  · refine (List.pairwise_map.1 hsteps).imp ?_
    intro part other hne path hpath hother
    obtain ⟨_, hmem, rfl⟩ := List.mem_map.1 hpath
    obtain ⟨b, _, rfl⟩ := List.mem_map.1 hmem
    obtain ⟨_, hmem', heq⟩ := List.mem_map.1 hother
    obtain ⟨c, _, rfl⟩ := List.mem_map.1 hmem'
    exact hne (List.cons.inj heq).1.symm

end Validation

open Validation in
/-- In no map within the value, two keys that an open map rejects are known by one step. -/
def Value.HasKeysApart (v : Value) : Prop :=
  ∀ path es, v.at? path = some (.map es) → (rejectedSteps es).Nodup

namespace Value

theorem hasKeysApart_of_lookup {es : List (Value × Value)} (h : HasKeysApart (.map es))
    {name : String} {v : Value} (hv : lookup name es = some v) : v.HasKeysApart := by
  intro path fs hfs
  refine h (.name name :: path) fs ?_
  rw [at?, hv]
  exact hfs

theorem hasKeysApart_of_getElem {xs : List Value} (h : HasKeysApart (.list xs)) {i : Nat}
    (hi : i < xs.length) : HasKeysApart xs[i] := by
  intro path fs hfs
  refine h (.index (.ofNat i) :: path) fs ?_
  rw [at?, List.getElem?_eq_getElem hi]
  exact hfs

theorem isJson_of_at? {v part : Value} {path : List Step} (hv : v.isJson = true)
    (h : v.at? path = some part) : part.isJson = true := by
  induction path generalizing v with
  | nil => exact Option.some.inj h ▸ hv
  | cons step path ih =>
    unfold at? at h
    split at h
    · next heq => cases heq
    · next name path' es heq =>
      obtain ⟨rfl, rfl⟩ := List.cons.inj heq
      obtain ⟨w, hw, hpart⟩ := Option.bind_eq_some_iff.1 h
      exact ih (isJson_of_lookup_eq_some hv hw) hpart
    · next i path' xs heq =>
      obtain ⟨rfl, rfl⟩ := List.cons.inj heq
      obtain ⟨w, hw, hpart⟩ := Option.bind_eq_some_iff.1 h
      exact ih (isJson_of_mem hv (List.mem_of_getElem? hw)) hpart
    · cases h

/-- An open map rejects no key of a JSON map. -/
theorem hasKeysApart_of_isJson {v : Value} (h : v.isJson = true) : v.HasKeysApart := by
  intro path es hes
  have hnone : Validation.rejectedSteps es = [] := by
    rw [Validation.rejectedSteps, List.map_eq_nil_iff, List.filter_eq_nil_iff]
    intro e he
    obtain ⟨s, hs⟩ := exists_text_of_mem (isJson_of_at? h hes) he
    rw [hs]
    exact Bool.false_ne_true
  rw [hnone]
  exact List.nodup_nil

end Value

namespace Validation

open Checked Result

theorem briefs_validate_array (note : Note) (items : Option Shape) (xs : List Value) :
    briefs (Shape.validate (.array note items) (some (.list xs))) =
      (elementParts (fun x => (items.getD .plain).validate (some x)) xs).flatMap
        fun part => (briefs part.2).map (behind part.1) := by
  cases items with
  | none => exact briefs_checkElements (fun _ => rfl) xs
  | some items => exact briefs_checkElements (fun x => briefs_check _ _ items x) xs

theorem briefs_validate_object (note : Note) (ps : List (String × Shape))
    (es : List (Value × Value)) :
    briefs (Shape.validate (.object note (some ps)) (some (.map es))) =
      (propertyParts ps es).flatMap fun part => (briefs part.2).map (behind part.1) :=
  (briefs_map recordOf _).trans (briefs_checkFields _ 0 ps es)

mutual

/-- Validation lists no path twice. -/
theorem nodup_paths_validate : (shape : Shape) → shape.all Shape.hasDistinctNames = true →
    (v : Value) → v.HasKeysApart → ((briefs (shape.validate (some v))).map Prod.fst).Nodup
  | .scalar _ kind, _, v, _ => nodup_paths_of_undivided (undivided_checkScalar kind v)
  | .enum _ values, _, v, _ => nodup_paths_of_undivided (undivided_checkChoice _ v)
  | .array note none, _, v, hv => by
    cases v with
    | list xs =>
      rw [briefs_validate_array]
      refine nodup_paths_flatMap (nodup_steps_elementParts _ xs) ?_
      intro part hpart
      obtain ⟨i, hi, rfl⟩ := List.mem_mapIdx.1 hpart
      exact nodup_paths_of_undivided (undivided_checkScalar .string xs[i])
    | _ => exact List.nodup_singleton _
  | .array note (some items), hshape, v, hv => by
    cases v with
    | list xs =>
      rw [briefs_validate_array]
      refine nodup_paths_flatMap (nodup_steps_elementParts _ xs) ?_
      intro part hpart
      obtain ⟨i, hi, rfl⟩ := List.mem_mapIdx.1 hpart
      exact nodup_paths_validate items (Bool.and_eq_true_iff.1 hshape).2 xs[i]
        (Value.hasKeysApart_of_getElem hv hi)
    | _ => exact List.nodup_singleton _
  | .object note none, _, v, hv => by
    cases v with
    | map es =>
      show ((briefs (checkOpenMap es)).map Prod.fst).Nodup
      rw [paths_checkOpenMap]
      exact (hv [] es rfl).map fun _ _ h => (List.cons.inj h).1
    | _ => exact List.nodup_singleton _
  | .object note (some ps), hshape, v, hv => by
    cases v with
    | map es =>
      obtain ⟨hnames, hall⟩ := Bool.and_eq_true_iff.1 hshape
      rw [briefs_validate_object]
      refine nodup_paths_flatMap (nodup_steps_propertyParts (of_decide_eq_true hnames) es) ?_
      intro part hpart
      obtain ⟨p, hp, rfl⟩ := List.mem_map.1 hpart
      exact nodup_paths_properties ps hall es hv p hp
    | _ => exact List.nodup_singleton _

theorem nodup_paths_properties : (ps : List (String × Shape)) →
    Shape.allIn Shape.hasDistinctNames ps = true → (es : List (Value × Value)) →
      Value.HasKeysApart (.map es) → ∀ p ∈ ps,
        ((briefs (p.2.validate (Value.lookup p.1 es))).map Prod.fst).Nodup
  | [], _, _, _, p, hp => by cases hp
  | (name, shape) :: ps, hps, es, hes, p, hp => by
    obtain ⟨hshape, hrest⟩ := Bool.and_eq_true_iff.1 hps
    rcases List.mem_cons.1 hp with rfl | hp
    · dsimp only
      cases hv : Value.lookup name es with
      | some v =>
        exact nodup_paths_validate shape hshape v (Value.hasKeysApart_of_lookup hes hv)
      | none =>
        rw [Shape.validate, briefs_map]
        exact nodup_paths_of_undivided (undivided_checkAbsent shape.note)
    · exact nodup_paths_properties ps hrest es hes p hp

end

/-- **Validation is composed of validations of the parts and hides no failure.** Parameters, and
records at any depth, are composed of their properties, each validated by itself with what the
arguments have for it or with nothing; lists are composed of their elements. No path is listed
twice in arguments whose keys are apart, JSON arguments among them. -/
theorem validation_composed :
    (∀ (ps : Parameters) (model : String) (es : List (Value × Value)), ps.keys.Nodup →
      ComposedOf (ps.validate model (some (.map es))) (propertyParts ps es)) ∧
    (∀ (note : Note) (ps : OrderedMap Shape) (es : List (Value × Value)), ps.keys.Nodup →
      ComposedOf (Shape.validate (.object note (some ps)) (some (.map es)))
        (propertyParts ps es)) ∧
    (∀ (note : Note) (items : Option Shape) (xs : List Value),
      ComposedOf (Shape.validate (.array note items) (some (.list xs)))
        (elementParts (fun x => (items.getD .plain).validate (some x)) xs)) ∧
    (∀ (ps : Parameters) (model : String) (args : Value),
      ps.shape.all Shape.hasDistinctNames = true → args.HasKeysApart →
        ((issues (ps.validate model (some args))).map Issue.path).Nodup) := by
  have hproperties : ∀ (ps : List (String × Shape)) (es : List (Value × Value)),
      ∀ part ∈ propertyParts ps es, Explained part.2 := by
    intro ps es part hpart
    obtain ⟨p, _, rfl⟩ := List.mem_map.1 hpart
    exact explained_validate _ _
  refine ⟨fun ps model es h => ?_, fun note ps es h => ?_, fun note items xs => ?_,
    fun ps model args hnames hkeys => ?_⟩
  · refine composedOf_of_briefs_eq ?_ (hproperties ps es) (nodup_steps_propertyParts h es) ?_
    · rw [Parameters.validate_eq_check]
      exact explained_check model ps.shape (.map es)
    · exact (briefs_map recordOf _).trans (briefs_checkFields model 0 ps es)
  · exact composedOf_of_briefs_eq (explained_validate _ _) (hproperties ps es)
      (nodup_steps_propertyParts h es) (briefs_validate_object note ps es)
  · refine composedOf_of_briefs_eq (explained_validate _ _) ?_ (nodup_steps_elementParts _ xs)
      (briefs_validate_array note items xs)
    intro part hpart
    obtain ⟨i, hi, rfl⟩ := List.mem_mapIdx.1 hpart
    exact explained_validate (items.getD .plain) (some xs[i])
  · have hpaths : (issues (ps.validate model (some args))).map Issue.path =
        (briefs (ps.shape.validate (some args))).map Prod.fst := by
      rw [Parameters.validate_eq_check, Shape.validate, ← briefs_check model, briefs, List.map_map]
      rfl
    rw [hpaths]
    exact nodup_paths_validate ps.shape hnames args hkeys

/-- A list of records with a required number, a level with a default, and a required text. -/
private def planned : Parameters :=
  [("rows", .array ⟨none, false, none⟩ (some (.object ⟨none, false, none⟩ (some
      [("x", .scalar ⟨none, true, none⟩ .number), ("y", .scalar ⟨none, false, none⟩ .string)])))),
    ("level", .enum ⟨none, true, some (.int 1)⟩ [.int 1, .int 2]),
    ("title", .scalar ⟨none, true, none⟩ .string)]

/-- Rows with three faults, a level that is no choice, and no title. -/
private def faultyPlan : List (Value × Value) :=
  [(.text "level", .int 4), (.text "rows", .list
    [.map [(.text "x", .text "a")], .map [(.text "x", .int 1)], .map [(.text "y", .int 3)]])]

theorem validation_composed_planned :
    ComposedOf (planned.validate "Arguments" (some (.map faultyPlan)))
      (propertyParts planned faultyPlan) ∧
    briefs (planned.validate "Arguments" (some (.map faultyPlan))) =
      [([.name "rows", .index 0, .name "x"], "number_type"),
        ([.name "rows", .index 2, .name "x"], "missing"),
        ([.name "rows", .index 2, .name "y"], "string_type"),
        ([.name "level"], "enum"), ([.name "title"], "missing")] ∧
    ((issues (planned.validate "Arguments" (some (.map faultyPlan)))).map Issue.path).Nodup := by
  have hcomposed := validation_composed.1 planned "Arguments" faultyPlan (by decide)
  have hkeys : Value.HasKeysApart (.map faultyPlan) :=
    Value.hasKeysApart_of_isJson (by decide +kernel)
  refine ⟨hcomposed, hcomposed.briefs_eq.trans (by decide +kernel), ?_⟩
  exact validation_composed.2.2.2 planned "Arguments" _ (by decide +kernel) hkeys

end Validation

end DeclaredTools
