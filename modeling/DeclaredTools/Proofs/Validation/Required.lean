/-
  What the required list of an advertised schema says about validation, at the root and at every
  record inside.

  The absence of a property is reported exactly when it is listed as required and has no default
  (`missing_reported_iff`). A default goes before: a property that is required and has one is listed
  all the same, and its absence is not reported (`listed_not_reported`).
-/
import DeclaredTools.Proofs.Schema.WireForm
import DeclaredTools.Proofs.Validation.Issues

namespace DeclaredTools

open OrderedMap

/-! ## Places -/

namespace Schema

/-- The schema that a shape has at some place is the schema of the shape that it has there. -/
theorem at?_schema {shape inner : Shape} {path : List Step} (h : shape.at? path = some inner) :
    at? path shape.schema.toValue = some inner.schema.toValue := by
  induction path generalizing shape with
  | nil =>
    obtain rfl := Option.some.inj h
    rfl
  | cons step path ih =>
    rcases Shape.at?_cons_eq_some h with
      ⟨name, note, ps, s, rfl, rfl, hs, hinner⟩ | ⟨i, note, items, rfl, rfl, hinner⟩
    · rw [Shape.schema, at?, get?_properties_record, Option.bind_some, Value.get?,
        lookup_fieldValues_schemas, hs, Option.map_some, Option.bind_some]
      exact ih hinner
    · rw [Shape.schema, at?, get?_items_array, Option.bind_some]
      exact ih hinner

end Schema

/-! ## Values with a part at a place -/

namespace Value

/-- A value that has a given part at a place, and little else. -/
def around : List Step → Value → Value
  | [], part => part
  | .name n :: path, part => .map [(.text n, around path part)]
  | .index i :: path, part => .list (List.replicate (i.toNat + 1) (around path part))

theorem at?_around {shape inner : Shape} {path : List Step} (h : shape.at? path = some inner)
    (part : Value) : (around path part).at? path = some part := by
  induction path generalizing shape with
  | nil => rfl
  | cons step path ih =>
    rcases Shape.at?_cons_eq_some h with
      ⟨name, note, ps, s, rfl, rfl, hs, hinner⟩ | ⟨i, note, items, rfl, rfl, hinner⟩
    · have hlookup : lookup name [(.text name, around path part)] = some (around path part) := by
        rw [lookup, isText, if_pos (beq_self_eq_true name)]
      rw [around, at?, hlookup, Option.bind_some]
      exact ih hinner
    · have hget : (List.replicate (i + 1) (around path part))[i]? = some (around path part) := by
        rw [List.getElem?_replicate, if_pos (Nat.lt_succ_self i)]
      show (List.replicate (i + 1) (around path part))[i]?.bind (at? path) = some part
      rw [hget, Option.bind_some]
      exact ih hinner

end Value

/-! ## Required and missing -/

namespace Shape

theorem mem_requiredNames {ps : List (String × Shape)} {name : String} :
    name ∈ requiredNames ps ↔ ∃ shape, (name, shape) ∈ ps ∧ shape.note.required = true := by
  induction ps with
  | nil => simp [requiredNames]
  | cons p ps ih =>
    obtain ⟨n, s⟩ := p
    rw [requiredNames]
    by_cases hs : s.note.required = true
    · rw [if_pos hs, List.mem_cons, ih]
      grind
    · rw [if_neg hs, ih]
      grind

theorem mem_requiredNames_iff {ps : OrderedMap Shape} (hnodup : ps.keys.Nodup) {name : String}
    {shape : Shape} (hget : ps.get? name = some shape) :
    name ∈ requiredNames ps ↔ shape.note.required = true := by
  rw [mem_requiredNames]
  constructor
  · rintro ⟨s, hmem, hs⟩
    have hget' := get?_eq_some_of_mem hnodup hmem
    rw [hget] at hget'
    rwa [Option.some.inj hget']
  · intro hs
    exact ⟨shape, mem_of_get? hget, hs⟩

end Shape

namespace Validation

open Checked

theorem issues_checkAbsent (note : Note) :
    issues (checkAbsent note) =
      if note.required = true ∧ note.default = none then [Issue.here .missing] else [] := by
  unfold checkAbsent
  cases note.default with
  | some v => simp [issues]
  | none => cases note.required <;> rfl

/-- An absent property of a record is missing if it is required and has no default. -/
theorem mem_issues_absent_iff {model : String} {note : Note} {ps : OrderedMap Shape}
    (hnodup : ps.keys.Nodup) {name : String} {shape : Shape} (hget : ps.get? name = some shape)
    {es : List (Value × Value)} (habsent : Value.lookup name es = none) (cause : Cause) :
    ⟨[.name name], cause⟩ ∈ issues (check model (.object note (some ps)) (.map es)) ↔
      cause = .missing ∧ name ∈ Shape.requiredNames ps ∧ shape.note.default = none := by
  rw [check, issues_map, mem_issues_property hnodup hget, propertyResult, habsent]
  dsimp only
  rw [issues_checkAbsent, Shape.mem_requiredNames_iff hnodup hget]
  by_cases h : shape.note.required = true ∧ shape.note.default = none
  · rw [if_pos h, List.mem_singleton, Issue.here, Issue.mk.injEq]
    simp [h]
  · rw [if_neg h]
    simp [h]

end Validation

namespace Parameters

open Validation Checked

theorem schema_eq_schema_shape (ps : Parameters) : ps.schema = ps.shape.schema := rfl

/-- The advertised schema lists a name as required for the record at a place. -/
def ListsRequired (ps : Parameters) (path : List Step) (name : String) : Prop :=
  ∃ wire, Schema.at? path ps.schema.toValue = some wire ∧ name ∈ Schema.requiredIn wire

/-- Arguments are rejected whenever the map that they have at a place lacks a name, and this very
absence is among the issues. -/
def ReportsMissing (ps : Parameters) (model : String) (path : List Step) (name : String) : Prop :=
  ∀ args es, args.at? path = some (.map es) → Value.lookup name es = none →
    ∃ is, ps.validate model (some args) = .error is ∧
      ∃ issue ∈ is, issue.path = path ++ [.name name] ∧ issue.cause.code = "missing"

section

variable {ps : Parameters} {path : List Step} {note : Note} {qs : List (String × Shape)}

theorem listsRequired_iff (hplace : ps.shape.at? path = some (.object note (some qs)))
    (name : String) : ps.ListsRequired path name ↔ name ∈ Shape.requiredNames qs := by
  have hwire := Schema.at?_schema hplace
  rw [Shape.schema] at hwire
  unfold ListsRequired
  rw [schema_eq_schema_shape, hwire]
  constructor
  · rintro ⟨wire, hfound, hname⟩
    rwa [← Option.some.inj hfound, Schema.requiredIn_toValue] at hname
  · intro hname
    refine ⟨_, rfl, ?_⟩
    rwa [Schema.requiredIn_toValue]

/-- Whether the absence of a name is reported does not depend on the rest of the arguments. -/
theorem missing_mem_issues_iff (hdistinct : ps.shape.all Shape.hasDistinctNames = true)
    (hplace : ps.shape.at? path = some (.object note (some qs))) {name : String} {shape : Shape}
    (hname : OrderedMap.get? name qs = some shape) (model : String) {args : Value}
    {es : List (Value × Value)} (hpart : args.at? path = some (.map es))
    (habsent : Value.lookup name es = none) (cause : Cause) :
    ⟨path ++ [.name name], cause⟩ ∈ issues (ps.validate model (some args)) ↔
      cause = .missing ∧ ps.ListsRequired path name ∧ shape.note.default = none := by
  obtain ⟨model', hmodel⟩ := mem_issues_check_at hdistinct hplace hpart model
  have hnodup : (keys qs).Nodup := by
    have hrecord := Shape.all_of_at? hdistinct hplace
    exact of_decide_eq_true (Bool.and_eq_true_iff.1 hrecord).1
  rw [validate_eq_check, hmodel, mem_issues_absent_iff hnodup hname habsent,
    listsRequired_iff hplace]

end

/-- **The required list and what is reported as missing.** At every place of parameters that were
read where a record stands, a name is listed as required and has no default exactly when all
arguments that lack it there are rejected with this issue. -/
theorem missing_reported_iff (raw : Value) (model : String) {path : List Step} {note : Note}
    {qs : List (String × Shape)}
    (hplace : (ofValue raw).shape.at? path = some (.object note (some qs)))
    {name : String} {shape : Shape} (hname : OrderedMap.get? name qs = some shape) :
    (ofValue raw).ListsRequired path name ∧ shape.note.default = none ↔
      (ofValue raw).ReportsMissing model path name := by
  have hdistinct := distinct_shape_ofValue raw
  constructor
  · intro h args es hpart habsent
    have hmem := (missing_mem_issues_iff hdistinct hplace hname model hpart habsent .missing).2
      ⟨rfl, h⟩
    cases hresult : (ofValue raw).validate model (some args) with
    | ok v =>
      rw [hresult] at hmem
      cases hmem
    | error is =>
      rw [hresult] at hmem
      exact ⟨is, rfl, _, hmem, rfl, rfl⟩
  · intro h
    have hpart := Value.at?_around hplace (.map [])
    obtain ⟨is, hresult, ⟨path', cause⟩, hmem, rfl, _⟩ := h _ _ hpart rfl
    have hissues : issues ((ofValue raw).validate model (some (Value.around path (.map [])))) =
        is := by
      rw [hresult]
      rfl
    rw [← hissues] at hmem
    exact ((missing_mem_issues_iff hdistinct hplace hname model hpart rfl cause).1 hmem).2

/-- A required text, and a text that is required and has a default. -/
private def requiredTexts : Value :=
  .ofFields [("a", .ofFields [("type", .text "string"), ("required", .bool true)]),
    ("b", .ofFields [("type", .text "string"), ("required", .bool true), ("default", .text "x")])]

/-- A list of records of two such texts. -/
private def rows : Value :=
  .ofFields [("rows", .ofFields [("type", .text "array"), ("items",
    .ofFields [("type", .text "object"), ("properties", requiredTexts)])])]

theorem missing_reported_iff_third_row :
    (ofValue rows).ReportsMissing "Arguments" [.name "rows", .index 2] "a" ∧
      (ofValue rows).ListsRequired [.name "rows", .index 2] "b" ∧
        ¬ (ofValue rows).ReportsMissing "Arguments" [.name "rows", .index 2] "b" := by
  have hplace : (ofValue rows).shape.at? [.name "rows", .index 2] =
      some (Shape.ofValue (.ofFields [("type", .text "object"),
        ("properties", requiredTexts)])) := rfl
  have hlists : ∀ name ∈ ["a", "b"],
      (ofValue rows).ListsRequired [.name "rows", .index 2] name := by
    intro name hname
    rw [listsRequired_iff hplace]
    exact hname
  refine ⟨?_, hlists "b" (by simp), ?_⟩
  · exact (missing_reported_iff rows "Arguments" hplace rfl).1 ⟨hlists "a" (by simp), rfl⟩
  · intro h
    have := ((missing_reported_iff rows "Arguments" hplace rfl).2 h).2
    cases this

/-- A name can be listed as required although its absence is not reported. -/
theorem listed_not_reported :
    ¬ ((ofValue requiredTexts).ListsRequired [] "b" ↔
      (ofValue requiredTexts).ReportsMissing "Arguments" [] "b") := by
  intro h
  have hlisted : (ofValue requiredTexts).ListsRequired [] "b" :=
    ⟨(ofValue requiredTexts).schema.toValue, rfl, by decide +kernel⟩
  have hargs : Value.at? [] (.ofFields [("a", .text "y")]) =
      some (.map [(.text "a", .text "y")]) := rfl
  obtain ⟨is, hresult, _⟩ := h.1 hlisted _ _ hargs (by decide +kernel)
  have haccepted : ((ofValue requiredTexts).validate "Arguments"
      (some (.ofFields [("a", .text "y")]))).isOk = true := by decide +kernel
  rw [hresult] at haccepted
  cases haccepted

end Parameters

end DeclaredTools
