/-
  Problems and fallbacks. Linting lists the problems of a definition, and reading falls back to a
  text where it can do no better; the two walk over a definition separately. They meet the same
  faults in the same order: each fallback has one finding, at the same value, that explains it
  (`lint_explains_fallbacks`).

  The converse holds of the findings that concern reading, which takes any list of choices, and
  null for no items. The places agree too, as long as all parameters have names: a reader leaves
  out an empty name at the head of a path, and a problem does not. About defaults, which neither
  walk looks at, nothing is said here.
-/
import DeclaredTools.Declaration.Basic
import DeclaredTools.Proofs.Result
import DeclaredTools.Proofs.Shape.Lint

namespace DeclaredTools

/-! ## Findings -/

/-- A problem, and the value in which it was found. -/
structure Finding where
  subject : Value
  problem : Problem

/-- The place of the faulty value, in the words of a reader. -/
def Problem.place : Problem → String
  | .toolNotMapping key | .parametersNotMapping key => key
  | .untypedItems path => path ++ " items"
  | .notMapping path | .missingType path | .invalidType path _ | .emptyEnum path
  | .mixedEnum path => path

def Fallback.path : Fallback → String
  | .notAMapping path _ => path
  | .unknownType path _ => path

/-- The fallback that an event reports. -/
def Event.fallback? : Event → Option Fallback
  | .fallback f => some f
  | _ => none

namespace Finding

/-- A reader falls back here: choices do not matter to it, and items that are null are none. -/
def concernsReading : Finding → Bool
  | ⟨_, .emptyEnum _⟩ | ⟨_, .mixedEnum _⟩ => false
  | ⟨.null, .untypedItems _⟩ => false
  | _ => true

/-- The fallback is due to the finding: both are about the same fault of the same value. -/
inductive Explains : Finding → Fallback → Prop
  | notMapping {v : Value} {path place : String} :
    Explains ⟨v, .notMapping path⟩ (.notAMapping place v.typeName)
  | missingType {es : List (Value × Value)} {path place : String}
    (untyped : (Shape.tagOf es).isTruthy = false) :
    Explains ⟨.map es, .missingType path⟩ (.unknownType place (Shape.tagOf es))
  | invalidType {es : List (Value × Value)} {path place : String} :
    Explains ⟨.map es, .invalidType path (Shape.tagOf es)⟩ (.unknownType place (Shape.tagOf es))
  | itemsNotMapping {v : Value} {path place : String} :
    Explains ⟨v, .untypedItems path⟩ (.notAMapping place v.typeName)
  | untypedItems {es : List (Value × Value)} {path place : String}
    (untyped : (Shape.tagOf es).isTruthy = false) :
    Explains ⟨.map es, .untypedItems path⟩ (.unknownType place (Shape.tagOf es))

end Finding

namespace Shape

mutual

/-- The problems of a definition with the values in which they are found. -/
def findings (path : String) : Value → List Finding
  | .map es =>
    if !(tagOf es).isTruthy then [⟨.map es, .missingType path⟩]
    else
      match TypeTag.ofValue? (tagOf es) with
      | none => [⟨.map es, .invalidType path (tagOf es)⟩]
      | some .enum => (enumProblems path es).map (Finding.mk (.map es))
      | some .object => propertyFindings path es
      | some .array => itemFindings path es
      | some (.scalar _) => []
  | v => [⟨v, .notMapping path⟩]

def propertyFindings (path : String) : List (Value × Value) → List Finding
  | [] => []
  | (k, v) :: es =>
    if k.isText "properties" then
      match v with
      | .map ps => memberFindings path ps
      | _ => []
    else propertyFindings path es

def memberFindings (path : String) : List (Value × Value) → List Finding
  | [] => []
  | (k, v) :: es => findings (path ++ "." ++ k.display) v ++ memberFindings path es

def itemFindings (path : String) : List (Value × Value) → List Finding
  | [] => []
  | (k, v) :: es =>
    if k.isText "items" then
      if namesType v then findings (path ++ " items") v else [⟨v, .untypedItems path⟩]
    else itemFindings path es

end

def parameterFindings (es : List (Value × Value)) : List Finding :=
  es.flatMap fun e => findings e.1.display e.2

mutual

/-- Findings are the problems, with nothing left out and nothing new. -/
theorem map_problem_findings (path : String) : (v : Value) →
    (findings path v).map (·.problem) = problems path v
  | .map es => by
    rw [findings, problems]
    by_cases htyped : (!(tagOf es).isTruthy) = true
    · rw [if_pos htyped, if_pos htyped]
      rfl
    · rw [if_neg htyped, if_neg htyped]
      cases TypeTag.ofValue? (tagOf es) with
      | none => rfl
      | some tag =>
        cases tag with
        | scalar kind => rfl
        | enum => exact (List.map_map ..).trans (List.map_id _)
        | array => exact map_problem_itemFindings path es
        | object => exact map_problem_propertyFindings path es
  | .null | .bool _ | .int _ | .float _ | .text _ | .bytes _ | .date _ | .timestamp _ | .list _
  | .tuple _ | .set _ => rfl

theorem map_problem_propertyFindings (path : String) : (es : List (Value × Value)) →
    (propertyFindings path es).map (·.problem) = propertyProblems path es
  | [] => rfl
  | (k, v) :: es => by
    rw [propertyFindings.eq_def, propertyProblems.eq_def]
    dsimp only
    by_cases hk : k.isText "properties" = true
    · rw [if_pos hk, if_pos hk]
      match v with
      | .map ps => exact map_problem_memberFindings path ps
      | .null | .bool _ | .int _ | .float _ | .text _ | .bytes _ | .date _ | .timestamp _
      | .list _ | .tuple _ | .set _ => rfl
    · rw [if_neg hk, if_neg hk]
      exact map_problem_propertyFindings path es

theorem map_problem_memberFindings (path : String) : (es : List (Value × Value)) →
    (memberFindings path es).map (·.problem) = memberProblems path es
  | [] => rfl
  | (k, v) :: es => by
    rw [memberFindings, memberProblems, List.map_append, map_problem_findings _ v,
      map_problem_memberFindings path es]

theorem map_problem_itemFindings (path : String) : (es : List (Value × Value)) →
    (itemFindings path es).map (·.problem) = itemProblems path es
  | [] => rfl
  | (k, v) :: es => by
    rw [itemFindings, itemProblems]
    by_cases hk : k.isText "items" = true
    · rw [if_pos hk, if_pos hk]
      by_cases htyped : namesType v = true
      · rw [if_pos htyped, if_pos htyped]
        exact map_problem_findings _ v
      · rw [if_neg htyped, if_neg htyped]
        rfl
    · rw [if_neg hk, if_neg hk]
      exact map_problem_itemFindings path es

end

theorem map_problem_parameterFindings (es : List (Value × Value)) :
    (parameterFindings es).map (·.problem) = parameterProblems es := by
  rw [parameterProblems_eq_flatMap, parameterFindings, List.map_flatMap]
  simp only [map_problem_findings]

/-! ## One walk beside the other -/

/-- What is not truthy names no type. -/
theorem ofValue?_eq_none_of_not_isTruthy {tag : Value} (h : tag.isTruthy = false) :
    TypeTag.ofValue? tag = none := by
  cases tag with
  | text s =>
    have hs : s = "" := by simpa [Value.isTruthy] using h
    rw [hs]
    rfl
  | _ => rfl

theorem namesType_map (es : List (Value × Value)) :
    namesType (.map es) = (tagOf es).isTruthy := by
  unfold namesType tagOf
  rw [Value.get?]
  cases Value.lookup "type" es <;> rfl

section

variable {named : Prop} {p q : String}

/-- Both walks are at one place, as long as all parameters are named. -/
def SamePlace (named : Prop) (p q : String) : Prop := named → p = q ∧ p ≠ ""

theorem SamePlace.items (h : SamePlace named p q) :
    SamePlace named (p ++ " items") (q ++ " items") := by
  intro hnamed
  obtain ⟨rfl, _⟩ := h hnamed
  exact ⟨rfl, by simp⟩

theorem SamePlace.child (h : SamePlace named p q) (name : String) :
    SamePlace named (childPath p name) (q ++ "." ++ name) := by
  intro hnamed
  obtain ⟨rfl, hp⟩ := h hnamed
  have hchild : childPath p name = p ++ "." ++ name := if_neg hp
  rw [hchild]
  exact ⟨rfl, by simp⟩

/-- A finding and the fallback due to it, at one place if all parameters are named. -/
def Pairs (named : Prop) (g : Finding) (f : Fallback) : Prop :=
  g.Explains f ∧ (named → f.path = g.problem.place)

/-- Choices are no matter of reading. -/
theorem filter_enumProblems (v : Value) (path : String) (es : List (Value × Value)) :
    ((enumProblems path es).map (Finding.mk v)).filter Finding.concernsReading = [] := by
  unfold enumProblems
  split
  · split <;> rfl
  · rfl

/-- Items that name no type are where a reader falls back, unless they are null. -/
theorem pairs_untypedItems (h : SamePlace named p q) {v : Value} (hnull : v ≠ .null)
    (huntyped : namesType v = false) :
    List.Forall₂ (Pairs named) ([⟨v, .untypedItems q⟩].filter Finding.concernsReading)
      (fallbacks (p ++ " items") v) := by
  have hplace : named → p ++ " items" = q ++ " items" := fun hnamed => (h.items hnamed).1
  cases v with
  | null => exact absurd rfl hnull
  | map es =>
    rw [namesType_map] at huntyped
    rw [fallbacks, ofValue?_eq_none_of_not_isTruthy huntyped]
    exact .cons ⟨.untypedItems huntyped, hplace⟩ .nil
  | _ => exact .cons ⟨.itemsNotMapping, hplace⟩ .nil

mutual

/-- The findings in a definition that concern reading are paired with its fallbacks. -/
theorem pairs_fallbacks {p q : String} (h : SamePlace named p q) : (v : Value) →
    List.Forall₂ (Pairs named) ((findings q v).filter Finding.concernsReading) (fallbacks p v)
  | .map es => by
    rw [findings, fallbacks]
    by_cases huntyped : (!(tagOf es).isTruthy) = true
    · have hfalse : (tagOf es).isTruthy = false := (Bool.not_eq_true' _).mp huntyped
      rw [if_pos huntyped, ofValue?_eq_none_of_not_isTruthy hfalse]
      exact .cons ⟨.missingType hfalse, fun hnamed => (h hnamed).1⟩ .nil
    · rw [if_neg huntyped]
      cases TypeTag.ofValue? (tagOf es) with
      | none => exact .cons ⟨.invalidType, fun hnamed => (h hnamed).1⟩ .nil
      | some tag =>
        cases tag with
        | scalar kind => exact .nil
        | enum =>
          dsimp only
          rw [filter_enumProblems]
          exact .nil
        | array => exact pairs_itemFallbacks h es
        | object => exact pairs_propertyFallbacks h es
  | .null | .bool _ | .int _ | .float _ | .text _ | .bytes _ | .date _ | .timestamp _ | .list _
  | .tuple _ | .set _ => .cons ⟨.notMapping, fun hnamed => (h hnamed).1⟩ .nil

theorem pairs_itemFallbacks {p q : String} (h : SamePlace named p q) :
    (es : List (Value × Value)) → List.Forall₂ (Pairs named)
      ((itemFindings q es).filter Finding.concernsReading) (itemFallbacks p es)
  | [] => .nil
  | (k, v) :: es => by
    rw [itemFindings, itemFallbacks.eq_def]
    dsimp only
    by_cases hk : k.isText "items" = true
    · rw [if_pos hk, if_pos hk]
      by_cases htyped : namesType v = true
      · rw [if_pos htyped]
        have hpairs := pairs_fallbacks h.items v
        cases v with
        | null => cases htyped
        | _ => exact hpairs
      · rw [if_neg htyped]
        have huntyped : namesType v = false := Bool.not_eq_true _ ▸ htyped
        cases v with
        | null => exact .nil
        | _ => exact pairs_untypedItems h (fun hnull => by cases hnull) huntyped
    · rw [if_neg hk, if_neg hk]
      exact pairs_itemFallbacks h es

theorem pairs_propertyFallbacks {p q : String} (h : SamePlace named p q) :
    (es : List (Value × Value)) → List.Forall₂ (Pairs named)
      ((propertyFindings q es).filter Finding.concernsReading) (propertyFallbacks p es)
  | [] => .nil
  | (k, v) :: es => by
    rw [propertyFindings.eq_def, propertyFallbacks.eq_def]
    dsimp only
    by_cases hk : k.isText "properties" = true
    · rw [if_pos hk, if_pos hk]
      match v with
      | .map ps => exact pairs_entryFallbacks h ps
      | .null | .bool _ | .int _ | .float _ | .text _ | .bytes _ | .date _ | .timestamp _
      | .list _ | .tuple _ | .set _ => exact .nil
    · rw [if_neg hk, if_neg hk]
      exact pairs_propertyFallbacks h es

theorem pairs_entryFallbacks {p q : String} (h : SamePlace named p q) :
    (es : List (Value × Value)) → List.Forall₂ (Pairs named)
      ((memberFindings q es).filter Finding.concernsReading) (entryFallbacks p es)
  | [] => .nil
  | (k, v) :: es => by
    rw [memberFindings, entryFallbacks, List.filter_append]
    exact List.rel_append (pairs_fallbacks (h.child k.display) v) (pairs_entryFallbacks h es)

end

end

/-! ## Definitions that are read without a fallback -/

/-- The definition names a known type, and so do all definitions in it that are read. -/
inductive Readable : Value → Prop
  | intro {es : List (Value × Value)} {tag : TypeTag}
    (known : TypeTag.ofValue? (tagOf es) = some tag)
    (items : tag = .array → ∀ v, Value.lookup "items" es = some v → v ≠ .null → Readable v)
    (properties : tag = .object → ∀ ps, Value.lookup "properties" es = some (.map ps) →
      ∀ e ∈ ps, Readable e.2) :
    Readable (.map es)

mutual

theorem readable_of_fallbacks_eq_nil {path : String} : (v : Value) → fallbacks path v = [] →
    Readable v
  | .map es, h => by
    rw [fallbacks] at h
    cases hknown : TypeTag.ofValue? (tagOf es) with
    | none =>
      rw [hknown] at h
      cases h
    | some tag =>
      rw [hknown] at h
      refine .intro hknown ?_ ?_
      · rintro rfl
        exact readable_items_of_eq_nil es h
      · rintro rfl
        exact readable_properties_of_eq_nil es h

theorem readable_items_of_eq_nil {path : String} : (es : List (Value × Value)) →
    itemFallbacks path es = [] → ∀ v, Value.lookup "items" es = some v → v ≠ .null → Readable v
  | [], _, v, hlookup, _ => by cases hlookup
  | (k, w) :: es, h, v, hlookup, hnull => by
    rw [itemFallbacks.eq_def] at h
    rw [Value.lookup] at hlookup
    dsimp only at h
    by_cases hk : k.isText "items" = true
    · rw [if_pos hk] at h hlookup
      obtain rfl := Option.some.inj hlookup
      have hread : fallbacks (path ++ " items") w = [] → Readable w :=
        readable_of_fallbacks_eq_nil w
      cases w with
      | null => exact absurd rfl hnull
      | _ => exact hread h
    · rw [if_neg hk] at h hlookup
      exact readable_items_of_eq_nil es h v hlookup hnull

theorem readable_properties_of_eq_nil {path : String} : (es : List (Value × Value)) →
    propertyFallbacks path es = [] → ∀ ps, Value.lookup "properties" es = some (.map ps) →
      ∀ e ∈ ps, Readable e.2
  | [], _, ps, hlookup => by cases hlookup
  | (k, w) :: es, h, ps, hlookup => by
    rw [propertyFallbacks.eq_def] at h
    rw [Value.lookup] at hlookup
    dsimp only at h
    by_cases hk : k.isText "properties" = true
    · rw [if_pos hk] at h hlookup
      match w, hlookup with
      | .map qs, hlookup =>
        obtain rfl := Value.map.inj (Option.some.inj hlookup)
        exact readable_entries_of_eq_nil qs h
    · rw [if_neg hk] at h hlookup
      exact readable_properties_of_eq_nil es h ps hlookup

theorem readable_entries_of_eq_nil {path : String} : (es : List (Value × Value)) →
    entryFallbacks path es = [] → ∀ e ∈ es, Readable e.2
  | [], _, e, he => by cases he
  | (k, v) :: es, h, e, he => by
    rw [entryFallbacks, List.append_eq_nil_iff] at h
    rcases List.mem_cons.1 he with rfl | he
    · exact readable_of_fallbacks_eq_nil v h.1
    · exact readable_entries_of_eq_nil es h.2 e he

end

end Shape

/-! ## Declarations -/

/-- The fallbacks among the events of reading a declaration. -/
def Declaration.reportedFallbacks (key : String) (es : List (Value × Value)) : List Fallback :=
  (events key es).filterMap Event.fallback?

/-- What is reported are the fallbacks of the parameters; tools and modes have none. -/
theorem Declaration.reportedFallbacks_eq (key : String) (es : List (Value × Value)) :
    reportedFallbacks key es =
      (Value.lookup "parameters" es).toList.flatMap (Parameters.fallbacks "") := by
  have hparameters : ∀ v, ((Parameters.fallbacks "" v).map Event.fallback).filterMap
      Event.fallback? = Parameters.fallbacks "" v := by
    intro v
    rw [List.filterMap_map]
    exact List.filterMap_some
  have htools : ∀ v, (toolsEvents v).filterMap Event.fallback? = [] := by
    intro v
    unfold toolsEvents
    split <;> rfl
  have hmode : ∀ v, (modeEvents key v).filterMap Event.fallback? = [] := by
    intro v
    unfold modeEvents
    split
    · rfl
    · split <;> rfl
  unfold reportedFallbacks events
  simp only [List.filterMap_append, List.filterMap_flatMap, hparameters, htools, hmode]
  simp

/-- The findings in parameters that concern reading. -/
def Shape.readerFindings (ps : List (Value × Value)) : List Finding :=
  (parameterFindings ps).filter Finding.concernsReading

theorem Parameters.pairs_fallbacks {named : Prop} {ps : List (Value × Value)}
    (hnamed : named → ∀ e ∈ ps, e.1.display ≠ "") :
    List.Forall₂ (Shape.Pairs named) (Shape.readerFindings ps)
      (Parameters.fallbacks "" (.map ps)) := by
  show List.Forall₂ _ _ (Shape.entryFallbacks "" ps)
  induction ps with
  | nil => exact .nil
  | cons e ps ih =>
    obtain ⟨k, v⟩ := e
    have hplace : Shape.SamePlace named k.display k.display :=
      fun h => ⟨rfl, hnamed h _ List.mem_cons_self⟩
    have hrest : named → ∀ e ∈ ps, e.1.display ≠ "" :=
      fun h e he => hnamed h e (List.mem_cons_of_mem _ he)
    rw [Shape.readerFindings, Shape.parameterFindings, List.flatMap_cons, List.filter_append,
      Shape.entryFallbacks]
    -- the first name of a path has none before it
    have hfirst : Shape.childPath "" k.display = k.display := if_pos rfl
    rw [hfirst]
    exact List.rel_append (Shape.pairs_fallbacks hplace v) (ih hrest)

/-- **Problems and fallbacks are about the same faults.** The problems of a declaration are those of
its findings. The findings that concern reading explain the fallbacks that reading reports, one for
one and in order, and at the same places unless a parameter has no name. So every fallback has
a problem, and a declaration without problems is read without a fallback at any depth. -/
theorem lint_explains_fallbacks (key : String) {es ps : List (Value × Value)}
    (h : Value.lookup "parameters" es = some (.map ps)) :
    lint key (.map es) = (Shape.parameterFindings ps).map (·.problem) ∧
    List.Forall₂ Finding.Explains (Shape.readerFindings ps)
      (Declaration.reportedFallbacks key es) ∧
    ((∀ e ∈ ps, e.1.display ≠ "") → (Declaration.reportedFallbacks key es).map Fallback.path =
      (Shape.readerFindings ps).map (·.problem.place)) ∧
    (∀ f ∈ Declaration.reportedFallbacks key es,
      ∃ g : Finding, g.problem ∈ lint key (.map es) ∧ g.Explains f) ∧
    (lint key (.map es) = [] → Declaration.reportedFallbacks key es = [] ∧
      ∀ e ∈ ps, Shape.Readable e.2) := by
  have hlint : lint key (.map es) = (Shape.parameterFindings ps).map (·.problem) := by
    unfold lint
    dsimp only
    rw [h]
    exact (Shape.map_problem_parameterFindings ps).symm
  have hreported : Declaration.reportedFallbacks key es = Parameters.fallbacks "" (.map ps) := by
    rw [Declaration.reportedFallbacks_eq, h]
    exact List.append_nil _
  have hexplains : List.Forall₂ Finding.Explains (Shape.readerFindings ps)
      (Declaration.reportedFallbacks key es) := by
    rw [hreported]
    exact (Parameters.pairs_fallbacks False.elim).imp fun _ _ hpair => hpair.1
  refine ⟨hlint, hexplains, fun hnamed => ?_, fun f hf => ?_, fun hnone => ?_⟩
  · have hpairs := Parameters.pairs_fallbacks fun _ : True => hnamed
    rw [hreported, ← List.forall₂_eq_eq_eq, List.forall₂_map_left_iff, List.forall₂_map_right_iff]
    exact hpairs.flip.imp fun _ _ hpair => hpair.2 trivial
  · obtain ⟨g, hg, hgf⟩ := Result.exists_of_forall₂_of_mem hexplains hf
    refine ⟨g, ?_, hgf⟩
    rw [hlint]
    exact List.mem_map_of_mem (List.mem_of_mem_filter hg)
  · have hfindings : Shape.parameterFindings ps = [] := List.map_eq_nil_iff.1 (hlint ▸ hnone)
    have hreader : Shape.readerFindings ps = [] := by
      rw [Shape.readerFindings, hfindings]
      rfl
    rw [hreader] at hexplains
    have hnothing : Declaration.reportedFallbacks key es = [] :=
      List.forall₂_nil_left_iff.1 hexplains
    exact ⟨hnothing, Shape.readable_entries_of_eq_nil ps (hreported ▸ hnothing)⟩

/-- Parameters with faults, of which the first two do not matter to a reader. -/
private def faulty : List (Value × Value) :=
  [(.text "a", .map [(.text "type", .text "array"), (.text "items", .null)]),
    (.text "b", .map [(.text "type", .text "enum"), (.text "enum", .list [])]),
    (.text "c", .map [(.text "type", .text "object"), (.text "properties", .map
      [(.text "x", .map [(.text "type", .text "strng")]), (.int 5, .text "string")])]),
    (.text "d", .map [(.text "type", .text "array"), (.text "items", .map
      [(.text "type", .int 0)])])]

theorem lint_explains_fallbacks_faulty :
    lint "t" (.map [(.text "parameters", .map faulty)]) = [.untypedItems "a", .emptyEnum "b",
      .invalidType "c.x" (.text "strng"), .notMapping "c.5", .untypedItems "d"] ∧
    List.Forall₂ Finding.Explains (Shape.readerFindings faulty)
      (Declaration.reportedFallbacks "t" [(.text "parameters", .map faulty)]) ∧
    (Declaration.reportedFallbacks "t" [(.text "parameters", .map faulty)]).map Fallback.path =
      ["c.x", "c.5", "d items"] := by
  have hlookup : Value.lookup "parameters" [(.text "parameters", .map faulty)] =
      some (.map faulty) := rfl
  have hnamed : ∀ e ∈ faulty, e.1.display ≠ "" := by decide +kernel
  obtain ⟨hlint, hexplains, hplaces, _⟩ := lint_explains_fallbacks "t" hlookup
  refine ⟨?_, hexplains, ?_⟩
  · rw [hlint]
    rfl
  · rw [hplaces hnamed]
    decide +kernel

end DeclaredTools
