/-
  Only declared arguments count. `Shape.Alike` relates two values that are the same for a shape:
  where a record stands, they may differ in the keys that it does not declare and in the order of
  keys; everywhere else they are equal. Validation treats alike values alike, with the same issues
  in the same order, or the same value returned (`check_eq_of_alike`).

  So a call has one report for all arguments that are alike, and what is not declared has no way
  into the prompt (`invoke_eq_of_alike`).
-/
import DeclaredTools.Proofs.Registry.Answers

namespace DeclaredTools

open Validation

/-! ## Entries under their keys -/

namespace Value

/-- No text is a key twice. -/
def HasDistinctTexts (es : List (Value × Value)) : Prop :=
  es.Pairwise fun d e => ∀ s, d.1 = .text s → e.1 ≠ .text s

theorem lookup_eq_some_iff_mem {es : List (Value × Value)} (h : HasDistinctTexts es)
    {name : String} {v : Value} : lookup name es = some v ↔ (.text name, v) ∈ es := by
  induction es with
  | nil => simp [lookup]
  | cons e es ih =>
    obtain ⟨k, w⟩ := e
    have hrest := List.pairwise_cons.1 h
    rw [lookup]
    by_cases hk : k.isText name = true
    · have hname : k = .text name := isText_iff.1 hk
      have hnot : (.text name, v) ∉ es := fun hmem => hrest.1 _ hmem name hname rfl
      rw [if_pos hk, List.mem_cons, or_iff_left hnot, hname, Option.some.injEq, Prod.mk.injEq]
      simp only [true_and, eq_comm]
    · have hname : (.text name, v) ≠ (k, w) := fun heq =>
        hk (isText_iff.2 (Prod.mk.inj heq).1.symm)
      rw [if_neg hk, List.mem_cons, or_iff_right hname, ih hrest.2]

/-- The order of entries does not matter for what is under a key. -/
theorem lookup_eq_of_perm {es fs : List (Value × Value)} (hperm : es.Perm fs)
    (h : HasDistinctTexts es) (name : String) : lookup name es = lookup name fs := by
  have hfs : HasDistinctTexts fs := by
    refine (hperm.pairwise_iff ?_).1 h
    intro d e hde s he hd
    exact hde s hd he
  apply Option.ext
  intro v
  rw [lookup_eq_some_iff_mem h, lookup_eq_some_iff_mem hfs]
  exact hperm.mem_iff

end Value

/-! ## Alike values -/

namespace Shape

/-- The values differ only in keys that no record of the shape declares, and in the order of the
keys of such records. -/
inductive Alike : Shape → Value → Value → Prop
  | same (shape : Shape) (v : Value) : Alike shape v v
  | list {note : Note} {items : Shape} {xs ys : List Value} (length : xs.length = ys.length)
    (elements : ∀ (i : Nat) x y, xs[i]? = some x → ys[i]? = some y → Alike items x y) :
    Alike (.array note (some items)) (.list xs) (.list ys)
  | record {note : Note} {ps : List (String × Shape)} {es fs : List (Value × Value)}
    (presence : ∀ p ∈ ps, (Value.lookup p.1 es).isSome = (Value.lookup p.1 fs).isSome)
    (values : ∀ p ∈ ps, ∀ v w, Value.lookup p.1 es = some v → Value.lookup p.1 fs = some w →
      Alike p.2 v w) :
    Alike (.object note (some ps)) (.map es) (.map fs)

/-- Entries in another order are alike. -/
theorem alike_of_perm (note : Note) (ps : List (String × Shape)) {es fs : List (Value × Value)}
    (hperm : es.Perm fs) (h : Value.HasDistinctTexts es) :
    Alike (.object note (some ps)) (.map es) (.map fs) := by
  have hlookup := Value.lookup_eq_of_perm hperm h
  refine .record (fun p _ => by rw [hlookup]) fun p _ v w hv hw => ?_
  rw [hlookup, hw] at hv
  obtain rfl := Option.some.inj hv
  exact .same _ _

/-- The key of an entry is the name of one of the properties. -/
def declares (ps : List (String × Shape)) (e : Value × Value) : Bool :=
  ps.any fun p => e.1.isText p.1

/-- Entries are alike to the declared ones among them. -/
theorem alike_filter_declares (note : Note) (ps : List (String × Shape))
    (es : List (Value × Value)) :
    Alike (.object note (some ps)) (.map es) (.map (es.filter (declares ps))) := by
  have hlookup : ∀ p ∈ ps, Value.lookup p.1 (es.filter (declares ps)) = Value.lookup p.1 es := by
    intro p hp
    refine Value.lookup_filter (fun v => ?_) es
    exact List.any_eq_true.2 ⟨p, hp, Value.isText_iff.2 rfl⟩
  refine .record (fun p hp => by rw [hlookup p hp]) fun p hp v w hv hw => ?_
  rw [hlookup p hp, hv] at hw
  obtain rfl := Option.some.inj hw
  exact .same _ _

end Shape

/-! ## Checks -/

namespace Validation

/-- Alike values are checked alike. -/
theorem check_eq_of_alike {shape : Shape} {v w : Value} (h : shape.Alike v w) (model : String) :
    check model shape v = check model shape w := by
  induction h generalizing model with
  | same shape v => rfl
  | list hlength _ ih =>
    rw [check, check]
    exact checkElements_congr hlength fun i x y hx hy => ih i x y hx hy _
  | @record note ps es fs hpresence _ ih =>
    have hproperties : ∀ p ∈ ps, propertyResult model es p = propertyResult model fs p := by
      intro p hp
      unfold propertyResult
      have hsome := hpresence p hp
      cases hv : Value.lookup p.1 es with
      | none =>
        rw [hv] at hsome
        have hw : Value.lookup p.1 fs = none :=
          Option.isNone_iff_eq_none.1 (Option.isSome_eq_false_iff.1 hsome.symm)
        rw [hw]
      | some v =>
        rw [hv] at hsome
        obtain ⟨w, hw⟩ := Option.isSome_iff_exists.1 hsome.symm
        rw [hw]
        dsimp only
        rw [ih p hp v w hv hw]
    rw [check, check, checkFields_congr hproperties]

end Validation

/-! ## Calls -/

theorem Tool.call_eq_of_alike {tool : Tool} {args others : Value}
    (h : tool.parameters.shape.Alike args others) : tool.call args = tool.call others := by
  have hvalidate : tool.validate args = tool.validate others := by
    unfold Tool.validate
    rw [Parameters.validate_eq_check, Parameters.validate_eq_check]
    exact check_eq_of_alike h _
  unfold Tool.call
  rw [hvalidate]

namespace Registry

theorem invoke_eq_of_call_eq {r : Registry} {name : String} {tool : Tool}
    (htool : (r.get name).outcome = .ok tool) {args others : Value}
    (h : tool.call args = tool.call others) : r.invoke name args = r.invoke name others := by
  unfold invoke
  rw [Report.bind_eq_andThen, Report.bind_eq_andThen, Report.andThen, Report.andThen, htool]
  dsimp only
  rw [h]

/-- **Only declared arguments count.** A registered tool has one report for all arguments that are
alike for its parameters: the same answer, be it the rendered prompt with the arguments in it or
the issues, and the same events. In particular the answer is that to the declared ones among the
arguments, and their order does not matter. -/
theorem invoke_eq_of_alike {r : Registry} {name : String} {tool : Tool}
    (htool : (r.get name).outcome = .ok tool) :
    (∀ es fs : Arguments, tool.parameters.shape.Alike (.map es) (.map fs) →
      r.invoke name (.map es) = r.invoke name (.map fs)) ∧
    (∀ es : Arguments, r.invoke name (.map es) =
      r.invoke name (.map (es.filter (Shape.declares tool.parameters)))) ∧
    ∀ es fs : Arguments, Value.HasDistinctTexts es → es.Perm fs →
      r.invoke name (.map es) = r.invoke name (.map fs) := by
  have hall : ∀ es fs : Arguments, tool.parameters.shape.Alike (.map es) (.map fs) →
      r.invoke name (.map es) = r.invoke name (.map fs) := by
    intro es fs h
    exact invoke_eq_of_call_eq htool (Tool.call_eq_of_alike h)
  refine ⟨hall, fun es => ?_, fun es fs hdistinct hperm => ?_⟩
  · exact hall _ _ (Shape.alike_filter_declares _ _ es)
  · exact hall _ _ (Shape.alike_of_perm _ _ hperm hdistinct)

/-- A tool that takes a number and a list of records with one text each. -/
private def outlined : List (Value × Value) :=
  [(.text "prompt", .text "{{level}}"),
    (.text "parameters", .map [(.text "level", .map [(.text "type", .text "number")]),
      (.text "steps", .map [(.text "type", .text "array"), (.text "items", .map
        [(.text "type", .text "object"), (.text "properties", .map
          [(.text "x", .map [(.text "type", .text "string")])])])])])]

/-- Arguments with keys that are not declared, in the list too. -/
private def overfull : Arguments :=
  [(.text "field_0", .text "?"),
    (.text "steps", .list [.map [(.text "y", .null), (.text "x", .text "go")]]),
    (.text "level", .int 3)]

/-- The same without them, in the order in which they are declared. -/
private def concise : Arguments :=
  [(.text "level", .int 3), (.text "steps", .list [.map [(.text "x", .text "go")]])]

theorem invoke_eq_of_alike_overfull :
    let r := ofSet (.ofValue (.map [(.text "t", .map outlined)]))
    let tool := Tool.ofDeclaration (.ofEntries "t" outlined)
    (r.get "t").outcome = .ok tool ∧
      tool.parameters.shape.Alike (.map overfull) (.map concise) ∧
      r.invoke "t" (.map overfull) = r.invoke "t" (.map concise) := by
  intro r tool
  have htool : (r.get "t").outcome = .ok tool := by
    have hset : DeclarationSet.ofValue (.map [(.text "t", .map outlined)]) =
        [("t", .ofEntries "t" outlined)] := rfl
    rw [outcome_get, outcome_tools_ofSet, hset, DeclarationSet.obstacle_singleton,
      DeclarationSet.table_singleton]
    rfl
  have hsteps : Shape.Alike (.array ⟨none, false, none⟩ (some (.object ⟨none, false, none⟩
      (some [("x", .scalar ⟨none, false, none⟩ .string)]))))
      (.list [.map [(.text "y", .null), (.text "x", .text "go")]])
      (.list [.map [(.text "x", .text "go")]]) := by
    refine .list rfl fun i x y hx hy => ?_
    cases i with
    | zero =>
      obtain rfl := Option.some.inj hx
      obtain rfl := Option.some.inj hy
      exact Shape.alike_filter_declares _ _ [(.text "y", .null), (.text "x", .text "go")]
    | succ i => cases hx
  have halike : tool.parameters.shape.Alike (.map overfull) (.map concise) := by
    refine .record (by decide +kernel) ?_
    intro p hp v w hv hw
    rcases List.mem_cons.1 hp with rfl | hp
    · obtain rfl := Option.some.inj hv
      obtain rfl := Option.some.inj hw
      exact .same _ _
    · obtain rfl := List.mem_singleton.1 hp
      obtain rfl := Option.some.inj hv
      obtain rfl := Option.some.inj hw
      exact hsteps
  exact ⟨htool, halike, (invoke_eq_of_alike htool).1 _ _ halike⟩

end Registry

end DeclaredTools
