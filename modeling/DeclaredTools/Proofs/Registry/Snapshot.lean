/-
  A compiled registry is a snapshot. A registry can be asked for tools and answers, and declarations
  can be merged into its own. What it answers does not depend on all that was done with it before:
  it answers as a new registry of the declarations that stood when they were first compiled
  (`outcome_reply_run`). Merges before that count, merges after it do not, and no request changes
  the declarations (`declarations_run`).

  Declarations are compiled at the first request. If that fails, for a name that no record can have
  or a choice without a text, nothing is kept, and the next request compiles the declarations as
  they stand then (`snapshot`, and `reply_not_of_first_request` for what follows from it).
-/
import DeclaredTools.Proofs.Registry.Answers

namespace DeclaredTools

/-! ## Actions -/

/-- What can be done with a registry: to ask it, or to merge declarations into its own. -/
inductive Action where
  | ask (request : Request)
  | merge (overlay : DeclarationSet)

namespace DeclarationSet

/-- The declarations after an action: requests leave them as they are. -/
def act (set : DeclarationSet) : Action → DeclarationSet
  | .ask _ => set
  | .merge overlay => set.merge overlay

/-- The declarations as they stand at the first request among the actions; as they stand in the end
if there is no request. -/
def atFirstRequest (set : DeclarationSet) : List Action → DeclarationSet
  | [] => set
  | .ask _ :: _ => set
  | .merge overlay :: actions => atFirstRequest (set.merge overlay) actions

/-- The declarations as they stand at the first request at which they compile; as they stand in the
end if there is no such request. -/
def snapshot (set : DeclarationSet) : List Action → DeclarationSet
  | [] => set
  | .ask _ :: actions => if set.compiles then set else snapshot set actions
  | .merge overlay :: actions => snapshot (set.merge overlay) actions

/-- If the declarations compile at the first request, then this is when they are kept. -/
theorem snapshot_eq_atFirstRequest {set : DeclarationSet} {actions : List Action}
    (h : (set.atFirstRequest actions).compiles = true) :
    set.snapshot actions = set.atFirstRequest actions := by
  induction actions generalizing set with
  | nil => rfl
  | cons action actions ih =>
    cases action with
    | ask request =>
      have hset : set.compiles = true := h
      show (if set.compiles = true then set else set.snapshot actions) = set
      rw [if_pos hset]
    | merge overlay => exact ih h

end DeclarationSet

namespace Registry

open DeclarationSet

/-- The registry after an action. -/
def after (r : Registry) : Action → Registry
  | .ask _ => r.used
  | .merge overlay => r.merge overlay

/-- The registry after actions, one after the other. -/
def run (r : Registry) (actions : List Action) : Registry := actions.foldl after r

theorem run_cons (r : Registry) (action : Action) (actions : List Action) :
    r.run (action :: actions) = (r.after action).run actions := rfl

/-! ## What actions change -/

theorem declarations_after (r : Registry) (action : Action) :
    (r.after action).declarations = r.declarations.act action := by
  cases action <;> rfl

/-- Only merges change the declarations, and each of them does. -/
theorem declarations_run (r : Registry) (actions : List Action) :
    (r.run actions).declarations = actions.foldl act r.declarations := by
  induction actions generalizing r with
  | nil => rfl
  | cons action actions ih => rw [run_cons, ih, declarations_after, List.foldl_cons]

/-- Tools that are compiled stay, whatever is asked or merged. -/
theorem compiled_after {r : Registry} {tools : ToolTable} (h : r.compiled = some tools)
    (action : Action) : (r.after action).compiled = some tools := by
  obtain ⟨declarations, compiled⟩ := r
  obtain rfl : compiled = some tools := h
  cases action <;> rfl

theorem compiled_run {r : Registry} {tools : ToolTable} (h : r.compiled = some tools)
    (actions : List Action) : (r.run actions).compiled = some tools := by
  induction actions generalizing r with
  | nil => exact h
  | cons action actions ih =>
    rw [run_cons]
    exact ih (compiled_after h action)

theorem tools_of_compiled {r : Registry} {tools : ToolTable} (h : r.compiled = some tools) :
    r.tools.outcome = .ok tools := by
  unfold Registry.tools
  rw [h]
  rfl

/-- The tools of a registry are those that its declarations had when they were first compiled. -/
theorem outcome_tools_run (set : DeclarationSet) (actions : List Action) :
    ((ofSet set).run actions).tools.outcome =
      (ToolTable.compile (set.snapshot actions)).outcome := by
  induction actions generalizing set with
  | nil => rfl
  | cons action actions ih =>
    cases action with
    | merge overlay => exact ih (set.merge overlay)
    | ask request =>
      have hafter : (ofSet set).after (.ask request) =
          ⟨set, (ToolTable.compile set).outcome.toOption⟩ := rfl
      rw [run_cons, hafter, snapshot]
      by_cases hcompiles : set.compiles = true
      · -- from here on the tools are kept
        obtain ⟨tools, htools⟩ := Result.isOk_eq_true_iff.1 hcompiles
        rw [if_pos hcompiles, htools]
        have hkept := compiled_run (r := ⟨set, some tools⟩) rfl actions
        exact tools_of_compiled hkept
      · -- nothing is kept, so the registry is as new
        have hnone : (ToolTable.compile set).outcome.toOption = none :=
          Result.toOption_eq_none hcompiles
        rw [if_neg hcompiles, hnone]
        exact ih set

/-! ## What is answered -/

/-- **A compiled registry is a snapshot.** After any actions a registry has the declarations with
all merges among these, and answers every request as a new registry would whose declarations are
those that stood at the first request at which they could be compiled. If they could be compiled
at the first request, it answers for the declarations that stood then. -/
theorem outcome_reply_run (set : DeclarationSet) (actions : List Action) (request : Request) :
    ((ofSet set).run actions).declarations = actions.foldl act set ∧
    (((ofSet set).run actions).reply request).outcome =
      ((ofSet (set.snapshot actions)).reply request).outcome ∧
    ((set.atFirstRequest actions).compiles = true →
      (((ofSet set).run actions).reply request).outcome =
        ((ofSet (set.atFirstRequest actions)).reply request).outcome) := by
  have hreply : (((ofSet set).run actions).reply request).outcome =
      ((ofSet (set.snapshot actions)).reply request).outcome := by
    rw [outcome_reply, outcome_reply, outcome_tools_run]
    rfl
  refine ⟨declarations_run _ actions, hreply, fun hcompiles => ?_⟩
  rw [hreply, snapshot_eq_atFirstRequest hcompiles]

/-- A document that declares one tool by a prompt. -/
private def prompted (name prompt : String) : DeclarationSet :=
  .ofValue (.map [(.text name, .map [(.text "prompt", .text prompt)])])

/-- Two prompts for one tool, with a call between them that finds no tool of its name. -/
private def twicePrompted : List Action :=
  [.merge (prompted "t" "old"), .ask (.invoke "u" []), .merge (prompted "t" "new")]

theorem outcome_reply_run_twicePrompted :
    (DeclarationSet.atFirstRequest [] twicePrompted).compiles = true ∧
    (((ofSet []).run twicePrompted).reply (.get "t")).outcome =
      ((ofSet (prompted "t" "old")).reply (.get "t")).outcome ∧
    ((ofSet []).run twicePrompted).declarations = prompted "t" "new" := by
  have hfirst : DeclarationSet.atFirstRequest [] twicePrompted = prompted "t" "old" := rfl
  have hcompiles : (DeclarationSet.atFirstRequest [] twicePrompted).compiles = true := by
    rw [hfirst]
    exact compiles_iff.2 ⟨rfl, rfl⟩
  have hrun := outcome_reply_run [] twicePrompted (.get "t")
  refine ⟨hcompiles, ?_, hrun.1⟩
  rw [hrun.2.2 hcompiles, hfirst]

/-- A declaration whose name has a null character. -/
private def nullKeyed : DeclarationSet := prompted "a\x00" "x"

/-- A request, and then a merge that disables that declaration. -/
private def disabledLate : List Action :=
  [.ask .list, .merge (.ofValue (.map [(.text "a\x00", .map [(.text "disabled", .bool true)])]))]

/-- A request for which the declarations do not compile keeps nothing: the next one is answered
for the declarations as a merge in between left them. -/
theorem reply_not_of_first_request :
    (((ofSet nullKeyed).run disabledLate).reply .list).outcome = .ok (.tools []) ∧
    ((ofSet (nullKeyed.atFirstRequest disabledLate)).reply .list).outcome =
        .error (.compile .nullName) ∧
    (((ofSet nullKeyed).run disabledLate).reply .list).outcome ≠
      ((ofSet (nullKeyed.atFirstRequest disabledLate)).reply .list).outcome := by
  have hactual : (((ofSet nullKeyed).run disabledLate).reply .list).outcome =
      .ok (.tools []) := by
    have hcompiles : ¬ nullKeyed.compiles = true :=
      fun h => Bool.false_ne_true (compiles_iff.1 h).1
    -- what is left to compile then is one declaration, and it is disabled
    have hsnapshot : ∃ d : Declaration, d.isEnabled = false ∧
        nullKeyed.snapshot disabledLate = [("a\x00", d)] := by
      rw [disabledLate, snapshot, if_neg hcompiles]
      exact ⟨_, rfl, rfl⟩
    obtain ⟨d, hdisabled, hsnapshot⟩ := hsnapshot
    have hclear : obstacle [("a\x00", d)] = none := by
      rw [obstacle_singleton, Declaration.activeObstacle, hdisabled]
      rfl
    rw [outcome_reply, outcome_tools_run, hsnapshot,
      ToolTable.outcome_compile_of_obstacle_eq_none hclear, table_singleton, hdisabled]
    rfl
  have hfirst : ((ofSet (nullKeyed.atFirstRequest disabledLate)).reply .list).outcome =
      .error (.compile .nullName) := by
    have hobstacle : (nullKeyed.atFirstRequest disabledLate).obstacle = some .nullName :=
      obstacle_singleton ..
    rw [outcome_reply, outcome_tools_ofSet, hobstacle]
    rfl
  refine ⟨hactual, hfirst, ?_⟩
  rw [hactual, hfirst]
  intro heq
  cases heq

end Registry

end DeclaredTools
