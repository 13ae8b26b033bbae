/-
  What a declaration set compiles to. If nothing keeps an enabled declaration from being compiled,
  the table has the tools of the enabled declarations, inserted in the order of their keys; if
  something does, there is no table (`outcome_compile`). What can do so is a name that no record can
  have, or a choice without a text (`obstacle_eq_none_iff`). A registry has the same tools, or
  none, at every use (`outcome_tools_used`).
-/
import DeclaredTools.Proofs.OrderedMap
import DeclaredTools.Proofs.Report
import DeclaredTools.Proofs.Shape.Reading
import DeclaredTools.Registry

namespace DeclaredTools

open OrderedMap

/-! ## Obstacles -/

/-- Every choice, if the shape is an enumeration, has a text. -/
def Shape.hasWritableChoices : Shape → Bool
  | .enum _ values => Value.areWritable values
  | .scalar .. | .array .. | .object .. => true

namespace Validation

open Shape

theorem choicesObstacle_eq_none_iff (values : List Value) :
    choicesObstacle (choicesOf values) = none ↔ Value.areWritable values = true := by
  have hsame : Value.areWritable (choicesOf values) = Value.areWritable values := by
    cases values <;> rfl
  rw [choicesObstacle, hsame]
  cases Value.areWritable values <;> simp

mutual

theorem obstacle_eq_none_iff : (shape : Shape) →
    (obstacle true shape = none ↔ shape.all hasWritableChoices = true)
  | .scalar .. | .array _ none | .object _ none => iff_of_true rfl rfl
  | .enum _ values => choicesObstacle_eq_none_iff values
  | .array _ (some items) => by
    rw [obstacle, obstacle_eq_none_iff items, Shape.all, hasWritableChoices, Bool.true_and]
  | .object _ (some ps) => by
    rw [obstacle, recordObstacle, if_pos rfl, Option.or_none, propertyObstacle_eq_none_iff ps,
      Shape.all, hasWritableChoices, Bool.true_and]

theorem propertyObstacle_eq_none_iff : (ps : List (String × Shape)) →
    (propertyObstacle true ps = none ↔ allIn hasWritableChoices ps = true)
  | [] => iff_of_true rfl rfl
  | (name, shape) :: ps => by
    rw [propertyObstacle, Option.or_eq_none_iff, obstacle_eq_none_iff shape,
      propertyObstacle_eq_none_iff ps, allIn, Bool.and_eq_true]

end

end Validation

namespace Declaration

/-- Every enumeration among the parameters, at any depth, has choices with texts only. -/
def hasWritableChoices (d : Declaration) : Bool :=
  d.parameterList.shape.all Shape.hasWritableChoices

theorem hasWritableChoices_iff {d : Declaration} :
    d.hasWritableChoices = true ↔
      ∀ e ∈ d.parameterList, e.2.all Shape.hasWritableChoices = true := by
  rw [hasWritableChoices, Parameters.shape, Shape.all, Shape.hasWritableChoices, Bool.true_and,
    Shape.allIn_iff]

theorem obstacle_eq_none_iff (d : Declaration) :
    d.obstacle = none ↔
      ModelName.isSound d.registeredName = true ∧ d.hasWritableChoices = true := by
  rw [obstacle, Parameters.obstacle, Option.or_eq_none_iff]
  cases ModelName.isSound d.registeredName with
  | false => simp [Validation.recordObstacle]
  | true =>
    rw [Validation.propertyObstacle_eq_none_iff]
    simp [Validation.recordObstacle, hasWritableChoices, Parameters.shape, Shape.all,
      Shape.hasWritableChoices]

/-- What keeps the declaration from being compiled, if it is enabled. -/
def activeObstacle (d : Declaration) : Option CompileError :=
  if d.isEnabled then d.obstacle else none

end Declaration

namespace DeclarationSet

/-- Records can have the names of all enabled declarations. -/
def hasSoundNames (set : DeclarationSet) : Bool :=
  set.all fun e => !e.2.isEnabled || ModelName.isSound e.2.registeredName

/-- All choices in the parameters of enabled declarations have texts. -/
def hasWritableChoices (set : DeclarationSet) : Bool :=
  set.all fun e => !e.2.isEnabled || e.2.hasWritableChoices

/-- What keeps the declarations from being compiled: the first thing, in the order of their keys. -/
def obstacle (set : DeclarationSet) : Option CompileError :=
  (ToolTable.inKeyOrder set).findSome? fun e => e.2.activeObstacle

theorem obstacle_eq_none_iff_forall {set : DeclarationSet} :
    set.obstacle = none ↔ ∀ e ∈ set, e.2.activeObstacle = none := by
  rw [obstacle, List.findSome?_eq_none_iff]
  simp only [ToolTable.inKeyOrder, List.mem_mergeSort]

theorem obstacle_eq_none_iff (set : DeclarationSet) :
    set.obstacle = none ↔ set.hasSoundNames = true ∧ set.hasWritableChoices = true := by
  rw [obstacle_eq_none_iff_forall, hasSoundNames, hasWritableChoices, List.all_eq_true,
    List.all_eq_true, ← forall₂_and]
  refine forall₂_congr fun e _ => ?_
  rw [Declaration.activeObstacle]
  cases e.2.isEnabled with
  | false => simp
  | true => simpa using e.2.obstacle_eq_none_iff

theorem obstacle_singleton (key : String) (d : Declaration) :
    obstacle [(key, d)] = d.activeObstacle := by
  rw [obstacle, ToolTable.inKeyOrder, List.mergeSort_singleton, List.findSome?_singleton]

/-! ## Enabled declarations -/

/-- A declaration of the set is enabled and called by the name. -/
def Offers (set : DeclarationSet) (name : String) (d : Declaration) : Prop :=
  d.isEnabled = true ∧ d.registeredName = name ∧ ∃ key, (key, d) ∈ set

/-- The tools of the enabled declarations under their names, in the order of their keys. -/
def offered (set : DeclarationSet) : List (String × Tool) :=
  ((ToolTable.inKeyOrder set).filter fun e => e.2.isEnabled).map fun e =>
    (e.2.registeredName, .ofDeclaration e.2)

/-- The tools by name. -/
def table (set : DeclarationSet) : ToolTable := ofEntries set.offered

theorem mem_offered_iff {set : DeclarationSet} {name : String} {tool : Tool} :
    (name, tool) ∈ set.offered ↔ ∃ d, set.Offers name d ∧ tool = .ofDeclaration d := by
  simp only [offered, List.mem_map, List.mem_filter, ToolTable.inKeyOrder, List.mem_mergeSort]
  constructor
  · rintro ⟨⟨key, d⟩, ⟨hmem, henabled⟩, heq⟩
    obtain ⟨rfl, rfl⟩ := Prod.mk.inj heq
    exact ⟨d, ⟨henabled, rfl, key, hmem⟩, rfl⟩
  · rintro ⟨d, ⟨henabled, rfl, key, hmem⟩, rfl⟩
    exact ⟨(key, d), ⟨hmem, henabled⟩, rfl⟩

/-- A tool in the table is that of an enabled declaration. -/
theorem offers_of_get?_table {set : DeclarationSet} {name : String} {tool : Tool}
    (h : set.table.get? name = some tool) : ∃ d, set.Offers name d ∧ tool = .ofDeclaration d :=
  mem_offered_iff.1 (mem_of_get?_ofEntries h)

/-- What is not in the table, no enabled declaration offers. -/
theorem not_offers_of_get?_table {set : DeclarationSet} {name : String}
    (h : set.table.get? name = none) (d : Declaration) : ¬ set.Offers name d := by
  intro hoffers
  have hmem : (name, Tool.ofDeclaration d) ∈ set.offered := mem_offered_iff.2 ⟨d, hoffers, rfl⟩
  have hkey : name ∈ keys set.offered := List.mem_map_of_mem hmem
  rw [get?_eq_none_iff, table, keys_ofEntries, List.mem_eraseDups] at h
  exact h hkey

theorem table_singleton (key : String) (d : Declaration) :
    table [(key, d)] = if d.isEnabled then [(d.registeredName, .ofDeclaration d)] else [] := by
  rw [table, offered, ToolTable.inKeyOrder, List.mergeSort_singleton, List.filter_singleton]
  cases d.isEnabled <;> rfl

end DeclarationSet

/-! ## Compiling -/

namespace ToolTable

/-- The table with the tool of an enabled declaration. -/
def withTool (tools : ToolTable) (e : String × Declaration) : ToolTable :=
  if e.2.isEnabled then tools.insert e.2.registeredName (.ofDeclaration e.2) else tools

theorem outcome_add (tools : ToolTable) (key : String) (d : Declaration) :
    (tools.add key d).outcome =
      (d.activeObstacle.map .compile).elim (.ok (tools.withTool (key, d))) .error := by
  unfold add withTool Declaration.activeObstacle
  cases d.isEnabled with
  | false => rfl
  | true =>
    dsimp only [Bool.not_true]
    cases d.obstacle <;> rfl

theorem foldl_withTool (entries : List (String × Declaration)) (tools : ToolTable) :
    entries.foldl withTool tools =
      insertAll tools ((entries.filter fun e => e.2.isEnabled).map fun e =>
        (e.2.registeredName, .ofDeclaration e.2)) := by
  rw [insertAll, List.foldl_map, List.foldl_filter]
  rfl

theorem outcome_foldlM_add (set : DeclarationSet) :
    ((inKeyOrder set).foldlM (fun (tools : ToolTable) e => tools.add e.1 e.2) []).outcome =
      set.obstacle.elim (.ok set.table) fun e => .error (.compile e) := by
  have hfold := Report.outcome_foldlM_eq (g := withTool)
    (fun tools e => outcome_add tools e.1 e.2) (inKeyOrder set) []
  have hobstacle : (inKeyOrder set).findSome? (fun e => e.2.activeObstacle.map CallError.compile) =
      set.obstacle.map .compile := List.map_findSome?.symm
  rw [hobstacle, foldl_withTool] at hfold
  rw [hfold]
  cases set.obstacle <;> rfl

/-- A set compiles to its table, unless something keeps it from that. -/
theorem outcome_compile (set : DeclarationSet) :
    (compile set).outcome = set.obstacle.elim (.ok set.table) fun e => .error (.compile e) := by
  rw [compile, Report.outcome_bind, outcome_foldlM_add]
  cases set.obstacle <;> rfl

theorem outcome_compile_of_obstacle_eq_none {set : DeclarationSet} (h : set.obstacle = none) :
    (compile set).outcome = .ok set.table := by
  rw [outcome_compile, h]
  rfl

end ToolTable

namespace DeclarationSet

open ToolTable

/-- There is a table of the tools of the declarations. -/
def compiles (set : DeclarationSet) : Bool := (ToolTable.compile set).outcome.isOk

theorem compiles_iff_obstacle {set : DeclarationSet} :
    set.compiles = true ↔ set.obstacle = none := by
  rw [compiles, outcome_compile]
  cases set.obstacle with
  | none => exact iff_of_true rfl rfl
  | some e => exact iff_of_false Bool.false_ne_true (Option.some_ne_none e)

theorem compiles_iff {set : DeclarationSet} :
    set.compiles = true ↔ set.hasSoundNames = true ∧ set.hasWritableChoices = true :=
  compiles_iff_obstacle.trans set.obstacle_eq_none_iff

end DeclarationSet

/-! ## Using a registry -/

namespace Registry

theorem outcome_tools_ofSet (set : DeclarationSet) :
    (ofSet set).tools.outcome = set.obstacle.elim (.ok set.table) fun e => .error (.compile e) :=
  ToolTable.outcome_compile set

/-- A registry that has no tools compiles them once more at the next use, with the same outcome. -/
theorem outcome_tools_used (r : Registry) : r.used.tools.outcome = r.tools.outcome := by
  obtain ⟨declarations, compiled⟩ := r
  cases compiled with
  | some tools => rfl
  | none =>
    have hused : used ⟨declarations, none⟩ =
        ⟨declarations, (ToolTable.compile declarations).outcome.toOption⟩ := rfl
    rw [hused]
    show _ = (ToolTable.compile declarations).outcome
    cases h : (ToolTable.compile declarations).outcome with
    | ok tools => rfl
    | error e => exact h

end Registry

end DeclaredTools
