/-
  A definition of a parameter has effect on this parameter only. Two documents that differ in one
  such definition are followed side by side: through reading, where the declarations of one tool
  come to differ in the shape of one parameter (`related_ofValue`, `agreeBut_parameterList`),
  through compiling, where tools stay at their places (`rel_add` for one declaration, `rel_compile`
  for all), and through the schema and the validation of the tool that declares the parameter
  (`agreeBut_schema`, `issuesElsewhere_validate`).

  The definitions may be what no definition should be, as long as the declarations compile. What can
  keep them from it is a choice without a text, and no other definition
  (`compileAlike_of_hasWritableChoices`).
-/
import DeclaredTools.Proofs.Registry.Answers
import DeclaredTools.Proofs.Related
import DeclaredTools.Proofs.Schema.Returned
import DeclaredTools.Proofs.Validation.Required

namespace DeclaredTools

open OrderedMap

/-! ## Places of parameters -/

/-- The entries of a map around one of them, of which only the key is given. -/
structure Gap where
  before : List (Value × Value)
  key : Value
  after : List (Value × Value)

namespace Gap

/-- The entries, with a value in the gap. -/
def fill (gap : Gap) (v : Value) : List (Value × Value) := gap.before ++ (gap.key, v) :: gap.after

theorem exists_fill_eq {k v : Value} {es : List (Value × Value)} (h : (k, v) ∈ es) :
    ∃ gap : Gap, gap.key = k ∧ gap.fill v = es := by
  obtain ⟨before, after, rfl⟩ := List.append_of_mem h
  exact ⟨⟨before, k, after⟩, rfl, rfl⟩

/-- What is under other keys does not depend on the value in the gap. -/
theorem lookup_fill {gap : Gap} {name : String} (h : gap.key.isText name = false) (v w : Value) :
    Value.lookup name (gap.fill v) = Value.lookup name (gap.fill w) := by
  unfold fill
  induction gap.before with
  | nil => simp [Value.lookup, h]
  | cons e es ih =>
    rw [List.cons_append, List.cons_append, Value.lookup, Value.lookup, ih]

/-- What is under the key of the gap, unless it is under an equal key before. -/
theorem lookup_fill_key {gap : Gap} {name : String} (h : gap.key.isText name = true) (v : Value) :
    Value.lookup name (gap.fill v) = (Value.lookup name gap.before).or (some v) := by
  unfold fill
  induction gap.before with
  | nil => simp [Value.lookup, h]
  | cons e es ih =>
    rw [List.cons_append, Value.lookup, Value.lookup, ih]
    split <;> rfl

end Gap

/-- Both are the same, or the one is `x` and the other `y`. -/
def Exchanged {α : Type} (x y a b : α) : Prop := b = a ∨ a = x ∧ b = y

namespace Exchanged

variable {α β : Type} {x y a b : α}

theorem map (f : α → β) (h : Exchanged x y a b) : Exchanged (f x) (f y) (f a) (f b) := by
  rcases h with rfl | ⟨rfl, rfl⟩
  · exact .inl rfl
  · exact .inr ⟨rfl, rfl⟩

/-- What does not tell `x` from `y` does not tell the two apart. -/
theorem congr {f : α → β} (h : Exchanged x y a b) (hf : f x = f y) : f a = f b := by
  rcases h with rfl | ⟨rfl, rfl⟩
  · rfl
  · exact hf

end Exchanged

/-- Declarations under one key that are called and enabled alike. -/
structure Declaration.Twins (d d' : Declaration) : Prop where
  key : d.key = d'.key
  registeredName : d.registeredName = d'.registeredName
  isEnabled : d.isEnabled = d'.isEnabled

/-- A place for the definition of a parameter: a gap among the parameters of a tool, these in a gap
among the fields of the tool, and these in a gap among the tools of a document. -/
structure ParameterPlace where
  tool : Gap
  field : Gap
  parameter : Gap
  field_key : field.key = .text "parameters"

namespace ParameterPlace

variable (place : ParameterPlace) (v w : Value)

/-- The name of the parameter. -/
def name : String := place.parameter.key.display

/-- The fields of the tool, with a definition in the place. -/
def fields : List (Value × Value) := place.field.fill (.map (place.parameter.fill v))

def declaration : Declaration := .ofEntries place.tool.key.display (place.fields v)

def document : Value := .map (place.tool.fill (.map (place.fields v)))

/-- Every parameter of every tool in a document has a place. -/
theorem exists_document_eq {tools fields parameters : List (Value × Value)} {k k' v : Value}
    (htool : (k, .map fields) ∈ tools) (hfield : (.text "parameters", .map parameters) ∈ fields)
    (hparameter : (k', v) ∈ parameters) :
    ∃ place : ParameterPlace, place.document v = .map tools ∧ place.name = k'.display ∧
      place.declaration v = .ofEntries k.display fields := by
  obtain ⟨tool, rfl, rfl⟩ := Gap.exists_fill_eq htool
  obtain ⟨field, hkey, rfl⟩ := Gap.exists_fill_eq hfield
  obtain ⟨parameter, rfl, rfl⟩ := Gap.exists_fill_eq hparameter
  exact ⟨⟨tool, field, parameter, hkey⟩, rfl, rfl, rfl⟩

/-! ## Reading -/

theorem lookup_fields {name : String} (h : name ≠ "parameters") :
    Value.lookup name (place.fields v) = Value.lookup name (place.fields w) := by
  refine Gap.lookup_fill ?_ _ _
  rw [place.field_key, Value.isText]
  exact beq_eq_false_iff_ne.2 (Ne.symm h)

/-- The declarations differ in their parameters at most. -/
theorem declaration_eq :
    place.declaration w =
      { place.declaration v with parameters := (place.declaration w).parameters } := by
  unfold declaration Declaration.ofEntries
  simp only [place.lookup_fields v w, ne_eq, String.reduceEq, not_false_eq_true]

theorem twins_declaration : (place.declaration v).Twins (place.declaration w) := by
  rw [place.declaration_eq v w]
  exact ⟨rfl, rfl, rfl⟩

/-- The parameters are the same, but for one of which the shape may be exchanged. -/
theorem related_parameterList :
    Related (fun n s t => s = t ∨ n = place.name ∧ t = .ofValue w)
      (place.declaration v).parameterList (place.declaration w).parameterList := by
  have hlookup : ∀ u, Value.lookup "parameters" (place.fields u) =
      (Value.lookup "parameters" place.field.before).or (some (.map (place.parameter.fill u))) := by
    intro u
    have hkey : Value.isText "parameters" place.field.key = true := by
      rw [place.field_key]
      rfl
    exact Gap.lookup_fill_key hkey _
  unfold declaration
  rw [Declaration.parameterList_ofEntries, Declaration.parameterList_ofEntries, hlookup, hlookup]
  cases Value.lookup "parameters" place.field.before with
  | some other =>
    -- the fields of the tool begin with other parameters, and these count
    exact List.forall₂_same.2 fun _ _ => ⟨rfl, .inl rfl⟩
  | none =>
    refine related_ofEntries ?_
    unfold Gap.fill
    rw [Shape.shapesOf_eq_map, Shape.shapesOf_eq_map, List.map_append, List.map_append,
      List.map_cons, List.map_cons]
    exact forall₂_of_one (fun _ => ⟨rfl, .inl rfl⟩) ⟨rfl, .inr ⟨rfl, rfl⟩⟩ _ _

/-- The parameters differ in the shape of one of them at most. -/
theorem agreeBut_parameterList :
    AgreeBut place.name (place.declaration v).parameterList
      (place.declaration w).parameterList := by
  refine (place.related_parameterList v w).imp ?_
  rintro e e' ⟨hname, hsame | ⟨hplace, _⟩⟩
  · exact ⟨hname, fun _ => hsame⟩
  · exact ⟨hname, fun hne => absurd hplace hne⟩

theorem hasWritableChoices_declaration (hv : (place.declaration v).hasWritableChoices = true)
    (hw : (Shape.ofValue w).all Shape.hasWritableChoices = true) :
    (place.declaration w).hasWritableChoices = true := by
  rw [Declaration.hasWritableChoices_iff] at hv ⊢
  intro e' he'
  -- the shape is that of a parameter in the other list, or the one in the place
  obtain ⟨e, he, _, hsame | ⟨_, hnew⟩⟩ :=
    Result.exists_of_forall₂_of_mem (place.related_parameterList v w) he'
  · rw [← hsame]
    exact hv e he
  · rw [hnew]
    exact hw

theorem activeObstacle_declaration (hv : (place.declaration v).activeObstacle = none)
    (hw : (Shape.ofValue w).all Shape.hasWritableChoices = true) :
    (place.declaration w).activeObstacle = none := by
  have htwins := place.twins_declaration v w
  unfold Declaration.activeObstacle at hv ⊢
  rw [← htwins.isEnabled]
  cases hon : (place.declaration v).isEnabled with
  | false => rfl
  | true =>
    rw [hon, if_pos rfl, Declaration.obstacle_eq_none_iff] at hv
    rw [if_pos rfl, Declaration.obstacle_eq_none_iff, ← htwins.registeredName]
    exact ⟨hv.1, place.hasWritableChoices_declaration v w hv.2 hw⟩

/-- The sets hold the same declarations, but for one that is exchanged. -/
theorem related_ofValue :
    Related (fun _ => Exchanged (place.declaration v) (place.declaration w))
      (DeclarationSet.ofValue (place.document v)) (DeclarationSet.ofValue (place.document w)) := by
  unfold document Gap.fill DeclarationSet.ofValue
  refine related_ofEntries ?_
  rw [List.filterMap_append, List.filterMap_append, List.filterMap_cons, List.filterMap_cons]
  exact forall₂_of_one (fun _ => ⟨rfl, .inl rfl⟩) ⟨rfl, .inr ⟨rfl, rfl⟩⟩ _ _

end ParameterPlace

/-! ## Compiling -/

namespace ToolTable

variable {d d' : Declaration}

/-- Exchanged declarations which the same keeps from being compiled, or nothing. -/
def Interchanged (d d' e e' : Declaration) : Prop :=
  Exchanged d d' e e' ∧ e.activeObstacle = e'.activeObstacle

/-- Tables that are the same but for the tools of two declarations. -/
def SameBut (d d' : Declaration) (tools tools' : ToolTable) : Prop :=
  Related (fun _ => Exchanged (.ofDeclaration d) (.ofDeclaration d')) tools tools'

theorem addEvents_eq (htwins : d.Twins d') {tools tools' : ToolTable}
    (htools : SameBut d d' tools tools') {e e' : Declaration} (he : Exchanged d d' e e')
    (key : String) : tools.addEvents key e = tools'.addEvents key e' := by
  have hname : e.registeredName = e'.registeredName := he.congr htwins.registeredName
  unfold addEvents
  rw [← hname]
  generalize e.registeredName = name
  have hget := htools.get? name
  generalize tools.get? name = old at hget ⊢
  generalize tools'.get? name = old' at hget ⊢
  cases hget with
  | none => rfl
  | @some tool tool' htool =>
    have hkey : tool.declaration.key = tool'.declaration.key :=
      htool.congr (f := fun t => t.declaration.key) htwins.key
    show [Event.duplicateName name tool.declaration.key key] = _
    rw [hkey]

/-- Adding a declaration to one table, and its twin to the other, keeps them the same but for the
tools of the twins. -/
theorem rel_add (htwins : d.Twins d') {tools tools' : ToolTable}
    (htools : SameBut d d' tools tools') {e e' : Declaration} (he : Exchanged d d' e e')
    (hobstacle : e.activeObstacle = e'.activeObstacle) (key : String) :
    Report.Rel (SameBut d d') (tools.add key e) (tools'.add key e') := by
  have hname : e.registeredName = e'.registeredName := he.congr htwins.registeredName
  have henabled : e.isEnabled = e'.isEnabled := he.congr htwins.isEnabled
  unfold Declaration.activeObstacle at hobstacle
  unfold add
  rw [← henabled] at hobstacle ⊢
  cases hon : e.isEnabled with
  | false => exact ⟨rfl, .ok htools⟩
  | true =>
    rw [if_pos hon, if_pos hon] at hobstacle
    rw [← hobstacle, ← hname, ← addEvents_eq htwins htools he key]
    cases e.obstacle with
    | some o => exact Report.rel_stop _ _
    | none => exact ⟨rfl, .ok (htools.insert (he.map Tool.ofDeclaration))⟩

/-- Exchanging a declaration for its twin, which the same keeps from being compiled, exchanges its
tool and nothing else. -/
theorem rel_compile (htwins : d.Twins d') {set set' : DeclarationSet}
    (h : Related (fun _ => Interchanged d d') set set') :
    Report.Rel (SameBut d d') (compile set) (compile set') := by
  have horder : List.Forall₂ (fun e e' => e.1 = e'.1 ∧ Interchanged d d' e.2 e'.2)
      (inKeyOrder set) (inKeyOrder set') := by
    refine forall₂_mergeSort ?_ h
    intro a b a' b' hab hab'
    rw [hab.1, hab'.1]
  have hstep : ∀ (tools tools' : ToolTable) (e e' : String × Declaration),
      SameBut d d' tools tools' → e.1 = e'.1 ∧ Interchanged d d' e.2 e'.2 →
        Report.Rel (SameBut d d') (tools.add e.1 e.2) (tools'.add e'.1 e'.2) := by
    rintro tools tools' ⟨key, e⟩ ⟨_, e'⟩ htools ⟨rfl, he, hobstacle⟩
    exact rel_add htwins htools he hobstacle key
  have hempty : SameBut d d' [] [] := .nil
  unfold compile
  refine (Report.rel_foldlM hstep horder hempty).bind fun tools tools' htools => ?_
  have hlength : tools.length = tools'.length := htools.length_eq
  rw [hlength]
  exact ⟨rfl, .ok htools⟩

end ToolTable

/-! ## The tool itself -/

/-- Schemas of records that differ in one property at most, and in whether it is required. -/
inductive Schema.AgreeBut (name : String) : Schema → Schema → Prop
  | record {ps ps' : List (String × Schema)} {required required' : List String}
    {notes : Annotations} (properties : OrderedMap.AgreeBut name ps ps')
    (others : required.filter (· ≠ name) = required'.filter (· ≠ name))
    (membership : (name ∈ required ↔ name ∈ required') → required = required') :
    AgreeBut name (.record ps required notes) (.record ps' required' notes)

/-- The issues that do not stand under a property. -/
def Checked.issuesElsewhere {α : Type} (name : String) (r : Except (List Issue) α) : List Issue :=
  (issues r).filter fun issue => issue.path.head? ≠ some (.name name)

/-- Tools that differ in one parameter at most. -/
structure Tool.AgreeBut (name : String) (tool tool' : Tool) : Prop where
  name_eq : tool.name = tool'.name
  schema : tool.inputSchema.AgreeBut name tool'.inputSchema
  issues : ∀ arguments, Checked.issuesElsewhere name (tool.validate arguments) =
    Checked.issuesElsewhere name (tool'.validate arguments)

theorem Tool.agreeBut_refl (name : String) (tool : Tool) : tool.AgreeBut name tool where
  name_eq := rfl
  schema := .record (OrderedMap.agreeBut_refl _ _) rfl fun _ => rfl
  issues _ := rfl

section

variable {name : String} {ps ps' : OrderedMap Shape}

namespace Shape

theorem agreeBut_schemas (h : OrderedMap.AgreeBut name ps ps') :
    OrderedMap.AgreeBut name (schemas ps) (schemas ps') := by
  induction h using OrderedMap.AgreeBut.inductionOn with
  | nil => exact .nil
  | changed s t _ ih => exact .cons ⟨rfl, fun hne => absurd rfl hne⟩ ih
  | same n s _ _ ih => exact .cons ⟨rfl, fun _ => rfl⟩ ih

theorem requiredNames_cons (p : String × Shape) (ps : List (String × Shape)) :
    requiredNames (p :: ps) =
      (if p.2.note.required then [p.1] else []) ++ requiredNames ps := by
  obtain ⟨n, s⟩ := p
  rw [requiredNames]
  cases s.note.required <;> rfl

theorem filter_requiredNames_eq (h : OrderedMap.AgreeBut name ps ps') :
    (requiredNames ps).filter (· ≠ name) = (requiredNames ps').filter (· ≠ name) := by
  induction h using OrderedMap.AgreeBut.inductionOn with
  | nil => rfl
  | changed s t _ ih =>
    have hnone : ∀ b : Bool, (if b then [name] else []).filter (· ≠ name) = [] := by
      intro b
      cases b <;> simp
    rw [requiredNames_cons, requiredNames_cons, List.filter_append, List.filter_append, hnone,
      hnone, ih]
  | same n s _ _ ih =>
    rw [requiredNames_cons, requiredNames_cons, List.filter_append, List.filter_append, ih]

/-- The required names are the same if the one in question is among both or among neither. -/
theorem requiredNames_eq_of_mem_iff (hnodup : ps.keys.Nodup) (h : OrderedMap.AgreeBut name ps ps')
    (hmem : name ∈ requiredNames ps ↔ name ∈ requiredNames ps') :
    requiredNames ps = requiredNames ps' := by
  induction h using OrderedMap.AgreeBut.inductionOn with
  | nil => rfl
  | @changed s t ps ps' hrest _ =>
    rw [keys_cons, List.nodup_cons] at hnodup
    -- the name does not occur again, so there is no other difference
    have hps : ps = ps' := hrest.eq_of_notMem hnodup.1
    subst hps
    have hnot : name ∉ requiredNames ps := by
      intro hname
      obtain ⟨shape, hshape, _⟩ := mem_requiredNames.1 hname
      exact hnodup.1 (List.mem_map_of_mem hshape)
    rw [requiredNames_cons, requiredNames_cons, List.mem_append, List.mem_append] at hmem
    have hrequired : s.note.required = t.note.required := by
      simpa [hnot] using hmem
    rw [requiredNames_cons, requiredNames_cons, hrequired]
  | same n s hn _ ih =>
    rw [keys_cons, List.nodup_cons] at hnodup
    have hhead : name ∉ (if s.note.required then [n] else []) := by
      cases s.note.required <;> simp [Ne.symm hn]
    rw [requiredNames_cons, requiredNames_cons, List.mem_append, List.mem_append,
      or_iff_right hhead, or_iff_right hhead] at hmem
    rw [requiredNames_cons, requiredNames_cons, ih hnodup.2 hmem]

end Shape

theorem agreeBut_schema (hnodup : ps.keys.Nodup) (h : OrderedMap.AgreeBut name ps ps') :
    (Parameters.schema ps).AgreeBut name (Parameters.schema ps') :=
  .record (Shape.agreeBut_schemas h) (Shape.filter_requiredNames_eq h)
    (Shape.requiredNames_eq_of_mem_iff hnodup h)

namespace Checked

variable {α β : Type}

theorem issuesElsewhere_map (f : α → β) (r : Except (List Issue) α) :
    issuesElsewhere name (r.map f) = issuesElsewhere name r := by
  unfold issuesElsewhere
  rw [issues_map]

theorem issuesElsewhere_gather_cons (r : Except (List Issue) α)
    (rs : List (Except (List Issue) α)) :
    issuesElsewhere name (gather (r :: rs)) =
      issuesElsewhere name r ++ issuesElsewhere name (gather rs) := by
  unfold issuesElsewhere
  rw [issues_gather, issues_gather, List.flatMap_cons, List.filter_append]

theorem issuesElsewhere_under (r : Except (List Issue) α) :
    issuesElsewhere name (under (.name name) r) = [] := by
  unfold issuesElsewhere
  rw [issues_under, List.filter_eq_nil_iff]
  intro issue hissue
  obtain ⟨inner, _, rfl⟩ := List.mem_map.1 hissue
  simp [Issue.under]

end Checked

namespace Validation

open Checked

theorem issuesElsewhere_checkFields (model : String) (es : List (Value × Value))
    (h : OrderedMap.AgreeBut name ps ps') (index : Nat) :
    issuesElsewhere name (gather (checkFields model index ps es)) =
      issuesElsewhere name (gather (checkFields model index ps' es)) := by
  induction h using OrderedMap.AgreeBut.inductionOn generalizing index with
  | nil => rfl
  | changed s t _ ih =>
    -- all issues of the parameter stand under its name
    rw [checkFields_cons, checkFields_cons, issuesElsewhere_gather_cons,
      issuesElsewhere_gather_cons, issuesElsewhere_map, issuesElsewhere_map,
      issuesElsewhere_under, issuesElsewhere_under, ih]
  | same n s _ _ ih =>
    rw [checkFields_cons, checkFields_cons, issuesElsewhere_gather_cons,
      issuesElsewhere_gather_cons, ih]

end Validation

theorem issuesElsewhere_validate (model : String) (arguments : Value)
    (h : OrderedMap.AgreeBut name ps ps') :
    Checked.issuesElsewhere name (Parameters.validate ps model (some arguments)) =
      Checked.issuesElsewhere name (Parameters.validate ps' model (some arguments)) := by
  cases arguments with
  | map es =>
    unfold Parameters.validate Validation.checkRecord
    dsimp only
    rw [Checked.issuesElsewhere_map, Checked.issuesElsewhere_map,
      Validation.issuesElsewhere_checkFields model es h 0]
  | _ => rfl

end

theorem Declaration.nodup_parameterList_ofEntries (key : String) (es : List (Value × Value)) :
    (ofEntries key es).parameterList.keys.Nodup := by
  rw [parameterList_ofEntries]
  cases (Value.lookup "parameters" es).getD .null with
  | map ps => exact nodup_keys_ofEntries _
  | _ => exact List.nodup_nil

theorem ParameterPlace.agreeBut_tool (place : ParameterPlace) (v w : Value) :
    Tool.AgreeBut place.name (.ofDeclaration (place.declaration v))
      (.ofDeclaration (place.declaration w)) where
  name_eq := (place.twins_declaration v w).registeredName
  schema :=
    agreeBut_schema (Declaration.nodup_parameterList_ofEntries _ _)
      (place.agreeBut_parameterList v w)
  issues arguments := by
    unfold Tool.validate Tool.ofDeclaration
    dsimp only
    rw [(place.twins_declaration v w).registeredName]
    exact issuesElsewhere_validate _ arguments (place.agreeBut_parameterList v w)

namespace Registry

/-! ## The registry -/

section

variable (place : ParameterPlace) (old new : Value)

/-- Both documents compile, or the same keeps the declarations with the two definitions from it. -/
def CompileAlike : Prop :=
  (DeclarationSet.ofValue (place.document old)).compiles = true ∧
      (DeclarationSet.ofValue (place.document new)).compiles = true ∨
    (place.declaration old).obstacle = (place.declaration new).obstacle

variable {place old new}

/-- Documents that compile go on to do so, as long as all choices in the new definition have
texts: there is nothing else in a definition that keeps declarations from being compiled. -/
theorem compileAlike_of_hasWritableChoices
    (hcompiles : (DeclarationSet.ofValue (place.document old)).compiles = true)
    (hchoices : (Shape.ofValue new).all Shape.hasWritableChoices = true) :
    CompileAlike place old new := by
  refine .inl ⟨hcompiles, ?_⟩
  rw [DeclarationSet.compiles_iff_obstacle, DeclarationSet.obstacle_eq_none_iff_forall]
    at hcompiles ⊢
  intro e' he'
  obtain ⟨e, he, _, hsame | ⟨hold, hnew⟩⟩ :=
    Result.exists_of_forall₂_of_mem (place.related_ofValue old new) he'
  · rw [hsame]
    exact hcompiles e he
  · have hactive := hcompiles e he
    rw [hold] at hactive
    rw [hnew]
    exact place.activeObstacle_declaration old new hactive hchoices

variable (h : CompileAlike place old new)

include h

theorem interchanged_of_compileAlike :
    Related (fun _ => ToolTable.Interchanged (place.declaration old) (place.declaration new))
      (DeclarationSet.ofValue (place.document old))
      (DeclarationSet.ofValue (place.document new)) := by
  have hexchanged := place.related_ofValue old new
  rcases h with ⟨hold, hnew⟩ | hsame
  · -- nothing keeps any of the declarations from being compiled
    have hnone := DeclarationSet.obstacle_eq_none_iff_forall.1
      (DeclarationSet.compiles_iff_obstacle.1 hold)
    have hnone' := DeclarationSet.obstacle_eq_none_iff_forall.1
      (DeclarationSet.compiles_iff_obstacle.1 hnew)
    refine (forall₂_of_mem hexchanged).imp ?_
    rintro e e' ⟨⟨hkey, he⟩, hmem, hmem'⟩
    exact ⟨hkey, he, (hnone e hmem).trans (hnone' e' hmem').symm⟩
  · have hactive : (place.declaration old).activeObstacle =
        (place.declaration new).activeObstacle := by
      rw [Declaration.activeObstacle, Declaration.activeObstacle, hsame,
        (place.twins_declaration old new).isEnabled]
    exact hexchanged.imp fun e e' he => ⟨he.1, he.2, he.2.congr hactive⟩

theorem rel_tools :
    Report.Rel (ToolTable.SameBut (place.declaration old) (place.declaration new))
      (ofSet (.ofValue (place.document old))).tools
      (ofSet (.ofValue (place.document new))).tools :=
  ToolTable.rel_compile (place.twins_declaration old new) (interchanged_of_compileAlike h)

theorem rel_get (name : String) :
    Report.Rel (Exchanged (Tool.ofDeclaration (place.declaration old))
        (.ofDeclaration (place.declaration new)))
      ((ofSet (.ofValue (place.document old))).get name)
      ((ofSet (.ofValue (place.document new))).get name) := by
  refine (rel_tools h).bind fun tools tools' htools => ?_
  have hget := htools.get? name
  generalize OrderedMap.get? name tools = tool at hget ⊢
  generalize OrderedMap.get? name tools' = tool' at hget ⊢
  cases hget with
  | none => exact Report.rel_stop _ _
  | some h => exact Report.rel_pure h

theorem rel_list :
    Report.Rel (List.Forall₂ (Exchanged (Tool.ofDeclaration (place.declaration old))
        (.ofDeclaration (place.declaration new))))
      (ofSet (.ofValue (place.document old))).list
      (ofSet (.ofValue (place.document new))).list := by
  refine (rel_tools h).bind fun tools tools' htools => ?_
  refine Report.rel_pure ?_
  rw [List.forall₂_map_left_iff, List.forall₂_map_right_iff]
  exact htools.imp fun _ _ he => he.2

end

/-- A place between two parameters of a tool, behind which there is another tool. -/
private def middle : ParameterPlace where
  tool := ⟨[], .text "t", [(.text "u", .map [])]⟩
  field := ⟨[], .text "parameters", []⟩
  parameter := ⟨[(.text "a", .map [])], .text "b", [(.text "c", .map [])]⟩
  field_key := rfl

end Registry

end DeclaredTools
