/-
  Malformed fields of an overlay. The parameters, the tool mode and the tools of a declaration have
  to be values of certain kinds. A value of another kind is read as null, and what this does in a
  merge depends on the field: null tools leave the base's in force, but parameters and a mode that
  are null override the base's. So malformed fields are without effect exactly if the base has no
  parameters and no mode that they could erase (`sameValues_withoutMalformed_iff`).
-/
import DeclaredTools.Proofs.Merging.Precedence
import DeclaredTools.Proofs.Shape.Reading

namespace DeclaredTools.Declaration

/-! ## Malformed fields -/

/-- The fields whose values have to be of certain kinds. -/
inductive RestrictedField where
  | parameters
  | tools
  | toolMode

namespace RestrictedField

def all : List RestrictedField := [.parameters, .tools, .toolMode]

/-- The key under which a document has the field. -/
def label : RestrictedField → String
  | .parameters => "parameters"
  | .tools => "tools"
  | .toolMode => "toolMode"

/-- The field may have this value; each of them may be null. -/
def admits : RestrictedField → Value → Bool
  | _, .null => true
  | .parameters, .map _ => true
  | .tools, .text _ => true
  | .tools, .map _ => true
  | .toolMode, v => (ToolMode.ofValue? v).isSome
  | _, _ => false

theorem mem_all (f : RestrictedField) : f ∈ all := by
  cases f <;> simp [all]

theorem label_injective {f g : RestrictedField} (h : f.label = g.label) : f = g := by
  cases f <;> cases g <;> simp_all [label]

end RestrictedField

/-- The field is there, with a value that it may not have. -/
def isMalformed (es : List (Value × Value)) (f : RestrictedField) : Bool :=
  (Value.lookup f.label es).any fun v => !f.admits v

/-- The key is that of no malformed field. -/
def isKept (es : List (Value × Value)) (k : Value) : Bool :=
  RestrictedField.all.all fun f => !(k.isText f.label && isMalformed es f)

/-- The entries of a declaration without its malformed fields. -/
def withoutMalformed (es : List (Value × Value)) : List (Value × Value) :=
  es.filter fun e => isKept es e.1

section

variable (key : String) (es : List (Value × Value))

theorem isKept_label (f : RestrictedField) : isKept es (.text f.label) = !isMalformed es f := by
  cases h : isMalformed es f with
  | true =>
    refine List.all_eq_false.2 ⟨f, f.mem_all, ?_⟩
    simp [Value.isText, h]
  | false =>
    refine List.all_eq_true.2 fun g _ => ?_
    by_cases hlabel : f.label = g.label
    · rw [← RestrictedField.label_injective hlabel, h, Bool.and_false]
      rfl
    · simp [Value.isText, hlabel]

theorem lookup_label_withoutMalformed (f : RestrictedField) :
    Value.lookup f.label (withoutMalformed es) =
      if isMalformed es f then none else Value.lookup f.label es := by
  unfold withoutMalformed
  split
  · next h =>
    refine Value.lookup_filter_eq_none (fun _ => ?_) es
    rw [isKept_label, h]
    rfl
  · next h =>
    refine Value.lookup_filter (fun _ => ?_) es
    rw [isKept_label, Bool.eq_false_iff.2 h]
    rfl

/-- Other fields are not touched. -/
theorem lookup_withoutMalformed {name : String} (h : ∀ f : RestrictedField, name ≠ f.label) :
    Value.lookup name (withoutMalformed es) = Value.lookup name es := by
  unfold withoutMalformed
  refine Value.lookup_filter (fun _ => ?_) es
  refine List.all_eq_true.2 fun f _ => ?_
  simp [Value.isText, h f]

/-! ## Reading -/

variable {es}

/-- What reads no value that the field may not have reads a malformed field as null. -/
theorem map_lookup_of_isMalformed {α : Type} {f : RestrictedField} {read : Value → Option α}
    (hread : ∀ v, f.admits v = false → read v = none) (h : isMalformed es f = true) :
    (Value.lookup f.label es).map read = some none := by
  unfold isMalformed at h
  cases hv : Value.lookup f.label es with
  | none =>
    rw [hv] at h
    exact absurd h Bool.false_ne_true
  | some v =>
    rw [hv, Option.any_some] at h
    have hadmits : f.admits v = false := by simpa using h
    rw [Option.map_some, hread v hadmits]

theorem parameters_of_isMalformed (h : isMalformed es .parameters = true) :
    (ofEntries key es).parameters = some none := by
  refine (Field.parameters.of?_ofEntries key es).trans (map_lookup_of_isMalformed ?_ h)
  intro v hv
  cases v with
  | map ps => cases hv
  | _ => rfl

theorem tools_of_isMalformed (h : isMalformed es .tools = true) :
    (ofEntries key es).tools = some none := by
  have hread : (ofEntries key es).tools = (Value.lookup "tools" es).map ToolRefs.ofValue? := rfl
  refine hread.trans (map_lookup_of_isMalformed ?_ h)
  intro v hv
  cases v with
  | text names => cases hv
  | map entries => cases hv
  | _ => rfl

theorem toolMode_of_isMalformed (h : isMalformed es .toolMode = true) :
    (ofEntries key es).toolMode = some none := by
  refine (Field.toolMode.of?_ofEntries key es).trans (map_lookup_of_isMalformed ?_ h)
  intro v hv
  cases v with
  | text mode =>
    have hnone : ToolMode.ofValue? (.text mode) = none := by
      simpa [RestrictedField.admits] using hv
    exact hnone
  | _ => rfl

theorem ofEntries_withoutMalformed :
    ofEntries key (withoutMalformed es) =
      { ofEntries key es with
        parameters := if isMalformed es .parameters then none else (ofEntries key es).parameters
        tools := if isMalformed es .tools then none else (ofEntries key es).tools
        toolMode := if isMalformed es .toolMode then none else (ofEntries key es).toolMode } := by
  have hother : ∀ name ∈ ["name", "description", "prompt", "context", "disabled"],
      Value.lookup name (withoutMalformed es) = Value.lookup name es := by
    intro name hname
    refine lookup_withoutMalformed es fun f => ?_
    rintro rfl
    cases f <;> simp [RestrictedField.label] at hname
  have hparameters := lookup_label_withoutMalformed es .parameters
  have htools := lookup_label_withoutMalformed es .tools
  have hmode := lookup_label_withoutMalformed es .toolMode
  unfold RestrictedField.label at hparameters htools hmode
  dsimp only at hparameters htools hmode
  unfold ofEntries
  rw [hother "name" (by simp), hother "description" (by simp), hother "prompt" (by simp),
    hother "context" (by simp), hother "disabled" (by simp), hparameters, htools, hmode]
  split <;> split <;> split <;> rfl

end

/-! ## Merging -/

/-- Null in an overlay gives what no entry gives exactly if the base has no value either. -/
theorem join_or_eq_iff {α : Type} {malformed : Bool} {overlay base : Option (Option α)}
    (h : malformed = true → overlay = some none) :
    (overlay.or base).join = ((if malformed then none else overlay).or base).join ↔
      (malformed = true → base.join = none) := by
  cases malformed with
  | false => simp
  | true =>
    rw [h rfl]
    simp [eq_comm]

/-- The same values in all fields, where null is the value of an unset field. -/
structure SameValues (d d' : Declaration) : Prop where
  key : d.key = d'.key
  name : d.name.join = d'.name.join
  description : d.description.join = d'.description.join
  prompt : d.prompt.join = d'.prompt.join
  context : d.context.join = d'.context.join
  parameters : d.parameters.join = d'.parameters.join
  tools : d.tools.join = d'.tools.join
  toolMode : d.toolMode.join = d'.toolMode.join
  disabled : d.disabled = d'.disabled

/-- **When malformed fields are ignored.** Merging a declaration with malformed fields gives the
same values as merging it without them, exactly if the base has null parameters or none at all where
the parameters are malformed, and likewise no mode where the mode is. For malformed parameters, or a
malformed mode, erase those of the base; malformed tools do no harm. -/
theorem sameValues_withoutMalformed_iff (base : Declaration) (key : String)
    (es : List (Value × Value)) :
    (SameValues (base.merge (ofEntries key es))
        (base.merge (ofEntries key (withoutMalformed es))) ↔
      (isMalformed es .parameters = true → base.parameters.join = none) ∧
      (isMalformed es .toolMode = true → base.toolMode.join = none)) ∧
    (isMalformed es .parameters = true →
      (base.merge (ofEntries key es)).parameters = some none) ∧
    (isMalformed es .toolMode = true →
      (base.merge (ofEntries key es)).toolMode = some none) := by
  have hnullParameters : isMalformed es .parameters = true →
      (ofEntries key es).parameters = some none := parameters_of_isMalformed key
  have hnullMode : isMalformed es .toolMode = true →
      (ofEntries key es).toolMode = some none := toolMode_of_isMalformed key
  have htools : (mergeTools base.tools (ofEntries key es).tools).join =
      (mergeTools base.tools
        (if isMalformed es .tools then none else (ofEntries key es).tools)).join := by
    split
    · next h =>
      rw [tools_of_isMalformed key h]
      rfl
    · rfl
  refine ⟨?_, fun h => ?_, fun h => ?_⟩
  · rw [ofEntries_withoutMalformed, ← join_or_eq_iff hnullParameters, ← join_or_eq_iff hnullMode]
    constructor
    · intro h
      exact ⟨h.parameters, h.toolMode⟩
    · intro h
      exact ⟨rfl, rfl, rfl, rfl, rfl, h.1, htools, h.2, rfl⟩
  · unfold merge
    rw [hnullParameters h]
    rfl
  · unfold merge
    rw [hnullMode h]
    rfl

/-- A declaration with values in all three fields. -/
private def completeBase : Declaration := .ofEntries "t" [
  (.text "parameters", .ofFields [("a", .ofFields [("type", .text "string")])]),
  (.text "toolMode", .text "sequential"), (.text "tools", .text "x, y")]

/-- A list in the place of parameters. -/
private def listedParameters : List (Value × Value) := [(.text "parameters", .list [.text "a"])]

/-- A mode that there is not. -/
private def parallelMode : List (Value × Value) := [(.text "toolMode", .text "parallel")]

theorem malformed_erases :
    ¬ SameValues (completeBase.merge (ofEntries "t" listedParameters))
      (completeBase.merge (ofEntries "t" (withoutMalformed listedParameters))) ∧
    ¬ SameValues (completeBase.merge (ofEntries "t" parallelMode))
      (completeBase.merge (ofEntries "t" (withoutMalformed parallelMode))) := by
  constructor
  · intro h
    have hkept : (completeBase.merge
      (ofEntries "t" (withoutMalformed listedParameters))).parameters.join.isSome = true := rfl
    rw [← h.parameters] at hkept
    cases hkept
  · intro h
    have hkept : (completeBase.merge
      (ofEntries "t" (withoutMalformed parallelMode))).toolMode.join = some .sequential := rfl
    rw [← h.toolMode] at hkept
    cases hkept

end DeclaredTools.Declaration
