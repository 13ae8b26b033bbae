/-
  What the steps of reading report. Going through all of them reports what `Shape.fallbacks` and
  `DeclarationSet.events` list, in this order; the texts taken on the way leave no trace.
-/
import DeclaredTools.Declaration.Steps

namespace DeclaredTools

namespace ReadingStep

@[simp] theorem reports_nil : reports [] = [] := rfl

@[simp] theorem reports_report_cons (e : Event) (steps : List ReadingStep) :
    reports (.report e :: steps) = e :: reports steps := rfl

@[simp] theorem reports_text_cons (v : Value) (steps : List ReadingStep) :
    reports (.text v :: steps) = reports steps := rfl

@[simp] theorem reports_append (steps more : List ReadingStep) :
    reports (steps ++ more) = reports steps ++ reports more := List.filterMap_append

theorem reports_flatMap {α : Type} (steps : α → List ReadingStep) (xs : List α) :
    reports (xs.flatMap steps) = xs.flatMap fun x => reports (steps x) := by
  induction xs with
  | nil => rfl
  | cons x xs ih => rw [List.flatMap_cons, List.flatMap_cons, reports_append, ih]

@[simp] theorem reports_map_report (events : List Event) :
    reports (events.map .report) = events := by
  induction events with
  | nil => rfl
  | cons e events ih => rw [List.map_cons, reports_report_cons, ih]

@[simp] theorem reports_map_text (vs : List Value) : reports (vs.map .text) = [] := by
  induction vs with
  | nil => rfl
  | cons v vs ih => rw [List.map_cons, reports_text_cons, ih]

@[simp] theorem reports_ofField (name : String) (es : List (Value × Value)) :
    reports (ofField name es) = [] := by
  unfold ofField
  split <;> rfl

end ReadingStep

open ReadingStep

/-! ## Definitions -/

namespace Shape

mutual

theorem reports_steps (path : String) : (v : Value) →
    reports (steps path v) = (fallbacks path v).map .fallback
  | .map es => by
    rw [steps, fallbacks, reports_append, reports_ofField, List.nil_append]
    cases TypeTag.ofValue? (tagOf es) with
    | none => rfl
    | some tag =>
      cases tag with
      | scalar kind => rfl
      | enum => rfl
      | array => exact reports_itemSteps path es
      | object => exact reports_propertySteps path es
  | .null | .bool _ | .int _ | .float _ | .text _ | .bytes _ | .date _ | .timestamp _ | .list _
  | .tuple _ | .set _ => rfl

theorem reports_itemSteps (path : String) : (es : List (Value × Value)) →
    reports (itemSteps path es) = (itemFallbacks path es).map .fallback
  | [] => rfl
  | (k, v) :: es => by
    rw [itemSteps.eq_def, itemFallbacks.eq_def]
    dsimp only
    by_cases hk : k.isText "items" = true
    · rw [if_pos hk, if_pos hk]
      match v with
      | .null => rfl
      | .map ps => exact reports_steps (path ++ " items") (.map ps)
      | .bool _ | .int _ | .float _ | .text _ | .bytes _ | .date _ | .timestamp _ | .list _
      | .tuple _ | .set _ => rfl
    · rw [if_neg hk, if_neg hk]
      exact reports_itemSteps path es

theorem reports_propertySteps (path : String) : (es : List (Value × Value)) →
    reports (propertySteps path es) = (propertyFallbacks path es).map .fallback
  | [] => rfl
  | (k, v) :: es => by
    rw [propertySteps.eq_def, propertyFallbacks.eq_def]
    dsimp only
    by_cases hk : k.isText "properties" = true
    · rw [if_pos hk, if_pos hk]
      match v with
      | .map ps => exact reports_entrySteps path ps
      | .null | .bool _ | .int _ | .float _ | .text _ | .bytes _ | .date _ | .timestamp _
      | .list _ | .tuple _ | .set _ => rfl
    · rw [if_neg hk, if_neg hk]
      exact reports_propertySteps path es

theorem reports_entrySteps (path : String) : (es : List (Value × Value)) →
    reports (entrySteps path es) = (entryFallbacks path es).map .fallback
  | [] => rfl
  | (k, v) :: es => by
    rw [entrySteps, entryFallbacks, List.cons_append, reports_text_cons, reports_append,
      List.map_append, reports_steps _ v, reports_entrySteps path es]

end

end Shape

/-! ## Declarations -/

namespace Declaration

theorem reports_parameterSteps (v : Value) :
    reports (parameterSteps v) = (Parameters.fallbacks "" v).map .fallback := by
  cases v with
  | map ps => exact Shape.reports_entrySteps "" ps
  | _ => rfl

theorem reports_refSteps (v : Value) : reports (refSteps v) = [] := by
  cases v with
  | map es => simp [refSteps]
  | _ => rfl

theorem reports_toolsSteps (v : Value) : reports (toolsSteps v) = toolsEvents v := by
  cases v with
  | map es =>
    rw [toolsSteps, reports_flatMap]
    simp [reports_refSteps, toolsEvents, ToolRefs.isUnsupported]
  | _ => exact reports_map_report _

theorem reports_steps (key : String) (es : List (Value × Value)) :
    reports (steps key es) = events key es := by
  have htexts : reports (["name", "description", "prompt", "context"].flatMap
      fun name => ofField name es) = [] := by
    simp
  simp only [steps, events, reports_append, reports_map_report, htexts, List.nil_append,
    reports_flatMap, reports_parameterSteps, reports_toolsSteps]

end Declaration

/-- Reading the entries of a document reports the events of the document. -/
theorem DeclarationSet.reports_steps (source : String) (es : List (Value × Value)) :
    reports (steps source es) = events source (.map es) := by
  rw [steps, events, reports_flatMap]
  congr 1
  funext ⟨k, v⟩
  cases v with
  | map fields => exact Declaration.reports_steps k.display fields
  | _ => rfl

end DeclaredTools
