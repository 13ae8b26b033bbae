/-
  When the prompt of a call can be rendered. Every argument ends up in it, put into a template or
  on a line of its own, so each has to have a text: lists and maps have one if they have one in
  JSON, and all else has one if its integers are short enough (`isOk_stringify`). That is all it
  takes (`isOk_ofDeclaration`).
-/
import DeclaredTools.Proofs.Json.Printing
import DeclaredTools.Proofs.Shape.Reading
import DeclaredTools.Prompt.Basic

namespace DeclaredTools

open OrderedMap Result

/-! ## Texts of arguments -/

namespace Value

/-- An argument has a text inside a prompt. -/
def isPrintable : Value → Bool
  | .list xs => hasJsonText (.list xs)
  | .map es => hasJsonText (.map es)
  | v => v.isWritable

theorem isPrintable_of_hasJsonText {v : Value} (h : v.hasJsonText = true) :
    v.isPrintable = true := by
  cases v with
  | list xs => exact h
  | map es => exact h
  | _ => exact isWritable_of_hasJsonText _ h

end Value

theorem isOk_stringify (v : Value) : (stringify v).isOk = v.isPrintable := by
  cases v with
  | list xs => exact Json.isOk_render .compact 0 (.list xs)
  | map es => exact Json.isOk_render .compact 0 (.map es)
  | float x =>
    rw [stringify]
    cases x.toInt? <;> rfl
  | null | bool _ | text _ => rfl
  | _ => exact Value.isOk_written _

/-- All arguments and their names have texts. -/
def arePrintable (args : Arguments) : Bool := args.all fun e => e.1.isWritable && e.2.isPrintable

theorem isPrintable_of_lookup {args : Arguments} (h : arePrintable args = true) {name : String}
    {v : Value} (hv : Value.lookup name args = some v) : v.isPrintable = true := by
  obtain ⟨k, hmem⟩ := Value.exists_mem_of_lookup hv
  exact (Bool.and_eq_true_iff.1 (List.all_eq_true.1 h (k, v) hmem)).2

/-! ## Templates -/

namespace Template

theorem isOk_renderSegment {args : Arguments} (h : arePrintable args = true) (s : Segment) :
    (renderSegment args s).isOk = true := by
  unfold renderSegment
  split
  · rfl
  · next body =>
    split
    · next v hv =>
      rw [isOk_map, isOk_stringify]
      exact isPrintable_of_lookup h hv
    · rfl

theorem isOk_render {args : Arguments} (h : arePrintable args = true) (template : Option String) :
    (render template args).isOk = true := by
  unfold render
  split
  · rfl
  · next text =>
    split
    · rfl
    · rw [isOk_map, isOk_mapM, List.all_eq_true]
      exact fun s _ => isOk_renderSegment h s

theorem isPrintable_of_mem_used_renderSegment {args : Arguments} {s : Segment} {piece : Rendered}
    (h : renderSegment args s = .ok piece) {name : String} (hname : name ∈ piece.used) :
    ∃ v, Value.lookup name args = some v ∧ v.isPrintable = true := by
  unfold renderSegment at h
  split at h
  · obtain rfl := Except.ok.inj h
    cases hname
  · next body =>
    split at h
    · next v hv =>
      obtain ⟨t, ht, rfl⟩ := map_eq_ok h
      obtain rfl := List.mem_singleton.1 hname
      refine ⟨v, hv, ?_⟩
      rw [← isOk_stringify, ht]
      rfl
    · obtain rfl := Except.ok.inj h
      cases hname

/-- The arguments that a rendered template used have texts. -/
theorem isPrintable_of_mem_used {template : Option String} {args : Arguments} {r : Rendered}
    (h : render template args = .ok r) {name : String} (hname : name ∈ r.used) :
    ∃ v, Value.lookup name args = some v ∧ v.isPrintable = true := by
  unfold render at h
  split at h
  · obtain rfl := Except.ok.inj h
    cases hname
  · next text =>
    split at h
    · obtain rfl := Except.ok.inj h
      cases hname
    · obtain ⟨pieces, hpieces, rfl⟩ := map_eq_ok h
      obtain ⟨piece, hpiece, hname⟩ := List.mem_flatMap.1 hname
      obtain ⟨s, _, hs⟩ := exists_of_forall₂_of_mem (forall₂_of_mapM_eq_ok hpieces) hpiece
      exact isPrintable_of_mem_used_renderSegment hs hname

end Template

/-! ## Prompts -/

namespace Prompt

theorem isOk_renderContext {args : Arguments} (h : arePrintable args = true)
    (context : Option String) : (renderContext context args).isOk = true := by
  unfold renderContext
  split
  · rfl
  · next c =>
    split
    · rfl
    · rw [isOk_map]
      exact Template.isOk_render h (some c)

theorem isPrintable_of_mem_used_context {context : Option String} {args : Arguments}
    {r : Option Rendered} (h : renderContext context args = .ok r) {name : String}
    (hname : name ∈ (r.map (·.used)).getD []) :
    ∃ v, Value.lookup name args = some v ∧ v.isPrintable = true := by
  unfold renderContext at h
  split at h
  · obtain rfl := Except.ok.inj h
    cases hname
  · next c =>
    split at h
    · obtain rfl := Except.ok.inj h
      cases hname
    · obtain ⟨rendered, hrendered, rfl⟩ := map_eq_ok h
      exact Template.isPrintable_of_mem_used hrendered hname

theorem isOk_parameterLines (args : Arguments) :
    (parameterLines args).isOk = arePrintable args := by
  rw [parameterLines, isOk_mapM, arePrintable]
  congr 1
  funext e
  obtain ⟨k, v⟩ := e
  rw [isOk_bind_bind_pure, Value.isOk_written, isOk_stringify]

/-- A prompt is rendered when its parts are. -/
theorem isOk_ofDeclaration_iff (d : Declaration) (args : Arguments) :
    (ofDeclaration d args).isOk = true ↔
      ∃ prompt context, Template.render d.prompt.join args = .ok prompt ∧
        renderContext d.context.join args = .ok context ∧
        arePrintable (unused args (prompt.used ++ (context.map (·.used)).getD [])) = true := by
  unfold ofDeclaration
  cases hprompt : Template.render d.prompt.join args with
  | error e =>
    refine iff_of_false Bool.false_ne_true ?_
    rintro ⟨_, _, hp, _⟩
    cases hp
  | ok prompt =>
    cases hcontext : renderContext d.context.join args with
    | error e =>
      refine iff_of_false Bool.false_ne_true ?_
      rintro ⟨_, _, _, hc, _⟩
      cases hc
    | ok context =>
      refine Iff.trans (Bool.eq_iff_iff.1 (isOk_bind_pure (parameterLines _) _)) ?_
      rw [isOk_parameterLines]
      constructor
      · exact fun h => ⟨prompt, context, rfl, rfl, h⟩
      · rintro ⟨_, _, hp, hc, h⟩
        obtain rfl := Except.ok.inj hp
        obtain rfl := Except.ok.inj hc
        exact h

/-- **When prompts can be rendered.** The prompt of a call is rendered exactly if every argument
has a text, given that no two have one name. -/
theorem isOk_ofDeclaration (d : Declaration) {fields : OrderedMap Value}
    (hnodup : fields.keys.Nodup) :
    (ofDeclaration d (fields.map fun (k, v) => (.text k, v))).isOk =
      arePrintable (fields.map fun (k, v) => (.text k, v)) := by
  rw [Bool.eq_iff_iff, isOk_ofDeclaration_iff]
  constructor
  · rintro ⟨prompt, context, hprompt, hcontext, hrest⟩
    refine List.all_eq_true.2 fun e he => ?_
    obtain ⟨⟨name, v⟩, hf, rfl⟩ := List.mem_map.1 he
    -- the argument was used by a template, or it has a line of its own
    by_cases hused : name ∈ prompt.used ++ (context.map (·.used)).getD []
    · have hprintable : ∃ w, Value.lookup name (fields.map fun (k, v) => (.text k, v)) = some w ∧
          w.isPrintable = true := by
        rcases List.mem_append.1 hused with hused | hused
        · exact Template.isPrintable_of_mem_used hprompt hused
        · exact isPrintable_of_mem_used_context hcontext hused
      obtain ⟨w, hw, hprintable⟩ := hprintable
      rw [Value.lookup_fields, get?_eq_some_of_mem hnodup hf] at hw
      exact Option.some.inj hw ▸ hprintable
    · refine List.all_eq_true.1 hrest _ (List.mem_filter.2 ⟨he, ?_⟩)
      simp only [Value.isText, Bool.not_eq_true', List.any_eq_false, beq_iff_eq]
      exact fun other hother heq => hused (heq ▸ hother)
  · intro h
    obtain ⟨prompt, hprompt⟩ := isOk_eq_true_iff.1 (Template.isOk_render h d.prompt.join)
    obtain ⟨context, hcontext⟩ := isOk_eq_true_iff.1 (isOk_renderContext h d.context.join)
    refine ⟨prompt, context, hprompt, hcontext, List.all_eq_true.2 fun e he => ?_⟩
    exact List.all_eq_true.1 h e (List.mem_filter.1 he).1

end Prompt

end DeclaredTools
