/-
  Blank tools in a merge. Tools can be unset, null or a blank text, and `ToolRefs.merge` treats all
  three alike: as no references. The merge of declarations does not. Where the references merge to
  nothing it leaves the tools of the base as they are, so that a blank text in the base stays,
  unless the overlay has references (`tools_merge_eq_iff`).

  What stays is not silent. A blank text is read as one tool without a name, for which the prompt
  has a section (`listed_of_isBlank`).
-/
import DeclaredTools.Proofs.Merging.DeclarationSet
import DeclaredTools.Proofs.Merging.WrittenForm
import DeclaredTools.Proofs.Prompt.Outline

namespace DeclaredTools

/-! ## Blank references -/

namespace ToolRefs

/-- References merge to nothing if neither side has any that count. -/
theorem merge_eq_none_iff {a b : Option ToolRefs} :
    merge a b = none ↔ unlessBlank a = none ∧ unlessBlank b = none := by
  unfold merge
  cases unlessBlank a with
  | none => cases unlessBlank b <;> simp
  | some x =>
    cases unlessBlank b with
    | none => simp
    | some y =>
      dsimp only
      split <;> simp

theorem names_of_isBlank {refs : ToolRefs} (h : refs.Writable) (hblank : refs.isBlank = true) :
    refs.names = [""] := by
  obtain ⟨hcompact, hnames⟩ := Bool.and_eq_true_iff.1 hblank
  have hempty : ∀ name ∈ refs.names, name = "" := by simpa using hnames
  have hnodup : refs.names.Nodup := h.nodup
  cases hlist : refs.names with
  | nil => exact absurd hlist (h.names_ne_nil hcompact)
  | cons name names =>
    rw [hlist] at hempty hnodup
    cases names with
    | nil => rw [hempty name List.mem_cons_self]
    | cons other names =>
      -- two names would both be the empty one
      have hname := hempty name List.mem_cons_self
      have hother := hempty other (List.mem_cons_of_mem _ List.mem_cons_self)
      exact absurd (List.mem_cons.2 (.inl (hname.trans hother.symm))) (List.nodup_cons.1 hnodup).1

/-- A blank text lists one tool, which has no name. -/
theorem listed_of_isBlank {refs : ToolRefs} (h : refs.Writable) (hblank : refs.isBlank = true) :
    listed (some refs) = [⟨"", "", "", false⟩] := by
  have hcompact : refs.compact = true := (Bool.and_eq_true_iff.1 hblank).1
  rw [listed, entries_eq_of_compact h.toWellFormed hcompact, names_of_isBlank h hblank]
  rfl

end ToolRefs

/-! ## Sections on tools -/

namespace Prompt

/-- Tools add nothing to a prompt but the section behind it. -/
theorem ofDeclaration_eq_map (d : Declaration) (args : Arguments) :
    ofDeclaration d args = (ofDeclaration { d with tools := none } args).map fun text =>
      withTools text (ToolRefs.listed d.tools.join) (d.toolMode.join = some .sequential) := by
  unfold ofDeclaration
  cases Template.render d.prompt.join args with
  | error e => rfl
  | ok prompt =>
    cases renderContext d.context.join args with
    | error e => rfl
    | ok context =>
      dsimp only [bind, Except.bind]
      cases parameterLines (unused args (prompt.used ++ (context.map (·.used)).getD [])) <;> rfl

theorem withTools_eq_self_iff (text : String) (tools : List ListedTool) (sequential : Bool) :
    withTools text tools sequential = text ↔ tools = [] := by
  constructor
  · intro h
    cases tools with
    | nil => rfl
    | cons tool tools =>
      have hbreak : 0 < "\n\n".length := by decide
      have hlength := congrArg String.length h
      simp only [withTools, List.isEmpty_cons, Bool.false_eq_true, if_false,
        String.length_append] at hlength
      omega
  · rintro rfl
    rfl

/-- The prompt of every call is the one that the declaration has without its tools. -/
def ListsNoTools (d : Declaration) : Prop :=
  ∀ args, ofDeclaration d args = ofDeclaration { d with tools := none } args

theorem listsNoTools_iff (d : Declaration) :
    ListsNoTools d ↔ ToolRefs.listed d.tools.join = [] := by
  constructor
  · intro h
    have hnodup : (OrderedMap.keys ([] : OrderedMap Value)).Nodup := List.nodup_nil
    have hok : (ofDeclaration { d with tools := none } []).isOk = true :=
      isOk_ofDeclaration { d with tools := none } hnodup
    obtain ⟨text, htext⟩ := Result.isOk_eq_true_iff.1 hok
    have hsection := (ofDeclaration_eq_map d []).symm.trans (h [])
    rw [htext] at hsection
    exact (withTools_eq_self_iff text _ _).1 (Except.ok.inj hsection)
  · intro h args
    rw [ofDeclaration_eq_map, h]
    cases ofDeclaration { d with tools := none } args <;> rfl

end Prompt

/-! ## Declarations -/

namespace Declaration

/-- The tools are a blank text. -/
def hasBlankTools (d : Declaration) : Bool := d.tools.join.any ToolRefs.isBlank

/-- The tools are unset, null or a blank text. -/
def lacksTools (d : Declaration) : Bool := (countedTools d.tools).isNone

/-- Declarations that are read from documents, or merged from such. -/
inductive Arises : Declaration → Prop where
  | read (key : String) (es : List (Value × Value)) : Arises (ofEntries key es)
  | merge {base overlay : Declaration} :
    Arises base → Arises overlay → Arises (base.merge overlay)

theorem writable_tools_of_arises {d : Declaration} (h : d.Arises) :
    ToolRefs.AllWritable d.tools.join := by
  induction h with
  | read key es =>
    intro r hr
    obtain ⟨v, -, hv⟩ := Option.map_eq_some_iff.1 (Option.join_eq_some_iff.1 hr)
    exact ToolRefs.writable_of_ofValue? hv
  | @merge base overlay _ _ ihb iho =>
    intro r hr
    have hjoin : (base.merge overlay).tools.join =
        (ToolRefs.merge base.tools.join overlay.tools.join).or base.tools.join :=
      join_mergeTools base.tools overlay.tools
    rw [hjoin, Option.or_eq_some_iff] at hr
    rcases hr with hmerge | ⟨-, hbase⟩
    · exact ToolRefs.writable_of_merge ihb iho r hmerge
    · exact ihb r hbase

section

variable {base overlay : Declaration}

theorem merge_tools_eq_none_iff :
    ToolRefs.merge base.tools.join overlay.tools.join = none ↔
      base.lacksTools = true ∧ overlay.lacksTools = true := by
  rw [ToolRefs.merge_eq_none_iff]
  simp only [lacksTools, countedTools, Option.isNone_iff_eq_none]

/-- Tools that do not count are none, unless they are a blank text. -/
theorem join_tools_eq_none_iff {d : Declaration} (h : d.lacksTools = true) :
    d.tools.join = none ↔ d.hasBlankTools = false := by
  unfold lacksTools countedTools ToolRefs.unlessBlank at h
  unfold hasBlankTools
  cases hjoin : d.tools.join with
  | none => simp
  | some r =>
    rw [hjoin] at h
    have hblank : r.isBlank = true := by simpa [Option.filter] using h
    simp [hblank]

theorem lacksTools_of_hasBlankTools {d : Declaration} (h : d.hasBlankTools = true) :
    d.lacksTools = true := by
  unfold hasBlankTools at h
  unfold lacksTools countedTools ToolRefs.unlessBlank
  cases hjoin : d.tools.join with
  | none => rfl
  | some r =>
    rw [hjoin, Option.any_some] at h
    simp [Option.filter, h]

/-- Where neither side has tools that count, those of the base are kept as they are. -/
theorem join_tools_merge_of_lacksTools (hb : base.lacksTools = true)
    (ho : overlay.lacksTools = true) : (base.merge overlay).tools.join = base.tools.join := by
  have hnone := merge_tools_eq_none_iff.2 ⟨hb, ho⟩
  have hjoin := join_mergeTools base.tools overlay.tools
  rw [hnone, Option.none_or] at hjoin
  exact hjoin

end

/-- **When blank tools count as absent.** The tools of a merged declaration are the merged tools of
both, unless those of the base are a blank text and the overlay has none that count. If neither has
any that count, then the merged declaration has no references, and its prompts no section on tools,
exactly if the tools of the base are not a blank text; if they are, it lists one tool that has no
name. -/
theorem tools_merge_eq_iff (base overlay : Declaration) :
    ((base.merge overlay).tools.join = ToolRefs.merge base.tools.join overlay.tools.join ↔
      ¬ (base.hasBlankTools = true ∧ overlay.lacksTools = true)) ∧
    (base.Arises → base.lacksTools = true → overlay.lacksTools = true →
      ((base.merge overlay).tools.join = none ↔ base.hasBlankTools = false) ∧
      (Prompt.ListsNoTools (base.merge overlay) ↔ base.hasBlankTools = false) ∧
      (base.hasBlankTools = true →
        ToolRefs.listed (base.merge overlay).tools.join = [⟨"", "", "", false⟩])) := by
  refine ⟨?_, fun harises hb ho => ?_⟩
  · cases hmerge : ToolRefs.merge base.tools.join overlay.tools.join with
    | some r =>
      have hjoin := join_mergeTools base.tools overlay.tools
      rw [hmerge, Option.some_or] at hjoin
      refine iff_of_true hjoin fun ⟨hblank, ho⟩ => ?_
      rw [merge_tools_eq_none_iff.2 ⟨lacksTools_of_hasBlankTools hblank, ho⟩] at hmerge
      cases hmerge
    | none =>
      -- nothing counts on either side, so it depends on whether the base has a blank text to keep
      obtain ⟨hb, ho⟩ := merge_tools_eq_none_iff.1 hmerge
      rw [join_tools_merge_of_lacksTools hb ho, join_tools_eq_none_iff hb, ho]
      simp
  · have hkept := join_tools_merge_of_lacksTools hb ho
    have hlisted : base.hasBlankTools = true →
        ToolRefs.listed (base.merge overlay).tools.join = [⟨"", "", "", false⟩] := by
      intro hblank
      obtain ⟨r, hr, hrblank⟩ := (Option.any_eq_true _ _).1 hblank
      rw [hkept, hr]
      exact ToolRefs.listed_of_isBlank (writable_tools_of_arises harises r hr) hrblank
    refine ⟨?_, ?_, hlisted⟩
    · rw [hkept, join_tools_eq_none_iff hb]
    · rw [Prompt.listsNoTools_iff]
      constructor
      · intro hnil
        refine Bool.eq_false_iff.2 fun hblank => ?_
        rw [hlisted hblank] at hnil
        cases hnil
      · intro hnot
        rw [hkept, (join_tools_eq_none_iff hb).2 hnot]
        rfl

/-- A declaration whose tools are a blank text. -/
private def blankBase : Declaration := .ofEntries "t" [(.text "tools", .text " , ")]

/-- A declaration with a prompt and null tools. -/
private def prompted : Declaration :=
  .ofEntries "t" [(.text "prompt", .text "x"), (.text "tools", .null)]

theorem tools_merge_eq_iff_prompted :
    (prompted.Arises ∧ prompted.lacksTools = true ∧ blankBase.lacksTools = true) ∧
      (prompted.merge blankBase).tools.join = none ∧
      Prompt.ListsNoTools (prompted.merge blankBase) := by
  have hlacks : prompted.lacksTools = true ∧ blankBase.lacksTools = true := by decide +kernel
  have hmerged := (tools_merge_eq_iff prompted blankBase).2 (.read _ _) hlacks.1 hlacks.2
  exact ⟨⟨.read _ _, hlacks⟩, hmerged.1.2 (by decide +kernel), hmerged.2.1.2 (by decide +kernel)⟩

/-- The blank text of a base stays although the references merge to nothing, and the prompt has a
section for it. -/
theorem blank_tools_kept :
    ToolRefs.merge blankBase.tools.join prompted.tools.join = none ∧
      (blankBase.merge prompted).tools.join ≠ none ∧
      Prompt.ofDeclaration (blankBase.merge prompted) [] =
        .ok ("x\n\n## Available Tools\n" ++ Prompt.situationalIntro ++ "\n\n- \n\n" ++
          Prompt.nextSteps) := by
  refine ⟨by decide +kernel, by decide +kernel, Result.eq_ok_of_toOption ?_⟩
  decide +kernel

end Declaration

end DeclaredTools
