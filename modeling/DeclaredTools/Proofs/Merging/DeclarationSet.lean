/-
  Merging of declaration sets is an idempotent monoid. The law holds on three levels, each of which
  rests on the one below: tool references (`Merging.ToolRefs`), declarations, sets.

  `Arises` are the sets in question: read from documents, or merged from such sets. Each of them is
  well formed (`wellFormed_of_arises`). Main statements: `mergeTools_assoc` for the one field of a
  declaration that is not simply overridden, `merge_monoid` for sets, and `foldl_merge` for
  folding a list of sets into a base.
-/
import DeclaredTools.Declaration.Basic
import DeclaredTools.Proofs.Merging.ToolRefs

namespace DeclaredTools

open OrderedMap

namespace Declaration

/-! ## The tools of a declaration -/

/-- The tools field of a merged declaration: the merged references, or what the base said if
nothing is left of them. -/
def mergeTools (base overlay : Option (Option ToolRefs)) : Option (Option ToolRefs) :=
  ((ToolRefs.merge base.join overlay.join).map some).or base

/-- The references that a tools field gives are well formed. -/
def SoundTools (tools : Option (Option ToolRefs)) : Prop := ToolRefs.AllWellFormed tools.join

theorem join_mergeTools (base overlay : Option (Option ToolRefs)) :
    (mergeTools base overlay).join = (ToolRefs.merge base.join overlay.join).or base.join := by
  unfold mergeTools
  cases ToolRefs.merge base.join overlay.join <;> rfl

theorem soundTools_mergeTools {base overlay : Option (Option ToolRefs)} (hb : SoundTools base)
    (ho : SoundTools overlay) : SoundTools (mergeTools base overlay) := by
  intro r hr
  rw [join_mergeTools, Option.or_eq_some_iff] at hr
  rcases hr with hmerge | ⟨_, hbase⟩
  · exact ToolRefs.wellFormed_of_merge hb ho r hmerge
  · exact hb r hbase

/-- The references that count in a merge: those that are set, not null and not blank. -/
def countedTools (tools : Option (Option ToolRefs)) : Option ToolRefs :=
  ToolRefs.unlessBlank tools.join

section

variable {a b c : Option (Option ToolRefs)}

theorem mergeTools_eq (ha : SoundTools a) (hb : SoundTools b) :
    mergeTools a b =
      ((Option.merge ToolRefs.union (countedTools a) (countedTools b)).map some).or a := by
  unfold mergeTools countedTools
  rw [ToolRefs.merge_eq_optionMerge ha hb]

/-- What counts in a merged field is what counts in both: where nothing does, the base is kept,
and nothing counts in it either. -/
theorem countedTools_mergeTools (ha : SoundTools a) (hb : SoundTools b) :
    countedTools (mergeTools a b) =
      Option.merge ToolRefs.union (countedTools a) (countedTools b) := by
  have hmerge : ToolRefs.merge a.join b.join =
      Option.merge ToolRefs.union (countedTools a) (countedTools b) :=
    ToolRefs.merge_eq_optionMerge ha hb
  rw [countedTools, join_mergeTools, ← hmerge]
  cases hm : ToolRefs.merge a.join b.join with
  | none =>
    rw [hmerge, Option.merge_eq_none_iff] at hm
    rw [Option.none_or]
    exact hm.1
  | some r => rw [Option.some_or, ← hm, ToolRefs.unlessBlank_merge ha hb]

theorem mergeTools_assoc (ha : SoundTools a) (hb : SoundTools b) (hc : SoundTools c) :
    mergeTools (mergeTools a b) c = mergeTools a (mergeTools b c) := by
  have hcounted : Option.merge ToolRefs.union
      (Option.merge ToolRefs.union (countedTools a) (countedTools b)) (countedTools c) =
      Option.merge ToolRefs.union (countedTools a)
        (Option.merge ToolRefs.union (countedTools b) (countedTools c)) :=
    optionMerge_assoc_on fun x y z hx hy hz =>
      ToolRefs.union_assoc (ToolRefs.wellFormed_of_unlessBlank ha hx)
        (ToolRefs.wellFormed_of_unlessBlank hb hy) (ToolRefs.wellFormed_of_unlessBlank hc hz)
  rw [mergeTools_eq (soundTools_mergeTools ha hb) hc,
    mergeTools_eq ha (soundTools_mergeTools hb hc), countedTools_mergeTools ha hb,
    countedTools_mergeTools hb hc, hcounted]
  cases hm : Option.merge ToolRefs.union (countedTools a)
      (Option.merge ToolRefs.union (countedTools b) (countedTools c)) with
  | some r => rfl
  | none =>
    -- nothing counts in any of the three, so both sides keep what `a` says
    rw [Option.merge_eq_none_iff, Option.merge_eq_none_iff] at hm
    rw [mergeTools_eq ha hb, hm.1, hm.2.1]
    rfl

theorem mergeTools_self (ha : SoundTools a) : mergeTools a a = a := by
  rw [mergeTools_eq ha ha]
  cases hr : countedTools a with
  | none => rfl
  | some r =>
    have hjoin : a = some (some r) :=
      Option.join_eq_some_iff.1 (ToolRefs.unlessBlank_eq_some_iff.1 hr).1
    have hself : Option.merge ToolRefs.union (some r) (some r) = some r :=
      congrArg some (ToolRefs.union_self (ToolRefs.wellFormed_of_unlessBlank ha hr))
    rw [hself, hjoin]
    rfl

end

/-! ## Declarations -/

theorem merge_assoc {a b c : Declaration} (ha : SoundTools a.tools) (hb : SoundTools b.tools)
    (hc : SoundTools c.tools) : (a.merge b).merge c = a.merge (b.merge c) := by
  have htools : ((a.merge b).merge c).tools = (a.merge (b.merge c)).tools :=
    mergeTools_assoc ha hb hc
  rw [merge, merge, Declaration.mk.injEq]
  exact ⟨rfl, Option.or_assoc.symm, Option.or_assoc.symm, Option.or_assoc.symm,
    Option.or_assoc.symm, Option.or_assoc.symm, htools, Option.or_assoc.symm,
    Option.or_assoc.symm⟩

theorem merge_self {a : Declaration} (ha : SoundTools a.tools) : a.merge a = a := by
  have htools : (a.merge a).tools = a.tools := mergeTools_self ha
  obtain ⟨key, name, description, prompt, context, parameters, tools, toolMode, disabled⟩ := a
  rw [merge, Declaration.mk.injEq]
  exact ⟨rfl, Option.or_self, Option.or_self, Option.or_self, Option.or_self, Option.or_self,
    htools, Option.or_self, Option.or_self⟩

theorem soundTools_merge {a b : Declaration} (ha : SoundTools a.tools) (hb : SoundTools b.tools) :
    SoundTools (a.merge b).tools := soundTools_mergeTools ha hb

theorem soundTools_ofEntries (key : String) (es : List (Value × Value)) :
    SoundTools (ofEntries key es).tools := by
  intro r hr
  obtain ⟨v, _, hv⟩ := Option.map_eq_some_iff.1 (Option.join_eq_some_iff.1 hr)
  exact ToolRefs.wellFormed_of_ofValue? hv

end Declaration

namespace DeclarationSet

/-! ## Well-formed sets -/

/-- No key occurs twice, and the tools of every declaration are sound. -/
structure WellFormed (set : DeclarationSet) : Prop where
  nodup : set.keys.Nodup
  sound : ∀ key d, set.get? key = some d → Declaration.SoundTools d.tools

/-- Sets that are read from documents, or merged from such sets. -/
inductive Arises : DeclarationSet → Prop where
  | read (document : Value) : Arises (ofValue document)
  | merge {base overlay : DeclarationSet} :
    Arises base → Arises overlay → Arises (base.merge overlay)

theorem wellFormed_nil : WellFormed [] where
  nodup := by simp
  sound := fun key d h => by cases h

theorem wellFormed_ofValue (document : Value) : (ofValue document).WellFormed := by
  cases document with
  | map es =>
    refine ⟨nodup_keys_ofEntries _, fun key d hd => ?_⟩
    obtain ⟨⟨k, v⟩, _, hkv⟩ := List.mem_filterMap.1 (mem_of_get?_ofEntries hd)
    cases v with
    | map fields =>
      rw [← (Prod.mk.inj (Option.some.inj hkv)).2]
      exact Declaration.soundTools_ofEntries _ fields
    | _ => cases hkv
  | _ => exact wellFormed_nil

theorem wellFormed_merge {base overlay : DeclarationSet} (hb : base.WellFormed)
    (ho : overlay.WellFormed) : (base.merge overlay).WellFormed where
  nodup := nodup_keys_mergeWith hb.nodup _
  sound := by
    refine forall_get?_mergeWith (P := fun d => Declaration.SoundTools d.tools) ho.nodup ?_
      hb.sound ho.sound
    intro x y hx hy
    exact Declaration.soundTools_merge hx hy

theorem wellFormed_of_arises {set : DeclarationSet} (h : set.Arises) : set.WellFormed := by
  induction h with
  | read document => exact wellFormed_ofValue document
  | merge _ _ ihb iho => exact wellFormed_merge ihb iho

/-! ## The monoid -/

theorem merge_assoc {a b c : DeclarationSet} (ha : a.WellFormed) (hb : b.WellFormed)
    (hc : c.WellFormed) : (a.merge b).merge c = a.merge (b.merge c) :=
  mergeWith_assoc_on ha.nodup hb.nodup hc.nodup ha.sound hb.sound hc.sound
    fun _ _ _ => Declaration.merge_assoc

theorem merge_nil (a : DeclarationSet) : a.merge [] = a := rfl

theorem nil_merge {a : DeclarationSet} (ha : a.WellFormed) : merge [] a = a :=
  nil_mergeWith ha.nodup

theorem merge_self {a : DeclarationSet} (ha : a.WellFormed) : a.merge a = a :=
  mergeWith_self_on (P := fun d => Declaration.SoundTools d.tools) ha.nodup ha.sound
    fun _ => Declaration.merge_self

theorem wellFormed_foldl_merge {base : DeclarationSet} {sets : List DeclarationSet}
    (hb : base.WellFormed) (hs : ∀ set ∈ sets, set.WellFormed) :
    (sets.foldl merge base).WellFormed := by
  induction sets generalizing base with
  | nil => exact hb
  | cons set sets ih =>
    exact ih (wellFormed_merge hb (hs set List.mem_cons_self))
      fun s h => hs s (List.mem_cons_of_mem set h)

/-- Merging sets one by one into a base is merging all of them first, and the result then. -/
theorem foldl_merge {base : DeclarationSet} {sets : List DeclarationSet} (hb : base.WellFormed)
    (hs : ∀ set ∈ sets, set.WellFormed) :
    sets.foldl merge base = base.merge (sets.foldl merge []) := by
  induction sets generalizing base with
  | nil => rfl
  | cons set sets ih =>
    have hset : set.WellFormed := hs set List.mem_cons_self
    have hrest : ∀ s ∈ sets, s.WellFormed := fun s h => hs s (List.mem_cons_of_mem set h)
    have hfold : (sets.foldl merge []).WellFormed := wellFormed_foldl_merge wellFormed_nil hrest
    calc (set :: sets).foldl merge base
        = (base.merge set).merge (sets.foldl merge []) := ih (wellFormed_merge hb hset) hrest
      _ = base.merge (set.merge (sets.foldl merge [])) := merge_assoc hb hset hfold
      _ = base.merge (sets.foldl merge set) := by rw [ih hset hrest]
      _ = base.merge ((set :: sets).foldl merge []) := by rw [List.foldl_cons, nil_merge hset]

/-- **Declaration sets are an idempotent monoid.** For sets read from documents or merged from
such sets, merging is associative, the empty set is its unit on both sides, and merging the same
overlay once more changes nothing. -/
theorem merge_monoid {a b c : DeclarationSet} (ha : a.Arises) (hb : b.Arises) (hc : c.Arises) :
    (a.merge b).merge c = a.merge (b.merge c) ∧ a.merge [] = a ∧ merge [] a = a ∧
      (a.merge b).merge b = a.merge b := by
  have hwa := wellFormed_of_arises ha
  have hwb := wellFormed_of_arises hb
  refine ⟨merge_assoc hwa hwb (wellFormed_of_arises hc), merge_nil a, nil_merge hwa, ?_⟩
  rw [merge_assoc hwa hwb hwb, merge_self hwb]

/-- A document with one tool that refers to others. -/
private def referring (tools : Value) : Value :=
  .ofFields [("t", .ofFields [("tools", tools)])]

/-- Names between commas, a map and a blank text: the merged entries are those of the map laid
over the bare ones, and the blank text leaves no trace. -/
theorem merge_monoid_mixed :
    let names := ofValue (referring (.text "a, b"))
    let map := ofValue (referring (.ofFields [("b", .text "second"), ("c", .null)]))
    let blank := ofValue (referring (.text " , "))
    ((names.merge map).merge blank = names.merge (map.merge blank) ∧ names.merge [] = names ∧
      merge [] names = names ∧ (names.merge map).merge map = names.merge map) ∧
      ((names.merge map).get? "t").bind (·.tools.join) = some
        ⟨[("a", .bare), ("b", ⟨some (some "second"), some (some ""), some false⟩),
          ("c", .described "")], false⟩ :=
  ⟨merge_monoid (.read _) (.read _) (.read _), by decide +kernel⟩

end DeclarationSet

end DeclaredTools
