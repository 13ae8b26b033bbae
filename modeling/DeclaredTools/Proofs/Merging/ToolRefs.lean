/-
  Merging of tool references. On well-formed references both ways of merging, the union of names
  and the merge of entries, are one operation (`union`), and absent or blank references are its
  unit: `merge_eq_optionMerge`. The algebra of `merge` follows from that of `OrderedMap.mergeWith`.

  Reading gives well-formed references (`wellFormed_of_ofValue?`), and merging keeps them so
  (`wellFormed_of_merge`).
-/
import DeclaredTools.Declaration.ToolRefs
import DeclaredTools.Proofs.OrderedMap

namespace DeclaredTools

open OrderedMap

/-! ## Entries -/

namespace RefEntry

theorem merge_assoc (a b c : RefEntry) : (a.merge b).merge c = a.merge (b.merge c) := by
  simp [merge, Option.or_assoc]

/-- All fields of a bare entry are set, so nothing of the base is left. -/
theorem merge_bare (e : RefEntry) : e.merge bare = bare := rfl

theorem merge_self (e : RefEntry) : e.merge e = e := by
  simp [merge]

end RefEntry

namespace ToolRefs

/-! ## Well-formed references -/

/-- No name occurs twice, and compact references say nothing but names. -/
structure WellFormed (refs : ToolRefs) : Prop where
  nodup : refs.entries.keys.Nodup
  bare : refs.compact = true → ∀ name e, refs.entries.get? name = some e → e = .bare

theorem wellFormed_ofNames (names : List String) : (ofNames names).WellFormed where
  nodup := nodup_keys_ofEntries _
  bare := by
    intro _ name e he
    obtain ⟨n, _, hn⟩ := List.mem_map.1 (mem_of_get?_ofEntries he)
    exact (Prod.mk.inj hn).2.symm

theorem wellFormed_of_ofValue? {v : Value} {refs : ToolRefs} (h : ofValue? v = some refs) :
    refs.WellFormed := by
  unfold ofValue? at h
  split at h
  · rw [← Option.some.inj h]
    exact wellFormed_ofNames _
  · rw [← Option.some.inj h]
    exact ⟨nodup_keys_ofEntries _, fun hc => by simp at hc⟩
  · cases h

theorem unlessBlank_eq_some_iff {refs : Option ToolRefs} {r : ToolRefs} :
    unlessBlank refs = some r ↔ refs = some r ∧ r.isBlank = false := by
  unfold unlessBlank
  rw [Option.filter_eq_some_iff, Bool.not_eq_true']

/-! ## The union of two references -/

/-- The entries of both, compact if both are. -/
def union (a b : ToolRefs) : ToolRefs := ⟨mergeEntries a.entries b.entries, a.compact && b.compact⟩

theorem wellFormed_union {a b : ToolRefs} (ha : a.WellFormed) (hb : b.WellFormed) :
    (a.union b).WellFormed where
  nodup := nodup_keys_mergeWith ha.nodup _
  bare := by
    intro hc
    have hcompact : a.compact = true ∧ b.compact = true := by simpa [union] using hc
    refine forall_get?_mergeWith (P := (· = .bare)) hb.nodup ?_ (ha.bare hcompact.1)
      (hb.bare hcompact.2)
    intro x y _ hy
    rw [hy, RefEntry.merge_bare]

theorem union_assoc {a b c : ToolRefs} (ha : a.WellFormed) (hb : b.WellFormed)
    (hc : c.WellFormed) : (a.union b).union c = a.union (b.union c) := by
  have hentries := mergeWith_assoc_on (P := fun _ => True) ha.nodup hb.nodup hc.nodup
    (fun _ _ _ => trivial) (fun _ _ _ => trivial) (fun _ _ _ => trivial)
    (fun x y z _ _ _ => RefEntry.merge_assoc x y z)
  simp only [union, mergeEntries, hentries, Bool.and_assoc]

theorem union_self {a : ToolRefs} (ha : a.WellFormed) : a.union a = a := by
  have hentries : mergeEntries a.entries a.entries = a.entries :=
    mergeWith_self_on (P := fun _ => True) ha.nodup (fun _ _ _ => trivial)
      fun e _ => RefEntry.merge_self e
  simp only [union, hentries, Bool.and_self]

theorem names_union (a : ToolRefs) {b : ToolRefs} (hb : b.WellFormed) :
    (a.union b).names = a.names ++ b.names.filter (· ∉ a.names) :=
  keys_mergeWith _ hb.nodup

theorem isBlank_union {a b : ToolRefs} (hb : b.WellFormed) (h : a.isBlank = false) :
    (a.union b).isBlank = false := by
  -- a name of `a` that is not empty is a name of the union
  have hall : a.names.all (· == "") = false → (a.union b).names.all (· == "") = false := by
    intro hfalse
    rw [names_union a hb, List.all_append, hfalse, Bool.false_and]
  simp only [isBlank, Bool.and_eq_false_iff] at h ⊢
  rcases h with hcompact | hnames
  · exact Or.inl (by simp [union, hcompact])
  · exact Or.inr (hall hnames)

/-- The entries of compact references are those of their names. -/
theorem entries_eq_of_compact {a : ToolRefs} (ha : a.WellFormed) (hc : a.compact = true) :
    a.entries = a.names.map fun n => (n, .bare) := by
  have hkeys : keys (a.names.map fun n => (n, RefEntry.bare)) = a.names := by
    simp [keys, Function.comp_def]
  refine ext_of_get? ha.nodup hkeys.symm fun name => ?_
  have hnodup : (keys (a.names.map fun n => (n, RefEntry.bare))).Nodup := by
    rw [hkeys]
    exact ha.nodup
  cases he : a.entries.get? name with
  | none =>
    symm
    rw [get?_eq_none_iff, hkeys]
    exact get?_eq_none_iff.1 he
  | some e =>
    symm
    have hmem : name ∈ a.names := mem_keys_iff_get?.2 ⟨e, he⟩
    rw [ha.bare hc name e he]
    exact get?_eq_some_of_mem hnodup (List.mem_map_of_mem hmem)

/-- Two compact references are united by uniting their names. -/
theorem ofNames_append_eq_union {a b : ToolRefs} (ha : a.WellFormed) (hb : b.WellFormed)
    (hca : a.compact = true) (hcb : b.compact = true) :
    ofNames (a.names ++ b.names) = a.union b := by
  have hentries : ofEntries ((a.names ++ b.names).map fun n => (n, RefEntry.bare)) =
      mergeEntries a.entries b.entries := by
    calc ofEntries ((a.names ++ b.names).map fun n => (n, RefEntry.bare))
        = insertAll (ofEntries a.entries) b.entries := by
          rw [List.map_append, ← entries_eq_of_compact ha hca, ← entries_eq_of_compact hb hcb]
          exact insertAll_append _ _ _
      _ = a.entries.mergeWith (fun _ e => e) b.entries := by
          rw [ofEntries_eq_self ha.nodup, insertAll_eq_mergeWith]
      _ = mergeEntries a.entries b.entries := by
          refine mergeWith_congr ha.nodup hb.nodup fun name x y _ hy => ?_
          rw [hb.bare hcb name y hy, RefEntry.merge_bare]
  simp only [ofNames, union, hentries, hca, hcb, Bool.and_self]

/-! ## Merging -/

/-- References that are set to something are well formed. -/
def AllWellFormed (refs : Option ToolRefs) : Prop := ∀ r, refs = some r → r.WellFormed

theorem wellFormed_of_unlessBlank {refs : Option ToolRefs} (h : AllWellFormed refs)
    {r : ToolRefs} (hr : unlessBlank refs = some r) : r.WellFormed :=
  h r (unlessBlank_eq_some_iff.1 hr).1

/-- What is neither absent nor blank is united. -/
theorem merge_eq_optionMerge {a b : Option ToolRefs} (ha : AllWellFormed a)
    (hb : AllWellFormed b) :
    merge a b = Option.merge union (unlessBlank a) (unlessBlank b) := by
  unfold merge
  cases hx : unlessBlank a with
  | none => cases unlessBlank b <;> rfl
  | some x =>
    cases hy : unlessBlank b with
    | none => rfl
    | some y =>
      have hwx := wellFormed_of_unlessBlank ha hx
      have hwy := wellFormed_of_unlessBlank hb hy
      dsimp only [Option.merge]
      split
      · next hc =>
        rw [Bool.and_eq_true] at hc
        rw [ofNames_append_eq_union hwx hwy hc.1 hc.2]
      · next hc =>
        rw [Bool.not_eq_true] at hc
        rw [union, hc]

theorem wellFormed_of_merge {a b : Option ToolRefs} (ha : AllWellFormed a)
    (hb : AllWellFormed b) : AllWellFormed (merge a b) := by
  intro r hr
  rw [merge_eq_optionMerge ha hb] at hr
  exact forall_optionMerge (fun _ => wellFormed_of_unlessBlank ha)
    (fun _ => wellFormed_of_unlessBlank hb) (fun _ _ => wellFormed_union) r hr

/-- Merged references are not blank. -/
theorem unlessBlank_merge {a b : Option ToolRefs} (ha : AllWellFormed a) (hb : AllWellFormed b) :
    unlessBlank (merge a b) = merge a b := by
  have hnot : ∀ r, merge a b = some r → r.WellFormed ∧ r.isBlank = false := by
    rw [merge_eq_optionMerge ha hb]
    refine forall_optionMerge (fun x hx => ?_) (fun y hy => ?_) fun x y hx hy => ?_
    · exact ⟨wellFormed_of_unlessBlank ha hx, (unlessBlank_eq_some_iff.1 hx).2⟩
    · exact ⟨wellFormed_of_unlessBlank hb hy, (unlessBlank_eq_some_iff.1 hy).2⟩
    · exact ⟨wellFormed_union hx.1 hy.1, isBlank_union hy.1 hx.2⟩
  cases hm : merge a b with
  | none => rfl
  | some r => exact unlessBlank_eq_some_iff.2 ⟨rfl, (hnot r hm).2⟩

end ToolRefs

end DeclaredTools
