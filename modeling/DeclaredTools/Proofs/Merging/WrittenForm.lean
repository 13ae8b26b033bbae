/-
  The written form of tool references. A map keeps all that is said about each tool. Names between
  commas keep the names only, and of the names only what stands between blanks and commas: they
  stand for references in which there is no more (`Writable`). Reading gives such references
  (`writable_of_ofValue?`) and merging keeps them such (`writable_of_merge`), so all references that
  arise are read back from their written form (`read_back_of_arises`).
-/
import DeclaredTools.Proofs.Merging.ToolRefs
import DeclaredTools.Proofs.Text.Pieces

namespace DeclaredTools

open OrderedMap Text

/-- A set field stays set, and a null one null. -/
theorem RefEntry.ofValue_toValue (e : RefEntry) : ofValue e.toValue = e := by
  obtain ⟨description, prompt, optional⟩ := e
  rcases description with _ | _ | _ <;> rcases prompt with _ | _ | _ <;>
    rcases optional with _ | _ <;> rfl

namespace ToolRefs

/-! ## References that can be written -/

/-- If the references are compact, there are names in them, and all of these can be listed. -/
structure Writable (refs : ToolRefs) : Prop extends WellFormed refs where
  names_ne_nil : refs.compact = true → refs.names ≠ []
  listable : refs.compact = true → ∀ name ∈ refs.names, IsListable name

/-- The written form of references that are no names between commas gives each name its entry. -/
theorem entries_of_toValue (entries : OrderedMap RefEntry) :
    (entries.map fun e => (Value.text e.1, e.2.toValue)).map
      (fun e => (e.1.display, RefEntry.ofValue e.2)) = entries := by
  rw [List.map_map]
  refine (List.map_congr_left fun e _ => ?_).trans (List.map_id entries)
  show (e.1, RefEntry.ofValue e.2.toValue) = e
  rw [RefEntry.ofValue_toValue]

theorem ofValue?_toValue_of_writable {refs : ToolRefs} (h : refs.Writable) :
    ofValue? refs.toValue = some refs := by
  obtain ⟨entries, compact⟩ := refs
  unfold toValue
  cases compact with
  | true =>
    have hread : commaPieces (", ".intercalate (keys entries)) = keys entries :=
      commaPieces_intercalate (h.names_ne_nil rfl) (h.listable rfl)
    have hentries : entries = (keys entries).map fun n => (n, RefEntry.bare) :=
      entries_eq_of_compact h.toWellFormed rfl
    show some (ofNames (commaPieces (", ".intercalate (keys entries)))) = _
    rw [hread, ofNames, ← hentries, ofEntries_eq_self h.nodup]
  | false =>
    have hfields : Value.ofFields (entries.map fun e => (e.1, e.2.toValue)) =
        .map (entries.map fun e => (Value.text e.1, e.2.toValue)) := by
      unfold Value.ofFields
      rw [List.map_map]
      rfl
    show ofValue? (Value.ofFields (entries.map fun e => (e.1, e.2.toValue))) = _
    rw [hfields]
    show some (ToolRefs.mk (ofEntries ((entries.map fun e => (Value.text e.1, e.2.toValue)).map
      fun e => (e.1.display, RefEntry.ofValue e.2))) false) = _
    rw [entries_of_toValue, ofEntries_eq_self h.nodup]

/-! ## Where they come from -/

theorem writable_ofNames {names : List String} (hne : names ≠ [])
    (h : ∀ name ∈ names, IsListable name) : (ofNames names).Writable := by
  have hnames : (ofNames names).names = names.eraseDups := by
    show keys (ofEntries (names.map fun n => (n, RefEntry.bare))) = _
    rw [keys_ofEntries, List.map_map]
    exact congrArg _ (List.map_id names)
  refine ⟨wellFormed_ofNames names, fun _ => ?_, fun _ name hname => ?_⟩
  · rw [hnames]
    intro hnil
    obtain ⟨name, hname⟩ := List.exists_mem_of_ne_nil names hne
    have hmem := List.mem_eraseDups.2 hname
    rw [hnil] at hmem
    cases hmem
  · rw [hnames, List.mem_eraseDups] at hname
    exact h name hname

/-- What a value describes can be written. -/
theorem writable_of_ofValue? {v : Value} {refs : ToolRefs} (h : ofValue? v = some refs) :
    refs.Writable := by
  have hwellFormed := wellFormed_of_ofValue? h
  unfold ofValue? at h
  split at h
  · next s =>
    obtain rfl := Option.some.inj h
    exact writable_ofNames (commaPieces_ne_nil s) fun name => isListable_of_mem_commaPieces
  · obtain rfl := Option.some.inj h
    refine ⟨hwellFormed, fun hcompact => ?_, fun hcompact => ?_⟩
    all_goals exact absurd hcompact Bool.false_ne_true
  · cases h

theorem writable_union {a b : ToolRefs} (ha : a.Writable) (hb : b.Writable) :
    (a.union b).Writable := by
  have hcompact : (a.union b).compact = true → a.compact = true ∧ b.compact = true :=
    Bool.and_eq_true_iff.1
  have hnames : (a.union b).names = a.names ++ b.names.filter (· ∉ a.names) :=
    names_union a hb.toWellFormed
  refine ⟨wellFormed_union ha.toWellFormed hb.toWellFormed, fun h => ?_, fun h name hname => ?_⟩
  · rw [hnames]
    exact List.append_ne_nil_of_left_ne_nil (ha.names_ne_nil (hcompact h).1) _
  · rw [hnames, List.mem_append] at hname
    rcases hname with hname | hname
    · exact ha.listable (hcompact h).1 name hname
    · exact hb.listable (hcompact h).2 name (List.mem_of_mem_filter hname)

/-- References that are set to something can be written. -/
def AllWritable (refs : Option ToolRefs) : Prop := ∀ r, refs = some r → r.Writable

theorem allWellFormed_of_allWritable {refs : Option ToolRefs} (h : AllWritable refs) :
    AllWellFormed refs :=
  fun r hr => (h r hr).toWellFormed

theorem writable_of_merge {a b : Option ToolRefs} (ha : AllWritable a) (hb : AllWritable b) :
    AllWritable (merge a b) := by
  have hmerge := merge_eq_optionMerge (allWellFormed_of_allWritable ha)
    (allWellFormed_of_allWritable hb)
  intro r hr
  rw [hmerge] at hr
  refine forall_optionMerge (fun x hx => ?_) (fun y hy => ?_) (fun x y hx hy => ?_) r hr
  · exact ha x (unlessBlank_eq_some_iff.1 hx).1
  · exact hb y (unlessBlank_eq_some_iff.1 hy).1
  · exact writable_union hx hy

/-- What is read from values, and what is merged from such. -/
inductive Arises : Option ToolRefs → Prop where
  | read (v : Value) : Arises (ofValue? v)
  | merge {base overlay : Option ToolRefs} :
    Arises base → Arises overlay → Arises (merge base overlay)

theorem writable_of_arises {refs : Option ToolRefs} (h : Arises refs) : AllWritable refs := by
  induction h with
  | read v => exact fun r hr => writable_of_ofValue? hr
  | merge _ _ ihb iho => exact writable_of_merge ihb iho

/-- **References survive writing.** References that were read, or merged from such that were, are
read back from their written form. If they are compact, then each name can be listed, and nothing
but the name is said of its tool. -/
theorem read_back_of_arises {refs : ToolRefs} (h : Arises (some refs)) :
    ofValue? refs.toValue = some refs ∧
    (refs.compact = true → ∀ name ∈ refs.names,
      ',' ∉ name.toList ∧ IsTrimmed name.toList ∧ refs.entries.get? name = some .bare) := by
  have hwritable : refs.Writable := writable_of_arises h refs rfl
  refine ⟨ofValue?_toValue_of_writable hwritable, fun hcompact name hname => ?_⟩
  have hlistable := hwritable.listable hcompact name hname
  obtain ⟨e, he⟩ := mem_keys_iff_get?.1 hname
  have hbare : e = .bare := hwritable.bare hcompact name e he
  refine ⟨hlistable.comma_free, hlistable.trimmed, ?_⟩
  rw [he, hbare]

/-- Two lists of names, merged. -/
private def twoLists : ToolRefs := ofNames ["a", "b", "", "c"]

/-- A list of names and a map with a field that is null, merged. -/
private def noted : ToolRefs :=
  ⟨[("a", ⟨some (some ""), some none, some false⟩), ("b", .bare), ("c", .described "d")], false⟩

theorem read_back_of_arises_merged :
    ofValue? twoLists.toValue = some twoLists ∧ ofValue? noted.toValue = some noted ∧
      ∀ name ∈ twoLists.names, IsTrimmed name.toList := by
  have hlisted : Arises (some twoLists) := by
    have hmerge : merge (ofValue? (.text "a , b")) (ofValue? (.text " b,, c ")) =
        some twoLists := by
      decide +kernel
    rw [← hmerge]
    exact .merge (.read _) (.read _)
  have hnoted : Arises (some noted) := by
    have hmerge : merge (ofValue? (.text "a, b")) (ofValue? (.map [(.text "a", .map
        [(.text "prompt", .null)]), (.text "c", .text "d")])) = some noted := by
      decide +kernel
    rw [← hmerge]
    exact .merge (.read _) (.read _)
  have hback := read_back_of_arises hlisted
  exact ⟨hback.1, (read_back_of_arises hnoted).1, fun name hname => (hback.2 rfl name hname).2.1⟩

end ToolRefs

end DeclaredTools
