/-
  Chains of references. Sources are merged one after the other, starting from nothing. Only those
  count that are neither absent nor blank (`counted`), and the chain gives what these say together
  (`Unites`): their names in the order in which they first occur, and in each field of each entry
  what the last of them says that says anything there.

  Two compact references are united by their names and all others by their entries; on
  well-formed references that is one operation (`Merging.ToolRefs`), so it does not matter where in
  the chain the one gives way to the other. One step is `unites_concat`, the run `unites_chain`.
-/
import DeclaredTools.Proofs.Merging.ToolRefs

namespace DeclaredTools

open OrderedMap

/-! ## Fields of entries -/

namespace RefEntry

/-- What can be said about a tool. -/
inductive Field where
  | description
  | prompt
  | optional

namespace Field

/-- What a field holds once it is set. -/
abbrev Content : Field → Type
  | .description | .prompt => Option String
  | .optional => Bool

/-- What an entry has for the field, `none` if it is unset. -/
def of? : (f : Field) → RefEntry → Option f.Content
  | .description, e => e.description
  | .prompt, e => e.prompt
  | .optional, e => e.optional

theorem of?_merge (f : Field) (base overlay : RefEntry) :
    f.of? (base.merge overlay) = (f.of? overlay).or (f.of? base) := by
  cases f <;> rfl

end Field

end RefEntry

namespace ToolRefs

/-- What the references say in a field about the tool with the name. -/
def saidBy (name : String) (f : RefEntry.Field) (refs : ToolRefs) : Option f.Content :=
  (refs.entries.get? name).bind f.of?

/-- What the last of the sources says that says anything. -/
def lastSaid (sources : List ToolRefs) (name : String) (f : RefEntry.Field) : Option f.Content :=
  sources.reverse.findSome? (saidBy name f)

theorem saidBy_union (name : String) (f : RefEntry.Field) (a : ToolRefs) {b : ToolRefs}
    (hb : b.WellFormed) :
    saidBy name f (a.union b) = (saidBy name f b).or (saidBy name f a) := by
  have hget : (a.union b).entries.get? name =
      Option.merge RefEntry.merge (a.entries.get? name) (b.entries.get? name) :=
    get?_mergeWith a.entries hb.nodup name
  rw [saidBy, hget]
  exact bind_optionMerge f.of?_merge _ _

/-! ## What sources say together -/

/-- The references say what the sources say together, where the later ones have precedence. -/
structure Unites (sources : List ToolRefs) (refs : ToolRefs) : Prop where
  names : refs.names = (sources.flatMap ToolRefs.names).eraseDups
  compact : refs.compact = sources.all (·.compact)
  said : ∀ name f, saidBy name f refs = lastSaid sources name f

theorem unites_singleton {refs : ToolRefs} (h : refs.WellFormed) : Unites [refs] refs where
  names := by
    rw [List.flatMap_singleton]
    exact keys_eq_eraseDups h.nodup
  compact := by simp
  said := by
    intro name f
    simp [lastSaid]

/-- One more source. -/
theorem unites_concat {sources : List ToolRefs} {refs : ToolRefs} (h : Unites sources refs)
    {source : ToolRefs} (hsource : source.WellFormed) :
    Unites (sources ++ [source]) (refs.union source) where
  names := by
    rw [List.flatMap_append, List.flatMap_singleton]
    exact keys_mergeWith_eraseDups h.names (keys_eq_eraseDups hsource.nodup) hsource.nodup
  compact := by
    simp [union, h.compact]
  said := by
    intro name f
    rw [saidBy_union name f refs hsource, h.said, lastSaid, lastSaid, findSome?_reverse_concat]

/-- A field is set if some source sets it. -/
theorem Unites.isSome_saidBy_iff {sources : List ToolRefs} {refs : ToolRefs}
    (h : Unites sources refs) (name : String) (f : RefEntry.Field) :
    (saidBy name f refs).isSome = true ↔
      ∃ source ∈ sources, (saidBy name f source).isSome = true := by
  rw [h.said, lastSaid, List.findSome?_isSome_iff]
  simp only [List.mem_reverse]

theorem Unites.mem_names_iff {sources : List ToolRefs} {refs : ToolRefs}
    (h : Unites sources refs) (name : String) :
    name ∈ refs.names ↔ ∃ source ∈ sources, name ∈ source.names := by
  rw [h.names, List.mem_eraseDups, List.mem_flatMap]

/-! ## Chains -/

/-- References merged one after the other, from nothing. -/
def chain (refs : List (Option ToolRefs)) : Option ToolRefs := refs.foldl merge none

/-- The references that count in a chain: those that are neither absent nor blank. -/
def counted (refs : List (Option ToolRefs)) : List ToolRefs := refs.filterMap unlessBlank

theorem counted_concat (refs : List (Option ToolRefs)) (ref : Option ToolRefs) :
    counted (refs ++ [ref]) = counted refs ++ (unlessBlank ref).toList := by
  rw [counted, List.filterMap_append]
  cases h : unlessBlank ref <;> simp [counted, h]

theorem chain_concat (refs : List (Option ToolRefs)) (ref : Option ToolRefs) :
    chain (refs ++ [ref]) = merge (chain refs) ref := by
  rw [chain, List.foldl_append]
  rfl

/-- A chain gives well-formed references, and none that are blank. -/
theorem wellFormed_chain {refs : List (Option ToolRefs)} (h : ∀ ref ∈ refs, AllWellFormed ref) :
    AllWellFormed (chain refs) ∧ unlessBlank (chain refs) = chain refs := by
  induction refs using List.reverseRecOn with
  | nil => exact ⟨fun r hr => (nomatch hr), rfl⟩
  | append_singleton refs ref ih =>
    have hrefs := ih fun r hr => h r (List.mem_append_left [ref] hr)
    have href : AllWellFormed ref := h ref List.mem_concat_self
    rw [chain_concat]
    exact ⟨wellFormed_of_merge hrefs.1 href, unlessBlank_merge hrefs.1 href⟩

/-- The step of a chain: a source that counts is united with what the others gave. -/
theorem chain_concat_eq_optionMerge {refs : List (Option ToolRefs)} {ref : Option ToolRefs}
    (hrefs : ∀ r ∈ refs, AllWellFormed r) (href : AllWellFormed ref) :
    chain (refs ++ [ref]) = Option.merge union (chain refs) (unlessBlank ref) := by
  have hchain := wellFormed_chain hrefs
  rw [chain_concat, merge_eq_optionMerge hchain.1 href, hchain.2]

/-- The run of a chain: it gives nothing if nothing counts, or else the union of what counts. -/
theorem unites_chain {refs : List (Option ToolRefs)} (h : ∀ ref ∈ refs, AllWellFormed ref) :
    (chain refs = none ∧ counted refs = []) ∨
      ∃ merged, chain refs = some merged ∧ counted refs ≠ [] ∧ Unites (counted refs) merged := by
  induction refs using List.reverseRecOn with
  | nil => exact Or.inl ⟨rfl, rfl⟩
  | append_singleton refs ref ih =>
    have hrefs : ∀ r ∈ refs, AllWellFormed r := fun r hr => h r (List.mem_append_left [ref] hr)
    have href : AllWellFormed ref := h ref List.mem_concat_self
    rw [chain_concat_eq_optionMerge hrefs href, counted_concat]
    cases hr : unlessBlank ref with
    | none => simpa using ih hrefs
    | some r =>
      have hwellFormed : r.WellFormed := wellFormed_of_unlessBlank href hr
      right
      rcases ih hrefs with ⟨hchain, hcounted⟩ | ⟨merged, hchain, -, hunites⟩
      · rw [hchain, hcounted]
        exact ⟨r, rfl, List.cons_ne_nil r [], unites_singleton hwellFormed⟩
      · rw [hchain]
        exact ⟨merged.union r, rfl, by simp, unites_concat hunites hwellFormed⟩

/-- The names that a chain gives. -/
def chainNames (refs : List (Option ToolRefs)) : List String := ((chain refs).map names).getD []

theorem mem_chainNames_iff {refs : List (Option ToolRefs)} (h : ∀ ref ∈ refs, AllWellFormed ref)
    (name : String) : name ∈ chainNames refs ↔ ∃ source ∈ counted refs, name ∈ source.names := by
  unfold chainNames
  rcases unites_chain h with ⟨hchain, hcounted⟩ | ⟨merged, hchain, -, hunites⟩
  · simp [hchain, hcounted]
  · rw [hchain]
    exact hunites.mem_names_iff name

/-- **Chains are folds in which the last writer wins, field by field.** Of references read from any
values, those count that are neither absent nor blank. If none does, the chain gives nothing.
Otherwise it gives what they say together: their names in the order of the first occurrences,
compact if all of them are, and in each field of each entry what the last of them says that has it
set; it is set if one of them has it set. So the order of the sources does not matter for the set of
names. References are values, so no step of the chain reaches back into a source. -/
theorem chain_last_writer (values : List Value) :
    (chain (values.map ofValue?) = none ↔ counted (values.map ofValue?) = []) ∧
    (∀ merged ∈ chain (values.map ofValue?),
      Unites (counted (values.map ofValue?)) merged ∧
      ∀ name f, (saidBy name f merged).isSome = true ↔
        ∃ source ∈ counted (values.map ofValue?), (saidBy name f source).isSome = true) ∧
    ∀ others : List Value, others.Perm values → ∀ name,
      name ∈ chainNames (others.map ofValue?) ↔ name ∈ chainNames (values.map ofValue?) := by
  have hread : ∀ vs : List Value, ∀ ref ∈ vs.map ofValue?, AllWellFormed ref := by
    intro vs ref href r hr
    obtain ⟨v, -, rfl⟩ := List.mem_map.1 href
    exact wellFormed_of_ofValue? hr
  refine ⟨?_, ?_, ?_⟩
  · rcases unites_chain (hread values) with ⟨hchain, hcounted⟩ | ⟨merged, hchain, hcounted, -⟩
    · exact iff_of_true hchain hcounted
    · exact iff_of_false (by simp [hchain]) hcounted
  · intro merged hmerged
    rcases unites_chain (hread values) with ⟨hchain, -⟩ | ⟨refs, hchain, -, hunites⟩
    · rw [hchain] at hmerged
      cases hmerged
    · rw [hchain] at hmerged
      obtain rfl := Option.some.inj hmerged
      exact ⟨hunites, hunites.isSome_saidBy_iff⟩
  · intro others hperm name
    have hsources : ∀ source, source ∈ counted (others.map ofValue?) ↔
        source ∈ counted (values.map ofValue?) :=
      fun source => ((hperm.map ofValue?).filterMap unlessBlank).mem_iff
    rw [mem_chainNames_iff (hread others), mem_chainNames_iff (hread values)]
    simp only [hsources]

-- Names, a map, a blank text and names once more: the names written last fill all fields of theirs.
example :
    chain ([.text "a, b", .null, .ofFields [("c", .text "C"), ("a", .ofFields [("prompt", .null)])],
        .text " , ", .text "c"].map ofValue?) =
      some
        ⟨[("a", ⟨some (some ""), some none, some false⟩), ("b", .bare), ("c", .bare)], false⟩ := by
  decide +kernel

end ToolRefs

end DeclaredTools
