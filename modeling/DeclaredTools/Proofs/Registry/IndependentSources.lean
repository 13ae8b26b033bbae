/-
  Independent sources commute. Overlays without a common key do not interfere, even where the base
  has declarations for the keys of both: merged in either order they leave the same declaration
  under every key, though perhaps in another order of keys (`alike_mergeWith_comm`).

  No registry shows that order. Registries whose sets are alike compile the same tools with the same
  reports (`compile_eq_of_alike`), and they stay alike whatever is asked of them or merged into
  them (`alike_run`).
-/
import DeclaredTools.Proofs.Registry.KeyOrder
import DeclaredTools.Proofs.Registry.Snapshot

namespace DeclaredTools

open OrderedMap

namespace OrderedMap

variable {α : Type}

/-- Lists with nothing in common can change places only if one of them is empty. -/
theorem append_comm_iff_of_disjoint {xs ys : List α} (h : xs.Disjoint ys) :
    xs ++ ys = ys ++ xs ↔ xs = [] ∨ ys = [] := by
  cases xs with
  | nil => simp
  | cons x xs =>
    cases ys with
    | nil => simp
    | cons y ys =>
      refine iff_of_false (fun heads => ?_) (by simp)
      have hxy : x = y := (List.cons.inj heads).1
      exact h List.mem_cons_self (hxy ▸ List.mem_cons_self)

/-! ## Maps up to the order of their names -/

/-- The same is under every name, whatever the order of the names. -/
structure Alike (m m' : OrderedMap α) : Prop where
  nodup : m.keys.Nodup
  nodup' : m'.keys.Nodup
  get?_eq : ∀ name, m.get? name = m'.get? name

theorem mem_iff_get? {m : OrderedMap α} (hm : m.keys.Nodup) (e : String × α) :
    e ∈ m ↔ m.get? e.1 = some e.2 :=
  ⟨get?_eq_some_of_mem hm, mem_of_get?⟩

theorem Alike.mem_iff {m m' : OrderedMap α} (h : Alike m m') (e : String × α) :
    e ∈ m ↔ e ∈ m' := by
  rw [mem_iff_get? h.nodup, mem_iff_get? h.nodup', h.get?_eq]

theorem Alike.perm_keys {m m' : OrderedMap α} (h : Alike m m') : m.keys.Perm m'.keys := by
  refine (List.perm_ext_iff_of_nodup h.nodup h.nodup').2 fun name => ?_
  rw [mem_keys_iff_get?, mem_keys_iff_get?, h.get?_eq]

theorem Alike.insert {m m' : OrderedMap α} (h : Alike m m') (name : String) (a : α) :
    Alike (m.insert name a) (m'.insert name a) where
  nodup := nodup_keys_insert h.nodup name a
  nodup' := nodup_keys_insert h.nodup' name a
  get?_eq other := by rw [get?_insert, get?_insert, h.get?_eq]

section Merge

variable {combine : α → α → α}

/-- Each entry of an overlay is combined with the same in both maps. -/
theorem Alike.mergeWith {m m' : OrderedMap α} (h : Alike m m') (overlay : OrderedMap α) :
    Alike (m.mergeWith combine overlay) (m'.mergeWith combine overlay) := by
  induction overlay generalizing m m' with
  | nil => exact h
  | cons e overlay ih =>
    obtain ⟨name, a⟩ := e
    rw [mergeWith_cons, mergeWith_cons, h.get?_eq]
    exact ih (h.insert name _)

/-- Overlays without a common name can be merged in either order. -/
theorem alike_mergeWith_comm {a b c : OrderedMap α} (ha : a.keys.Nodup) (hb : b.keys.Nodup)
    (hc : c.keys.Nodup) (hbc : b.keys.Disjoint c.keys) :
    Alike ((a.mergeWith combine b).mergeWith combine c)
      ((a.mergeWith combine c).mergeWith combine b) where
  nodup := nodup_keys_mergeWith (nodup_keys_mergeWith ha b) c
  nodup' := nodup_keys_mergeWith (nodup_keys_mergeWith ha c) b
  get?_eq name := by
    rw [get?_mergeWith _ hc, get?_mergeWith _ hb, get?_mergeWith _ hb, get?_mergeWith _ hc]
    by_cases hname : name ∈ b.keys
    · have hnone : c.get? name = none := get?_eq_none_iff.2 (hbc hname)
      rw [hnone, Option.merge_none_right, Option.merge_none_right]
    · have hnone : b.get? name = none := get?_eq_none_iff.2 hname
      rw [hnone, Option.merge_none_right, Option.merge_none_right]

/-- The names that two such overlays add change places. -/
theorem keys_mergeWith_mergeWith {a b c : OrderedMap α} (hb : b.keys.Nodup) (hc : c.keys.Nodup)
    (hbc : b.keys.Disjoint c.keys) :
    ((a.mergeWith combine b).mergeWith combine c).keys =
      a.keys ++ b.keys.filter (· ∉ a.keys) ++ c.keys.filter (· ∉ a.keys) := by
  have hnew : c.keys.filter (· ∉ (a.mergeWith combine b).keys) =
      c.keys.filter (· ∉ a.keys) := by
    apply List.filter_congr
    intro name hname
    have hname' : name ∉ b.keys := fun h => hbc h hname
    simp [keys_mergeWith a hb, hname']
  rw [keys_mergeWith _ hc, hnew, keys_mergeWith a hb]

/-- Their order depends on the order of merging unless one of the two adds no name. -/
theorem keys_mergeWith_comm_iff {a b c : OrderedMap α} (hb : b.keys.Nodup) (hc : c.keys.Nodup)
    (hbc : b.keys.Disjoint c.keys) :
    ((a.mergeWith combine b).mergeWith combine c).keys =
        ((a.mergeWith combine c).mergeWith combine b).keys ↔
      b.keys ⊆ a.keys ∨ c.keys ⊆ a.keys := by
  have hdisjoint : (b.keys.filter (· ∉ a.keys)).Disjoint (c.keys.filter (· ∉ a.keys)) :=
    fun name hnb hnc => hbc (List.mem_of_mem_filter hnb) (List.mem_of_mem_filter hnc)
  have hcb : c.keys.Disjoint b.keys := fun _ hnc hnb => hbc hnb hnc
  have hnone : ∀ names : List String, names.filter (· ∉ a.keys) = [] ↔ names ⊆ a.keys := by
    intro names
    rw [List.filter_eq_nil_iff]
    simp only [decide_not, Bool.not_eq_true', decide_eq_false_iff_not, not_not]
    exact Iff.rfl
  rw [keys_mergeWith_mergeWith hb hc hbc, keys_mergeWith_mergeWith hc hb hcb,
    List.append_assoc, List.append_assoc, List.append_cancel_left_eq,
    append_comm_iff_of_disjoint hdisjoint, hnone, hnone]

end Merge

end OrderedMap

namespace ToolTable

theorem compile_eq_of_alike {set other : DeclarationSet} (h : OrderedMap.Alike set other) :
    compile set = compile other := by
  rw [compile, compile, inKeyOrder_eq_of_mem_iff h.nodup h.nodup' h.mem_iff]

end ToolTable

namespace Registry

/-! ## Registries up to the order of their declarations -/

/-- The same declarations up to their order, and the same tools if these are compiled. -/
structure Alike (r r' : Registry) : Prop where
  declarations : OrderedMap.Alike r.declarations r'.declarations
  compiled : r.compiled = r'.compiled

theorem alike_ofSet {set other : DeclarationSet} (h : OrderedMap.Alike set other) :
    Alike (ofSet set) (ofSet other) := ⟨h, rfl⟩

section

variable {r r' : Registry}

theorem Alike.tools_eq (h : Alike r r') : r.tools = r'.tools := by
  rw [tools, tools, h.compiled, ToolTable.compile_eq_of_alike h.declarations]

theorem Alike.list_eq (h : Alike r r') : r.list = r'.list := by
  rw [list, list, h.tools_eq]

theorem Alike.get_eq (h : Alike r r') (name : String) : r.get name = r'.get name := by
  rw [get, get, h.tools_eq]

theorem Alike.invoke_eq (h : Alike r r') (name : String) (arguments : Value) :
    r.invoke name arguments = r'.invoke name arguments := by
  rw [invoke, invoke, h.get_eq]

/-- Whatever is done with alike registries, they stay alike. -/
theorem Alike.after (h : Alike r r') (action : Action) :
    Alike (r.after action) (r'.after action) := by
  cases action with
  | ask request => exact ⟨h.declarations, congrArg (·.outcome.toOption) h.tools_eq⟩
  | merge overlay => exact ⟨h.declarations.mergeWith overlay, h.compiled⟩

theorem Alike.run (h : Alike r r') (actions : List Action) :
    Alike (r.run actions) (r'.run actions) := by
  induction actions generalizing r r' with
  | nil => exact h
  | cons action actions ih => exact ih (h.after action)

end

/-- **Independent sources commute.** Let two sets without a common key be merged into a third one,
which may have keys of both. In either order this makes registries with the same tools in the same
order, and with the same reports, warnings among them; they answer every request alike, at first
and after any actions. The keys of the merged sets may stand in different orders: they do unless
one of the two sets adds no key. -/
theorem independent_sources_commute {a b c : DeclarationSet} (ha : a.keys.Nodup)
    (hb : b.keys.Nodup) (hc : c.keys.Nodup) (hbc : b.keys.Disjoint c.keys)
    (actions : List Action) :
    let r := (ofSet ((a.merge b).merge c)).run actions
    let r' := (ofSet ((a.merge c).merge b)).run actions
    r.tools = r'.tools ∧ r.list = r'.list ∧ (∀ name, r.get name = r'.get name) ∧
    (∀ name arguments, r.invoke name arguments = r'.invoke name arguments) ∧
    ((a.merge b).merge c).keys.Perm ((a.merge c).merge b).keys ∧
    (((a.merge b).merge c).keys = ((a.merge c).merge b).keys ↔
      b.keys ⊆ a.keys ∨ c.keys ⊆ a.keys) := by
  have hsets : OrderedMap.Alike ((a.merge b).merge c) ((a.merge c).merge b) :=
    alike_mergeWith_comm ha hb hc hbc
  have halike := (alike_ofSet hsets).run actions
  refine ⟨halike.tools_eq, halike.list_eq, halike.get_eq, halike.invoke_eq, hsets.perm_keys, ?_⟩
  exact keys_mergeWith_comm_iff hb hc hbc

/-- One tool of a document: its key and its fields. -/
private def declaring (key : String) (fields : List (String × Value)) : Value × Value :=
  (.text key, .ofFields fields)

/-- Tools that refer to others, and then two documents that each override one of them and call one
of their own by the name of the first. -/
private def referring : DeclarationSet := .ofValue (.map [
  declaring "m" [("tools", .text "a, b"), ("prompt", .text "old")],
  declaring "n" [("tools", .ofFields [("a", .text "first")])]])

private def overM : DeclarationSet := .ofValue (.map [
  declaring "z" [("name", .text "m")], declaring "m" [("tools", .text "c"), ("context", .null)]])

private def overN : DeclarationSet := .ofValue (.map [
  declaring "y" [("name", .text "m")], declaring "n" [("tools", .text "b")]])

theorem independent_sources_commute_referring :
    ((referring.merge overM).merge overN).compiles = true ∧
    (ofSet ((referring.merge overM).merge overN)).list =
      (ofSet ((referring.merge overN).merge overM)).list ∧
    (∀ name arguments, (ofSet ((referring.merge overM).merge overN)).invoke name arguments =
      (ofSet ((referring.merge overN).merge overM)).invoke name arguments) ∧
    ((referring.merge overM).merge overN).keys = ["m", "n", "z", "y"] ∧
    ((referring.merge overN).merge overM).keys = ["m", "n", "y", "z"] := by
  have hkeysM : overM.keys = ["z", "m"] := by decide +kernel
  have hkeysN : overN.keys = ["y", "n"] := by decide +kernel
  have hdisjoint : overM.keys.Disjoint overN.keys := by
    rw [hkeysM, hkeysN]
    simp
  have hcommute := independent_sources_commute (a := referring) (b := overM) (c := overN)
    (by decide +kernel) (by rw [hkeysM]; decide) (by rw [hkeysN]; decide) hdisjoint []
  have hcompiles : ((referring.merge overM).merge overN).compiles = true :=
    DeclarationSet.compiles_iff.2 ⟨rfl, rfl⟩
  exact ⟨hcompiles, hcommute.2.1, hcommute.2.2.2.1, by decide +kernel, by decide +kernel⟩

end Registry

end DeclaredTools
