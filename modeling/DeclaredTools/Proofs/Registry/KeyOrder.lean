/-
  The order in which declarations are compiled. Distinct keys stand in it strictly one below the
  other (`pairwise_inKeyOrder`), so it depends only on which declarations there are, not on the
  order in which they came into the set (`inKeyOrder_eq_of_mem_iff`). The tools depend on the
  enabled declarations alone (`enabledInOrder_eq_of_mem_iff`).
-/
import DeclaredTools.Proofs.Registry.Table

namespace DeclaredTools

open OrderedMap

namespace OrderedMap

variable {α : Type}

/-- Under distinct keys there is one value each. -/
theorem eq_of_mem_of_mem {m : OrderedMap α} (hm : m.keys.Nodup) {name : String} {a b : α}
    (ha : (name, a) ∈ m) (hb : (name, b) ∈ m) : a = b := by
  have hget := get?_eq_some_of_mem hm ha
  rw [get?_eq_some_of_mem hm hb] at hget
  exact (Option.some.inj hget).symm

/-- Entries in the order of their keys are determined by which entries there are. -/
theorem eq_of_pairwise_lt {m m' : OrderedMap α} (hm : m.Pairwise fun a b => a.1 < b.1)
    (hm' : m'.Pairwise fun a b => a.1 < b.1) (hmem : ∀ e, e ∈ m ↔ e ∈ m') : m = m' := by
  have hdistinct : ∀ {a b : String × α}, a.1 < b.1 → a ≠ b := by
    rintro a b hlt rfl
    exact lt_irrefl _ hlt
  have hperm : m.Perm m' :=
    (List.perm_ext_iff_of_nodup (hm.imp hdistinct) (hm'.imp hdistinct)).2 hmem
  refine hperm.eq_of_pairwise ?_ hm hm'
  intro a b _ _ hab hba
  exact absurd hba (lt_asymm hab)

/-- Behind an entry there are the greater keys, and before it the smaller ones. -/
theorem mem_front_iff {front back : OrderedMap α} {e : String × α}
    (h : (front ++ e :: back).Pairwise fun a b => a.1 < b.1) (other : String × α) :
    other ∈ front ↔ other ∈ front ++ e :: back ∧ other.1 < e.1 := by
  obtain ⟨_, hback, hacross⟩ := List.pairwise_append.1 h
  constructor
  · intro hother
    exact ⟨List.mem_append_left _ hother, hacross other hother e List.mem_cons_self⟩
  · rintro ⟨hother, hlt⟩
    rcases List.mem_append.1 hother with hfront | hrest
    · exact hfront
    · rcases List.mem_cons.1 hrest with rfl | hmem
      · exact absurd hlt (lt_irrefl _)
      · exact absurd hlt (lt_asymm ((List.pairwise_cons.1 hback).1 other hmem))

end OrderedMap

namespace ToolTable

theorem mem_inKeyOrder {set : DeclarationSet} {e : String × Declaration} :
    e ∈ inKeyOrder set ↔ e ∈ set := List.mem_mergeSort

theorem pairwise_inKeyOrder {set : DeclarationSet} (h : set.keys.Nodup) :
    (inKeyOrder set).Pairwise fun a b => a.1 < b.1 := pairwise_lt_mergeSort h

/-- The order of insertion does not matter. -/
theorem inKeyOrder_eq_of_mem_iff {set other : DeclarationSet} (h : set.keys.Nodup)
    (hother : other.keys.Nodup) (hmem : ∀ e, e ∈ set ↔ e ∈ other) :
    inKeyOrder set = inKeyOrder other := by
  refine eq_of_pairwise_lt (pairwise_inKeyOrder h) (pairwise_inKeyOrder hother) fun e => ?_
  rw [mem_inKeyOrder, mem_inKeyOrder, hmem]

end ToolTable

namespace DeclarationSet

open ToolTable

/-! ## Enabled declarations in the order of their keys -/

/-- The enabled declarations in the order in which they are compiled. -/
def enabledInOrder (set : DeclarationSet) : List (String × Declaration) :=
  (inKeyOrder set).filter fun e => e.2.isEnabled

theorem mem_enabledInOrder {set : DeclarationSet} {e : String × Declaration} :
    e ∈ set.enabledInOrder ↔ e ∈ set ∧ e.2.isEnabled = true := by
  rw [enabledInOrder, List.mem_filter, mem_inKeyOrder]

theorem pairwise_enabledInOrder {set : DeclarationSet} (h : set.keys.Nodup) :
    set.enabledInOrder.Pairwise fun a b => a.1 < b.1 := (pairwise_inKeyOrder h).filter _

theorem enabledInOrder_eq_of_mem_iff {set other : DeclarationSet} (h : set.keys.Nodup)
    (hother : other.keys.Nodup)
    (hmem : ∀ e : String × Declaration, e.2.isEnabled = true → (e ∈ set ↔ e ∈ other)) :
    set.enabledInOrder = other.enabledInOrder := by
  refine eq_of_pairwise_lt (pairwise_enabledInOrder h) (pairwise_enabledInOrder hother) fun e => ?_
  rw [mem_enabledInOrder, mem_enabledInOrder]
  exact and_congr_left (hmem e)

theorem length_enabledInOrder (set : DeclarationSet) :
    set.enabledInOrder.length = (set.filter fun e => e.2.isEnabled).length :=
  ((List.mergeSort_perm set _).filter _).length_eq

/-- Only enabled declarations keep a set from being compiled. -/
theorem obstacle_eq_findSome? (set : DeclarationSet) :
    set.obstacle = set.enabledInOrder.findSome? fun e => e.2.obstacle := by
  rw [obstacle, enabledInOrder]
  induction inKeyOrder set with
  | nil => rfl
  | cons e entries ih =>
    rw [List.findSome?_cons, List.filter_cons, Declaration.activeObstacle, ih]
    cases e.2.isEnabled with
    | false => rfl
    | true => rw [if_pos rfl, if_pos rfl, List.findSome?_cons]

end DeclarationSet

end DeclaredTools
