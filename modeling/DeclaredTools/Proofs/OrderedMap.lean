/-
  Ordered maps under merging. A map with distinct names is determined by the order of its names
  and by what is under each of them (`ext_of_get?`). `mergeWith` is described in these two terms
  (`keys_mergeWith`, `get?_mergeWith`), and its algebra is read off from there.

  The laws of `mergeWith` are relative to a predicate on the values: the combination of two values
  need be associative, or idempotent, on values of that kind only.
-/
import DeclaredTools.OrderedMap
import Mathlib.Data.List.Induction
import Mathlib.Data.List.Nodup
import Mathlib.Data.String.Basic

namespace DeclaredTools

/-! ## What may be absent -/

section Optional

variable {α : Type} {combine : α → α → α}

theorem optionMerge_assoc_on {x y z : Option α}
    (h : ∀ a b c, x = some a → y = some b → z = some c →
      combine (combine a b) c = combine a (combine b c)) :
    Option.merge combine (Option.merge combine x y) z =
      Option.merge combine x (Option.merge combine y z) := by
  cases x with
  | none => cases y <;> cases z <;> rfl
  | some a =>
    cases y with
    | none => cases z <;> rfl
    | some b =>
      cases z with
      | none => rfl
      | some c => exact congrArg some (h a b c rfl rfl rfl)

/-- What is put together from values of one kind is of that kind. -/
theorem forall_optionMerge {P : α → Prop} {x y : Option α} (hx : ∀ a, x = some a → P a)
    (hy : ∀ b, y = some b → P b) (hcombine : ∀ a b, P a → P b → P (combine a b)) (c : α)
    (hc : Option.merge combine x y = some c) : P c := by
  cases x with
  | none =>
    cases y with
    | none => cases hc
    | some b => exact Option.some.inj hc ▸ hy b rfl
  | some a =>
    cases y with
    | none => exact Option.some.inj hc ▸ hx a rfl
    | some b => exact Option.some.inj hc ▸ hcombine a b (hx a rfl) (hy b rfl)

/-- A part for which the second of two values has precedence has it for values that may be absent,
too. -/
theorem bind_optionMerge {β : Type} {part : α → Option β}
    (h : ∀ a b, part (combine a b) = (part b).or (part a)) (x y : Option α) :
    (Option.merge combine x y).bind part = (y.bind part).or (x.bind part) := by
  cases x with
  | none => cases y <;> simp [Option.merge]
  | some a =>
    cases y with
    | none => rfl
    | some b => exact h a b

/-- The last element that gives something: the one at the end, if it does. -/
theorem findSome?_reverse_concat {β : Type} (f : α → Option β) (xs : List α) (x : α) :
    (xs ++ [x]).reverse.findSome? f = (f x).or (xs.reverse.findSome? f) := by
  rw [List.reverse_append, List.findSome?_append]
  cases hx : f x <;> simp [hx]

end Optional

namespace OrderedMap

variable {α : Type}

/-! ## Names and values -/

@[simp] theorem keys_nil : keys ([] : OrderedMap α) = [] := rfl

@[simp] theorem keys_cons (name : String) (a : α) (m : OrderedMap α) :
    keys ((name, a) :: m) = name :: keys m := rfl

theorem get?_cons (n name : String) (a : α) (m : OrderedMap α) :
    get? name ((n, a) :: m) = if n = name then some a else get? name m := rfl

theorem get?_append (m m' : OrderedMap α) (name : String) :
    get? name (m ++ m') = (get? name m).or (get? name m') := by
  induction m with
  | nil => rfl
  | cons e m ih =>
    obtain ⟨n, a⟩ := e
    rw [List.cons_append, get?_cons, get?_cons]
    by_cases hn : n = name
    · rw [if_pos hn, if_pos hn, Option.some_or]
    · rw [if_neg hn, if_neg hn, ih]

theorem get?_eq_none_iff {m : OrderedMap α} {name : String} :
    m.get? name = none ↔ name ∉ m.keys := by
  rw [mem_keys_iff_get?, ← Option.isSome_iff_exists, Option.not_isSome_iff_eq_none]

theorem get?_eq_some_of_mem {m : OrderedMap α} (hm : m.keys.Nodup) {name : String} {a : α}
    (h : (name, a) ∈ m) : m.get? name = some a := by
  induction m with
  | nil => simp at h
  | cons e m ih =>
    obtain ⟨n, b⟩ := e
    rw [keys_cons, List.nodup_cons] at hm
    rw [get?_cons]
    rcases List.mem_cons.1 h with he | hmem
    · obtain ⟨rfl, rfl⟩ := Prod.mk.inj he
      rw [if_pos rfl]
    · have hname : name ∈ keys m := List.mem_map_of_mem hmem
      have hne : n ≠ name := fun hn => hm.1 (hn ▸ hname)
      rw [if_neg hne, ih hm.2 hmem]

theorem mem_of_get? {m : OrderedMap α} {name : String} {a : α} (h : m.get? name = some a) :
    (name, a) ∈ m := by
  induction m with
  | nil => cases h
  | cons e m ih =>
    obtain ⟨n, b⟩ := e
    rw [get?_cons] at h
    split at h
    · next hn =>
      rw [hn, Option.some.inj h]
      exact List.mem_cons_self
    · exact List.mem_cons_of_mem _ (ih h)

/-- Maps with distinct names are equal if their names stand in one order and each name has the
same value in both. -/
theorem ext_of_get? {m m' : OrderedMap α} (hm : m.keys.Nodup) (hkeys : m.keys = m'.keys)
    (hget : ∀ name, m.get? name = m'.get? name) : m = m' := by
  induction m generalizing m' with
  | nil =>
    cases m' with
    | nil => rfl
    | cons e m' => simp [keys] at hkeys
  | cons e m ih =>
    obtain ⟨n, a⟩ := e
    cases m' with
    | nil => simp [keys] at hkeys
    | cons e' m' =>
      obtain ⟨n', a'⟩ := e'
      rw [keys_cons, List.nodup_cons] at hm
      rw [keys_cons, keys_cons] at hkeys
      obtain ⟨rfl, htail⟩ := List.cons.inj hkeys
      have hhead : a = a' := by simpa [get?_cons] using hget n
      have hm' : n ∉ keys m' := htail ▸ hm.1
      rw [hhead, ih hm.2 htail]
      intro name
      by_cases hn : n = name
      · rw [← hn, get?_eq_none_iff.2 hm.1, get?_eq_none_iff.2 hm']
      · simpa [get?_cons, hn] using hget name

/-! ## Merging -/

section Merge

variable {combine : α → α → α}

theorem mergeWith_cons (base overlay : OrderedMap α) (name : String) (a : α) :
    base.mergeWith combine ((name, a) :: overlay) =
      (base.insert name (match base.get? name with
        | some old => combine old a
        | none => a)).mergeWith combine overlay := rfl

@[simp] theorem mergeWith_nil (base : OrderedMap α) : base.mergeWith combine [] = base := rfl

theorem nodup_keys_mergeWith {base : OrderedMap α} (h : base.keys.Nodup)
    (overlay : OrderedMap α) : (base.mergeWith combine overlay).keys.Nodup := by
  induction overlay generalizing base with
  | nil => exact h
  | cons e overlay ih => exact ih (nodup_keys_insert h e.1 _)

/-- The names of the base come first, then the new ones of the overlay. -/
theorem keys_mergeWith (base : OrderedMap α) {overlay : OrderedMap α} (h : overlay.keys.Nodup) :
    (base.mergeWith combine overlay).keys =
      base.keys ++ overlay.keys.filter (· ∉ base.keys) := by
  induction overlay generalizing base with
  | nil => simp
  | cons e overlay ih =>
    obtain ⟨name, a⟩ := e
    rw [keys_cons, List.nodup_cons] at h
    rw [mergeWith_cons, ih _ h.2, keys_insert, keys_cons]
    split
    · next hn => simp [hn]
    · next hn =>
      -- `name` occurs once in the overlay, so it filters out nothing behind it
      have hrest : (keys overlay).filter (fun n => decide (n ∉ keys base ++ [name])) =
          (keys overlay).filter (fun n => decide (n ∉ keys base)) := by
        apply List.filter_congr
        intro n hmem
        have hne : n ≠ name := fun he => h.1 (he ▸ hmem)
        simp [hne]
      rw [hrest, List.filter_cons_of_pos (by simpa using hn), List.append_assoc]
      rfl

/-- What is under a name in both maps is combined. -/
theorem get?_mergeWith (base : OrderedMap α) {overlay : OrderedMap α} (h : overlay.keys.Nodup)
    (name : String) :
    (base.mergeWith combine overlay).get? name =
      Option.merge combine (base.get? name) (overlay.get? name) := by
  induction overlay generalizing base with
  | nil => cases hb : base.get? name <;> simp [hb, Option.merge]
  | cons e overlay ih =>
    obtain ⟨n, a⟩ := e
    rw [keys_cons, List.nodup_cons] at h
    rw [mergeWith_cons, ih _ h.2, get?_insert, get?_cons]
    by_cases hn : n = name
    · subst hn
      rw [if_pos rfl, if_pos rfl, get?_eq_none_iff.2 h.1]
      cases base.get? n <;> rfl
    · rw [if_neg hn, if_neg hn]

/-- Every value of a merged map satisfies what the values of both maps do. -/
theorem forall_get?_mergeWith {P : α → Prop} {base overlay : OrderedMap α}
    (h : overlay.keys.Nodup) (hcombine : ∀ x y, P x → P y → P (combine x y))
    (hbase : ∀ name a, base.get? name = some a → P a)
    (hoverlay : ∀ name a, overlay.get? name = some a → P a) (name : String) (a : α)
    (ha : (base.mergeWith combine overlay).get? name = some a) : P a := by
  rw [get?_mergeWith base h] at ha
  exact forall_optionMerge (hbase name) (hoverlay name) hcombine a ha

theorem nil_mergeWith {m : OrderedMap α} (h : m.keys.Nodup) :
    mergeWith combine [] m = m := by
  refine ext_of_get? (nodup_keys_mergeWith (by simp) m) ?_ fun name => ?_
  · simp [keys_mergeWith [] h]
  · rw [get?_mergeWith [] h]
    cases m.get? name <;> rfl

/-- Combinations that agree on what the two maps hold merge them in the same way. -/
theorem mergeWith_congr {combine' : α → α → α} {base overlay : OrderedMap α}
    (hb : base.keys.Nodup) (ho : overlay.keys.Nodup)
    (hagree : ∀ name x y, base.get? name = some x → overlay.get? name = some y →
      combine x y = combine' x y) :
    base.mergeWith combine overlay = base.mergeWith combine' overlay := by
  refine ext_of_get? (nodup_keys_mergeWith hb overlay) ?_ fun name => ?_
  · rw [keys_mergeWith base ho, keys_mergeWith base ho]
  · rw [get?_mergeWith base ho, get?_mergeWith base ho]
    cases hx : base.get? name with
    | none => cases overlay.get? name <;> rfl
    | some x =>
      cases hy : overlay.get? name with
      | none => rfl
      | some y => exact congrArg some (hagree name x y hx hy)

/-- Merging is associative where the combination of values is. -/
theorem mergeWith_assoc_on {P : α → Prop} {a b c : OrderedMap α}
    (ha : a.keys.Nodup) (hb : b.keys.Nodup) (hc : c.keys.Nodup)
    (hPa : ∀ name x, a.get? name = some x → P x) (hPb : ∀ name x, b.get? name = some x → P x)
    (hPc : ∀ name x, c.get? name = some x → P x)
    (hassoc : ∀ x y z, P x → P y → P z →
      combine (combine x y) z = combine x (combine y z)) :
    (a.mergeWith combine b).mergeWith combine c = a.mergeWith combine (b.mergeWith combine c) := by
  have hbc : (b.mergeWith combine c).keys.Nodup := nodup_keys_mergeWith hb c
  refine ext_of_get? (nodup_keys_mergeWith (nodup_keys_mergeWith ha b) c) ?_ fun name => ?_
  · rw [keys_mergeWith _ hc, keys_mergeWith a hb, keys_mergeWith a hbc, keys_mergeWith b hc,
      List.filter_append, List.filter_filter, List.append_assoc]
    congr 2
    apply List.filter_congr
    intro n _
    by_cases hna : n ∈ a.keys <;> by_cases hnb : n ∈ b.keys <;> simp [hna, hnb]
  · rw [get?_mergeWith _ hc, get?_mergeWith a hb, get?_mergeWith a hbc, get?_mergeWith b hc]
    exact optionMerge_assoc_on fun x y z hx hy hz =>
      hassoc x y z (hPa name x hx) (hPb name y hy) (hPc name z hz)

/-- Merging a map into itself changes nothing where the combination is idempotent. -/
theorem mergeWith_self_on {P : α → Prop} {m : OrderedMap α} (h : m.keys.Nodup)
    (hP : ∀ name a, m.get? name = some a → P a) (hself : ∀ a, P a → combine a a = a) :
    m.mergeWith combine m = m := by
  refine ext_of_get? (nodup_keys_mergeWith h m) ?_ fun name => ?_
  · simp [keys_mergeWith m h]
  · rw [get?_mergeWith m h]
    cases ha : m.get? name with
    | none => rfl
    | some a => exact congrArg some (hself a (hP name a ha))

end Merge

/-! ## Inserting many entries -/

/-- Inserting entries one after the other is merging in which the later value counts. -/
theorem insertAll_eq_mergeWith (m : OrderedMap α) (entries : List (String × α)) :
    m.insertAll entries = m.mergeWith (fun _ a => a) entries := by
  induction entries generalizing m with
  | nil => rfl
  | cons e entries ih =>
    obtain ⟨name, a⟩ := e
    have hvalue : (match m.get? name with | some _ => a | none => a) = a := by
      cases m.get? name <;> rfl
    rw [mergeWith_cons, hvalue]
    exact ih _

theorem insertAll_append (m : OrderedMap α) (xs ys : List (String × α)) :
    m.insertAll (xs ++ ys) = (m.insertAll xs).insertAll ys := List.foldl_append

theorem ofEntries_eq_self {m : OrderedMap α} (h : m.keys.Nodup) : ofEntries m = m := by
  rw [ofEntries, insertAll_eq_mergeWith, nil_mergeWith h]

/-- What is under a name of a map made from entries was in one of them. -/
theorem mem_of_get?_insertAll {m : OrderedMap α} {entries : List (String × α)} {name : String}
    {a : α} (h : (m.insertAll entries).get? name = some a) :
    (name, a) ∈ entries ∨ m.get? name = some a := by
  induction entries generalizing m with
  | nil => exact Or.inr h
  | cons e entries ih =>
    rcases ih h with hmem | hget
    · exact Or.inl (List.mem_cons_of_mem e hmem)
    · rw [get?_insert] at hget
      split at hget
      · next hn =>
        left
        rw [← hn, ← Option.some.inj hget]
        exact List.mem_cons_self
      · exact Or.inr hget

theorem mem_of_get?_ofEntries {entries : List (String × α)} {name : String} {a : α}
    (h : (ofEntries entries).get? name = some a) : (name, a) ∈ entries := by
  rcases mem_of_get?_insertAll h with hmem | hget
  · exact hmem
  · simp at hget

/-! ## Leaving entries out -/

section FilterMapValues

variable {β : Type}

/-- The entries with their values replaced; those that have none any more are left out. -/
def filterMapValues (f : String → α → Option β) (m : OrderedMap α) : OrderedMap β :=
  List.filterMap (fun e => (f e.1 e.2).map fun b => (e.1, b)) m

theorem filterMapValues_cons (f : String → α → Option β) (name : String) (a : α)
    (m : OrderedMap α) :
    filterMapValues f ((name, a) :: m) =
      ((f name a).map fun b => (name, b)).toList ++ filterMapValues f m := by
  unfold filterMapValues
  rw [List.filterMap_cons]
  cases f name a <;> rfl

theorem keys_filterMapValues_sublist (f : String → α → Option β) (m : OrderedMap α) :
    (filterMapValues f m).keys.Sublist m.keys := by
  induction m with
  | nil => exact List.Sublist.refl _
  | cons e m ih =>
    obtain ⟨name, a⟩ := e
    rw [filterMapValues_cons]
    cases f name a with
    | none => exact ih.trans (List.sublist_cons_self _ _)
    | some b => exact ih.cons_cons name

theorem keys_filterMapValues (f : String → α → Option β) (m : OrderedMap α) :
    (filterMapValues f m).keys = (m.filter fun e => (f e.1 e.2).isSome).map Prod.fst := by
  induction m with
  | nil => rfl
  | cons e m ih =>
    obtain ⟨name, a⟩ := e
    rw [filterMapValues_cons, List.filter_cons]
    cases f name a with
    | none => exact ih
    | some b => exact congrArg (name :: ·) ih

theorem get?_filterMapValues (f : String → α → Option β) {m : OrderedMap α} (hm : m.keys.Nodup)
    (name : String) : (filterMapValues f m).get? name = (m.get? name).bind (f name) := by
  induction m with
  | nil => rfl
  | cons e m ih =>
    obtain ⟨n, a⟩ := e
    rw [keys_cons, List.nodup_cons] at hm
    rw [filterMapValues_cons, get?_cons]
    by_cases hn : n = name
    · subst hn
      rw [if_pos rfl, Option.bind_some]
      cases f n a with
      | some b => exact if_pos rfl
      | none =>
        -- the name is gone, and no other entry has it
        have hgone : n ∉ (filterMapValues f m).keys :=
          fun hmem => hm.1 ((keys_filterMapValues_sublist f m).subset hmem)
        exact get?_eq_none_iff.2 hgone
    · rw [if_neg hn, ← ih hm.2]
      cases f n a with
      | some b => exact if_neg hn
      | none => rfl

end FilterMapValues

/-! ## First names and last values -/

theorem eraseDups_concat (names : List String) (name : String) :
    (names ++ [name]).eraseDups =
      if name ∈ names then names.eraseDups else names.eraseDups ++ [name] := by
  rw [List.eraseDups_append]
  by_cases h : name ∈ names
  · simp [List.removeAll, h]
  · simp [List.removeAll, h, List.eraseDups_cons]

theorem nodup_eraseDups (names : List String) : names.eraseDups.Nodup := by
  induction names using List.reverseRecOn with
  | nil => exact List.nodup_nil
  | append_singleton names name ih =>
    rw [eraseDups_concat]
    by_cases h : name ∈ names
    · rw [if_pos h]
      exact ih
    · have hnew : name ∉ names.eraseDups := mt List.mem_eraseDups.1 h
      rw [if_neg h, ← List.concat_eq_append]
      exact ih.concat hnew

theorem eraseDups_of_nodup {names : List String} (h : names.Nodup) : names.eraseDups = names := by
  induction names using List.reverseRecOn with
  | nil => rfl
  | append_singleton names name ih =>
    rw [← List.concat_eq_append, List.nodup_concat] at h
    rw [eraseDups_concat, if_neg h.1, ih h.2]

theorem eraseDups_sublist (names : List String) : names.eraseDups.Sublist names := by
  induction names using List.reverseRecOn with
  | nil => exact List.Sublist.slnil
  | append_singleton names name ih =>
    rw [eraseDups_concat]
    by_cases h : name ∈ names
    · rw [if_pos h]
      exact ih.trans (List.sublist_append_left names [name])
    · rw [if_neg h]
      exact ih.append_right [name]

theorem filter_eraseDups (p : String → Bool) (names : List String) :
    names.eraseDups.filter p = (names.filter p).eraseDups := by
  induction names using List.reverseRecOn with
  | nil => rfl
  | append_singleton names name ih =>
    rw [eraseDups_concat, List.filter_append]
    by_cases hp : p name = true
    · rw [List.filter_cons_of_pos hp, List.filter_nil, eraseDups_concat, ← ih]
      by_cases hname : name ∈ names
      · simp [hname, hp]
      · simp [hname, hp, List.filter_append]
    · rw [List.filter_cons_of_neg hp, List.filter_nil, List.append_nil, ← ih]
      by_cases hname : name ∈ names
      · simp [hname]
      · simp [hname, hp, List.filter_append]

theorem ofEntries_concat (entries : List (String × α)) (e : String × α) :
    ofEntries (entries ++ [e]) = (ofEntries entries).insert e.1 e.2 := by
  rw [ofEntries, insertAll_append]
  rfl

theorem keys_ofEntries (entries : List (String × α)) :
    (ofEntries entries).keys = (entries.map Prod.fst).eraseDups := by
  induction entries using List.reverseRecOn with
  | nil => rfl
  | append_singleton entries e ih =>
    rw [ofEntries_concat, keys_insert, List.map_append, List.map_singleton, eraseDups_concat, ih]
    simp only [List.mem_eraseDups]

/-- Distinct names are not repeated. -/
theorem keys_eq_eraseDups {m : OrderedMap α} (h : m.keys.Nodup) : m.keys = m.keys.eraseDups :=
  (eraseDups_of_nodup h).symm

/-- The value of the last entry that has a name. -/
def lastValue? (name : String) (entries : List (String × α)) : Option α :=
  (entries.reverse.find? (·.1 = name)).map (·.2)

theorem lastValue?_concat (name : String) (entries : List (String × α)) (e : String × α) :
    lastValue? name (entries ++ [e]) =
      if e.1 = name then some e.2 else lastValue? name entries := by
  rw [lastValue?, List.reverse_append, List.reverse_singleton, List.singleton_append,
    List.find?_cons]
  by_cases h : e.1 = name
  · simp [h]
  · simp [h, lastValue?]

theorem lastValue?_map (f : String → α → β) (name : String) (entries : List (String × α)) :
    lastValue? name (entries.map fun e => (e.1, f e.1 e.2)) =
      (lastValue? name entries).map (f name) := by
  induction entries using List.reverseRecOn with
  | nil => rfl
  | append_singleton entries e ih =>
    rw [List.map_append, List.map_singleton, lastValue?_concat, lastValue?_concat, ih]
    by_cases he : e.1 = name <;> simp [he]

theorem get?_ofEntries (entries : List (String × α)) (name : String) :
    (ofEntries entries).get? name = lastValue? name entries := by
  induction entries using List.reverseRecOn with
  | nil => rfl
  | append_singleton entries e ih => rw [ofEntries_concat, get?_insert, lastValue?_concat, ih]

/-- The names of a merged map stand in the order in which both maps show them first. -/
theorem keys_mergeWith_eraseDups {combine : α → α → α} {base overlay : OrderedMap α}
    {xs ys : List String} (hb : base.keys = xs.eraseDups) (ho : overlay.keys = ys.eraseDups)
    (h : overlay.keys.Nodup) :
    (base.mergeWith combine overlay).keys = (xs ++ ys).eraseDups := by
  rw [keys_mergeWith base h, hb, ho, filter_eraseDups, List.eraseDups_append, List.removeAll]
  congr 2
  apply List.filter_congr
  intro name _
  simp

/-! ## Names in order -/

/-- Sorting by name. -/
theorem pairwise_le_mergeSort (key : α → String) (xs : List α) :
    (xs.mergeSort fun a b => decide (key a ≤ key b)).Pairwise fun a b => key a ≤ key b := by
  have hsorted : (xs.mergeSort fun a b => decide (key a ≤ key b)).Pairwise
      fun a b => decide (key a ≤ key b) = true := by
    refine List.pairwise_mergeSort ?_ ?_ xs
    · intro a b c hab hbc
      exact decide_eq_true (le_trans (of_decide_eq_true hab) (of_decide_eq_true hbc))
    · intro a b
      rw [Bool.or_eq_true, decide_eq_true_iff, decide_eq_true_iff]
      exact le_total (key a) (key b)
  exact hsorted.imp of_decide_eq_true

/-- Where no name occurs twice, each is strictly below the next. -/
theorem pairwise_lt_mergeSort {key : α → String} {xs : List α} (h : (xs.map key).Nodup) :
    (xs.mergeSort fun a b => decide (key a ≤ key b)).Pairwise fun a b => key a < key b := by
  have hnodup : ((xs.mergeSort fun a b => decide (key a ≤ key b)).map key).Nodup :=
    ((List.mergeSort_perm xs _).map key).nodup_iff.2 h
  exact ((pairwise_le_mergeSort key xs).and (List.pairwise_map.1 hnodup)).imp
    fun hab => lt_of_le_of_ne hab.1 hab.2

end OrderedMap

end DeclaredTools
