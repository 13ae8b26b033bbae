/-
  What a name stands for. Any number of enabled declarations can claim one name, each with its own
  or by its key (`claimants`). The greatest key among them has the tool of that name, and the
  smallest one has its place in the list (`name_resolution`). Each time a declaration takes over a
  name there is a warning that names the key which had it before, so that the warnings and the
  listed tools together are as many as the enabled declarations.

  The table is filled in the order of the keys. One step of this is `addEvents`, and `replacements`
  is the run: what it reports is described by where it stands (`mem_replacements_iff`) and counted
  against the table (`length_replacements_add`).
-/
import DeclaredTools.Proofs.Merging.DeclarationSet
import DeclaredTools.Proofs.Registry.KeyOrder
import DeclaredTools.Proofs.Registry.Snapshot
import Mathlib.Order.Bounds.Basic

namespace DeclaredTools

open OrderedMap

/-! ## The first and the last of some -/

section Sorted

variable {α : Type} {key : α → String} {xs : List α}

/-- From behind, the first element that is found has the greatest key. -/
theorem find?_reverse_eq_some_iff (h : xs.Pairwise fun a b => key a < key b) {p : α → Bool}
    {x : α} :
    xs.reverse.find? p = some x ↔
      (x ∈ xs ∧ p x = true) ∧ ∀ y ∈ xs, p y = true → key y ≤ key x := by
  induction xs using List.reverseRecOn with
  | nil => simp
  | append_singleton xs a ih =>
    obtain ⟨hxs, _, hlast⟩ := List.pairwise_append.1 h
    have hbelow : ∀ y ∈ xs, key y < key a := fun y hy => hlast y hy a List.mem_cons_self
    rw [List.reverse_append, List.reverse_singleton, List.singleton_append, List.find?_cons]
    cases hp : p a with
    | true =>
      constructor
      · rintro ⟨rfl⟩
        refine ⟨⟨List.mem_concat_self, hp⟩, fun y hy _ => ?_⟩
        rcases List.mem_append.1 hy with hmem | hmem
        · exact le_of_lt (hbelow y hmem)
        · exact le_of_eq (congrArg key (List.mem_singleton.1 hmem))
      · rintro ⟨⟨hx, _⟩, hgreatest⟩
        rcases List.mem_append.1 hx with hmem | hmem
        · -- an element before the last has a smaller key than that
          exact absurd (hgreatest a List.mem_concat_self hp) (not_le_of_gt (hbelow x hmem))
        · exact congrArg some (List.mem_singleton.1 hmem).symm
    | false =>
      have hskip : ∀ y, p y = true → (y ∈ xs ++ [a] ↔ y ∈ xs) := by
        intro y hy
        have hne : y ≠ a := by
          rintro rfl
          exact Bool.false_ne_true (hp.symm.trans hy)
        rw [List.mem_append, List.mem_singleton, or_iff_left hne]
      rw [ih hxs]
      constructor
      · rintro ⟨⟨hx, hpx⟩, hgreatest⟩
        exact ⟨⟨(hskip x hpx).2 hx, hpx⟩, fun y hy hpy => hgreatest y ((hskip y hpy).1 hy) hpy⟩
      · rintro ⟨⟨hx, hpx⟩, hgreatest⟩
        exact ⟨⟨(hskip x hpx).1 hx, hpx⟩, fun y hy hpy => hgreatest y ((hskip y hpy).2 hy) hpy⟩

/-- An element with a greater key leaves the smallest key of a name as it is. -/
theorem isLeast_concat {name : α → String} {a : α} (hbelow : ∀ y ∈ xs, key y < key a)
    {n k : String} (h : IsLeast {k | ∃ x ∈ xs, name x = n ∧ key x = k} k) :
    IsLeast {k | ∃ x ∈ xs ++ [a], name x = n ∧ key x = k} k := by
  obtain ⟨⟨x, hx, hn, hkx⟩, hmin⟩ := h
  refine ⟨⟨x, List.mem_append_left _ hx, hn, hkx⟩, ?_⟩
  rintro _ ⟨y, hy, hny, rfl⟩
  rcases List.mem_append.1 hy with hmem | hmem
  · exact hmin ⟨y, hmem, hny, rfl⟩
  · rw [List.mem_singleton.1 hmem, ← hkx]
    exact le_of_lt (hbelow x hx)

/-- The first element with a name has the smallest key of it. -/
theorem isLeast_concat_of_notMem {name : α → String} {a : α} (hnew : name a ∉ xs.map name) :
    IsLeast {k | ∃ x ∈ xs ++ [a], name x = name a ∧ key x = k} (key a) := by
  refine ⟨⟨a, List.mem_concat_self, rfl, rfl⟩, ?_⟩
  rintro _ ⟨y, hy, hny, rfl⟩
  rcases List.mem_append.1 hy with hmem | hmem
  · exact absurd (hny ▸ List.mem_map_of_mem hmem) hnew
  · exact le_of_eq (congrArg key (List.mem_singleton.1 hmem).symm)

/-- Each name has its first place at the element with the smallest key. -/
theorem exists_least_keys (name : α → String) (h : xs.Pairwise fun a b => key a < key b) :
    ∃ firsts : List String,
      List.Forall₂ (fun n k => IsLeast {k | ∃ x ∈ xs, name x = n ∧ key x = k} k)
        (xs.map name).eraseDups firsts ∧
      firsts.Pairwise (· < ·) ∧ ∀ k ∈ firsts, ∃ x ∈ xs, key x = k := by
  induction xs using List.reverseRecOn with
  | nil => exact ⟨[], .nil, .nil, by simp⟩
  | append_singleton xs a ih =>
    obtain ⟨hxs, _, hlast⟩ := List.pairwise_append.1 h
    have hbelow : ∀ y ∈ xs, key y < key a := fun y hy => hlast y hy a List.mem_cons_self
    obtain ⟨firsts, hleast, hsorted, hkeys⟩ := ih hxs
    have hkept := hleast.imp fun n k hk => isLeast_concat hbelow hk
    have hfound : ∀ k ∈ firsts, ∃ x ∈ xs ++ [a], key x = k := by
      intro k hk
      obtain ⟨x, hx, hkx⟩ := hkeys k hk
      exact ⟨x, List.mem_append_left _ hx, hkx⟩
    rw [List.map_append, List.map_singleton, eraseDups_concat]
    split
    · exact ⟨firsts, hkept, hsorted, hfound⟩
    · next hnew =>
      have hfirst : IsLeast {k | ∃ x ∈ xs ++ [a], name x = name a ∧ key x = k} (key a) :=
        isLeast_concat_of_notMem hnew
      refine ⟨firsts ++ [key a], List.rel_append hkept (.cons hfirst .nil), ?_, ?_⟩
      · refine List.pairwise_append.2 ⟨hsorted, List.pairwise_singleton _ _, ?_⟩
        intro k hk k' hk'
        obtain ⟨x, hx, rfl⟩ := hkeys k hk
        rw [List.mem_singleton.1 hk']
        exact hbelow x hx
      · intro k hk
        rcases List.mem_append.1 hk with hmem | hmem
        · exact hfound k hmem
        · exact ⟨a, List.mem_concat_self, (List.mem_singleton.1 hmem).symm⟩

end Sorted

/-! ## Filling the table -/

namespace ToolTable

/-- The tool of a declaration under its name. -/
def entry (e : String × Declaration) : String × Tool := (e.2.registeredName, .ofDeclaration e.2)

/-- What adding enabled declarations one after the other reports. -/
def replacements : ToolTable → List (String × Declaration) → List Event
  | _, [] => []
  | tools, e :: entries =>
    tools.addEvents e.1 e.2 ++ replacements (tools.insert (entry e).1 (entry e).2) entries

theorem get?_ofEntries_entry (entries : List (String × Declaration)) (name : String) :
    (ofEntries (entries.map entry)).get? name =
      (entries.reverse.find? fun e => e.2.registeredName = name).map fun e =>
        .ofDeclaration e.2 := by
  rw [get?_ofEntries, lastValue?, ← List.map_reverse, List.find?_map, Option.map_map]
  rfl

theorem mem_addEvents_iff {tools : ToolTable} {key : String} {d : Declaration} {event : Event} :
    event ∈ tools.addEvents key d ↔ ∃ old, tools.get? d.registeredName = some old ∧
      event = .duplicateName d.registeredName old.declaration.key key := by
  unfold addEvents
  cases tools.get? d.registeredName <;> simp

theorem length_insert (tools : ToolTable) (name : String) (tool : Tool) :
    (tools.insert name tool).length =
      if name ∈ tools.keys then tools.length else tools.length + 1 := by
  have hlength : ∀ m : ToolTable, m.length = m.keys.length := fun m =>
    (List.length_map Prod.fst).symm
  rw [hlength, keys_insert, hlength]
  split
  · rfl
  · rw [List.length_append, List.length_singleton]

/-- Each declaration gives the table one entry more, or else a warning. -/
theorem length_replacements_add (tools : ToolTable) (entries : List (String × Declaration)) :
    (replacements tools entries).length + (tools.insertAll (entries.map entry)).length =
      tools.length + entries.length := by
  induction entries generalizing tools with
  | nil => simp [replacements, insertAll]
  | cons e entries ih =>
    have hstep : (tools.addEvents e.1 e.2).length +
        (tools.insert (entry e).1 (entry e).2).length = tools.length + 1 := by
      rw [length_insert]
      unfold addEvents entry
      cases hget : tools.get? e.2.registeredName with
      | none => rw [if_neg (get?_eq_none_iff.1 hget), List.length_nil, Nat.zero_add]
      | some old =>
        rw [if_pos (mem_keys_iff_get?.2 ⟨old, hget⟩), List.length_singleton, Nat.add_comm]
    have hrest := ih (tools.insert (entry e).1 (entry e).2)
    have hinsert : tools.insertAll ((e :: entries).map entry) =
        (tools.insert (entry e).1 (entry e).2).insertAll (entries.map entry) := rfl
    rw [replacements, List.length_append, List.length_cons, hinsert]
    omega

/-- A warning is given at a declaration, with the table that those before it have filled. -/
theorem mem_replacements_iff {tools : ToolTable} {entries : List (String × Declaration)}
    {event : Event} :
    event ∈ replacements tools entries ↔ ∃ front e back, entries = front ++ e :: back ∧
      event ∈ addEvents (tools.insertAll (front.map entry)) e.1 e.2 := by
  induction entries generalizing tools with
  | nil => simp [replacements]
  | cons first entries ih =>
    rw [replacements, List.mem_append, ih]
    constructor
    · rintro (hevent | ⟨front, e, back, rfl, hevent⟩)
      · exact ⟨[], first, entries, rfl, hevent⟩
      · exact ⟨first :: front, e, back, rfl, hevent⟩
    · rintro ⟨front, e, back, hentries, hevent⟩
      cases front with
      | nil =>
        obtain ⟨rfl, rfl⟩ := List.cons.inj hentries
        exact .inl hevent
      | cons a front =>
        obtain ⟨rfl, rfl⟩ := List.cons.inj hentries
        exact .inr ⟨front, e, back, rfl, hevent⟩

end ToolTable

/-! ## Warnings -/

/-- The warning that one declaration takes the name of another. -/
def Event.isReplacement (event : Event) : Bool := event.name == "registry.duplicate_name"

namespace ToolTable

theorem filter_isReplacement_addEvents (tools : ToolTable) (key : String) (d : Declaration) :
    (tools.addEvents key d).filter Event.isReplacement = tools.addEvents key d := by
  rw [List.filter_eq_self]
  intro event hevent
  obtain ⟨old, _, rfl⟩ := mem_addEvents_iff.1 hevent
  rfl

/-- Of the events of compiling, the warnings are those of the enabled declarations. -/
theorem filter_isReplacement_foldlM {entries : List (String × Declaration)}
    (hclear : (entries.findSome? fun e => e.2.activeObstacle) = none) (tools : ToolTable) :
    (entries.foldlM (fun (tools : ToolTable) e => tools.add e.1 e.2) tools).events.filter
        Event.isReplacement =
      replacements tools (entries.filter fun e => e.2.isEnabled) := by
  induction entries generalizing tools with
  | nil => rfl
  | cons e entries ih =>
    obtain ⟨hfirst, hrest⟩ : e.2.activeObstacle = none ∧
        (entries.findSome? fun e => e.2.activeObstacle) = none := by
      rw [List.findSome?_eq_none_iff] at hclear ⊢
      exact List.forall_mem_cons.1 hclear
    have hadd : (tools.add e.1 e.2).outcome = .ok (tools.withTool e) := by
      rw [outcome_add, hfirst]
      rfl
    have hevents : (tools.add e.1 e.2).events.filter Event.isReplacement =
        if e.2.isEnabled then tools.addEvents e.1 e.2 else [] := by
      unfold add
      cases henabled : e.2.isEnabled with
      | false => rfl
      | true =>
        have hobstacle : e.2.obstacle = none := by
          rw [Declaration.activeObstacle, henabled] at hfirst
          exact hfirst
        rw [hobstacle]
        exact filter_isReplacement_addEvents tools e.1 e.2
    rw [List.foldlM_cons, Report.events_bind_ok hadd, List.filter_append, hevents, ih hrest,
      List.filter_cons, withTool]
    cases e.2.isEnabled <;> rfl

end ToolTable

namespace DeclarationSet

open ToolTable

theorem filter_isReplacement_compile {set : DeclarationSet} (h : set.obstacle = none) :
    (compile set).events.filter Event.isReplacement = replacements [] set.enabledInOrder := by
  have hfold := filter_isReplacement_foldlM h []
  have houtcome := outcome_foldlM_add set
  rw [h] at houtcome
  have hevents : (compile set).events =
      ((inKeyOrder set).foldlM (fun (tools : ToolTable) e => tools.add e.1 e.2) []).events ++
        [.registryCompiled set.table.length] := Report.events_bind_ok houtcome _
  rw [hevents, List.filter_append, hfold]
  exact List.append_nil _

/-! ## Claims to a name -/

/-- The keys under which entries with a name stand. -/
def claimedIn (entries : List (String × Declaration)) (name : String) : Set String :=
  {key | ∃ e ∈ entries, e.2.registeredName = name ∧ e.1 = key}

/-- The keys of the enabled declarations that are called by a name. -/
def claimants (set : DeclarationSet) (name : String) : Set String :=
  {key | ∃ d, (key, d) ∈ set ∧ d.isEnabled = true ∧ d.registeredName = name}

theorem claimants_eq_claimedIn (set : DeclarationSet) (name : String) :
    set.claimants name = claimedIn set.enabledInOrder name := by
  ext key
  constructor
  · rintro ⟨d, hmem, henabled, hname⟩
    exact ⟨(key, d), mem_enabledInOrder.2 ⟨hmem, henabled⟩, hname, rfl⟩
  · rintro ⟨e, he, hname, rfl⟩
    obtain ⟨hmem, henabled⟩ := mem_enabledInOrder.1 he
    exact ⟨e.2, hmem, henabled, hname⟩

/-- Below a key there are the claims of the declarations before it. -/
theorem claimedIn_front {front back : List (String × Declaration)} {e : String × Declaration}
    (h : (front ++ e :: back).Pairwise fun a b => a.1 < b.1) (name : String) :
    claimedIn front name = {key ∈ claimedIn (front ++ e :: back) name | key < e.1} := by
  ext key
  constructor
  · rintro ⟨other, hother, hname, rfl⟩
    obtain ⟨hmem, hlt⟩ := (mem_front_iff h other).1 hother
    exact ⟨⟨other, hmem, hname, rfl⟩, hlt⟩
  · rintro ⟨⟨other, hmem, hname, rfl⟩, hlt⟩
    exact ⟨other, (mem_front_iff h other).2 ⟨hmem, hlt⟩, hname, rfl⟩

/-- Of entries in the order of their keys, the one with the greatest key has the name. -/
theorem get?_ofEntries_entry_eq_some_iff {entries : List (String × Declaration)}
    (h : entries.Pairwise fun a b => a.1 < b.1) {name : String} {tool : Tool} :
    (ofEntries (entries.map entry)).get? name = some tool ↔
      ∃ e ∈ entries, IsGreatest (claimedIn entries name) e.1 ∧ tool = .ofDeclaration e.2 := by
  have hfind := fun e => find?_reverse_eq_some_iff h
    (p := fun e : String × Declaration => e.2.registeredName = name) (x := e)
  simp only [decide_eq_true_iff] at hfind
  rw [get?_ofEntries_entry, Option.map_eq_some_iff]
  constructor
  · rintro ⟨e, he, rfl⟩
    obtain ⟨⟨hmem, hname⟩, hgreatest⟩ := (hfind e).1 he
    refine ⟨e, hmem, ⟨⟨e, hmem, hname, rfl⟩, ?_⟩, rfl⟩
    rintro _ ⟨other, hother, hclaims, rfl⟩
    exact hgreatest other hother hclaims
  · rintro ⟨e, hmem, ⟨⟨other, hother, hname, hkey⟩, hgreatest⟩, rfl⟩
    have hnodup : (keys entries).Nodup := List.pairwise_map.2 (h.imp ne_of_lt)
    -- keys are distinct, so the entry with the greatest key is this one
    obtain ⟨key, d⟩ := other
    obtain rfl : key = e.1 := hkey
    obtain rfl : d = e.2 := eq_of_mem_of_mem hnodup hother hmem
    refine ⟨e, (hfind e).2 ⟨⟨hmem, hname⟩, fun y hy hclaims => ?_⟩, rfl⟩
    exact hgreatest ⟨y, hy, hclaims, rfl⟩

theorem get?_table_eq_some_iff {set : DeclarationSet} (h : set.keys.Nodup) {name : String}
    {tool : Tool} :
    set.table.get? name = some tool ↔
      ∃ key d, IsGreatest (set.claimants name) key ∧ (key, d) ∈ set ∧ tool = .ofDeclaration d := by
  have hsorted := pairwise_enabledInOrder h
  have hiff : set.table.get? name = some tool ↔ _ := get?_ofEntries_entry_eq_some_iff hsorted
  rw [hiff, claimants_eq_claimedIn]
  constructor
  · rintro ⟨e, he, hgreatest, rfl⟩
    exact ⟨e.1, e.2, hgreatest, (mem_enabledInOrder.1 he).1, rfl⟩
  · rintro ⟨key, d, hgreatest, hmem, rfl⟩
    obtain ⟨e, he, -, rfl⟩ := hgreatest.1
    -- the claim is that of the declaration, as keys are distinct
    have hd : d = e.2 := eq_of_mem_of_mem h hmem (mem_enabledInOrder.1 he).1
    exact ⟨e, he, hgreatest, congrArg _ hd⟩

theorem get?_table_eq_none_iff {set : DeclarationSet} {name : String} :
    set.table.get? name = none ↔ set.claimants name = ∅ := by
  constructor
  · intro hnone
    rw [Set.eq_empty_iff_forall_notMem]
    rintro key ⟨d, hmem, henabled, hname⟩
    exact not_offers_of_get?_table hnone d ⟨henabled, hname, key, hmem⟩
  · intro hempty
    cases hget : set.table.get? name with
    | none => rfl
    | some tool =>
      obtain ⟨d, ⟨henabled, hname, key, hmem⟩, _⟩ := offers_of_get?_table hget
      have hclaim : key ∈ set.claimants name := ⟨d, hmem, henabled, hname⟩
      rw [hempty] at hclaim
      exact absurd hclaim (Set.notMem_empty key)

/-- A warning at a key names the key that had the name before. -/
theorem mem_replacements_enabledInOrder_iff {set : DeclarationSet} (h : set.keys.Nodup)
    {name replaced key : String} :
    .duplicateName name replaced key ∈ replacements [] set.enabledInOrder ↔
      key ∈ set.claimants name ∧ ∃ old d, IsGreatest {k ∈ set.claimants name | k < key} old ∧
        (old, d) ∈ set ∧ replaced = d.key := by
  have hsorted := pairwise_enabledInOrder h
  rw [mem_replacements_iff, claimants_eq_claimedIn]
  constructor
  · rintro ⟨front, e, back, hentries, hevent⟩
    obtain ⟨old, hold, heq⟩ := mem_addEvents_iff.1 hevent
    obtain ⟨rfl, rfl, rfl⟩ := Event.duplicateName.inj heq
    rw [hentries] at hsorted ⊢
    obtain ⟨other, hother, hgreatest, rfl⟩ := (get?_ofEntries_entry_eq_some_iff
      (List.pairwise_append.1 hsorted).1).1 hold
    rw [claimedIn_front hsorted] at hgreatest
    refine ⟨⟨e, by simp, rfl, rfl⟩, other.1, other.2, hgreatest, ?_, rfl⟩
    have hmem : other ∈ set.enabledInOrder := hentries ▸ List.mem_append_left _ hother
    exact (mem_enabledInOrder.1 hmem).1
  · rintro ⟨⟨e, he, rfl, rfl⟩, old, d, hgreatest, hmem, rfl⟩
    obtain ⟨front, back, hentries⟩ := List.append_of_mem he
    refine ⟨front, e, back, hentries, mem_addEvents_iff.2 ⟨.ofDeclaration d, ?_, rfl⟩⟩
    rw [hentries] at hsorted hgreatest
    rw [← claimedIn_front hsorted] at hgreatest
    obtain ⟨other, hother, -, rfl⟩ := hgreatest.1
    have hothers : other ∈ set.enabledInOrder := hentries ▸ List.mem_append_left _ hother
    have hd : d = other.2 := eq_of_mem_of_mem h hmem (mem_enabledInOrder.1 hothers).1
    exact (get?_ofEntries_entry_eq_some_iff (List.pairwise_append.1 hsorted).1).2
      ⟨other, hother, hgreatest, congrArg _ hd⟩

/-- The tools of a table have the names under which they stand in it. -/
theorem map_name_table (set : DeclarationSet) :
    (set.table.map (·.2)).map Tool.name = set.table.keys := by
  rw [List.map_map]
  refine List.map_congr_left ?_
  rintro ⟨name, tool⟩ hmem
  have hget := get?_eq_some_of_mem (nodup_keys_ofEntries _) hmem
  obtain ⟨d, ⟨_, hname, _⟩, rfl⟩ := offers_of_get?_table hget
  exact hname

/-- In sets that are read, or merged from such sets, declarations stand under their own keys. -/
theorem key_eq_of_arises {set : DeclarationSet} (h : set.Arises) {key : String} {d : Declaration}
    (hd : set.get? key = some d) : d.key = key := by
  induction h generalizing d with
  | read document =>
    cases document with
    | map es =>
      obtain ⟨⟨k, v⟩, _, hkv⟩ := List.mem_filterMap.1 (mem_of_get?_ofEntries hd)
      cases v with
      | map fields =>
        obtain ⟨rfl, rfl⟩ := Prod.mk.inj (Option.some.inj hkv)
        rfl
      | _ => cases hkv
    | _ => cases hd
  | @merge base overlay _ ho ihb iho =>
    have hget : (base.merge overlay).get? key =
        Option.merge Declaration.merge (base.get? key) (overlay.get? key) :=
      get?_mergeWith base (wellFormed_of_arises ho).nodup key
    refine forall_optionMerge (P := (·.key = key)) (fun _ => ihb) (fun _ => iho) ?_ d
      (hget.symm.trans hd)
    intro old new hold _
    exact hold

end DeclarationSet

/-! ## Names in a registry -/

namespace Registry

open DeclarationSet ToolTable

/-- What the first use of a registry reports about names that are taken over. -/
def warnings (r : Registry) : List Event := r.tools.events.filter Event.isReplacement

/-- What the names that declarations claim stand for in a registry. -/
structure Resolves (set : DeclarationSet) (r : Registry) : Prop where
  /-- A name stands for the tool of the greatest key that claims it. -/
  winner : ∀ name tool, (r.get name).outcome = .ok tool ↔
    ∃ key d, IsGreatest (set.claimants name) key ∧ (key, d) ∈ set ∧ tool = .ofDeclaration d
  /-- A name that no key claims is not found, and there is no other error. -/
  unclaimed : ∀ name e, (r.get name).outcome = .error e ↔
    e = .notFound name ∧ set.claimants name = ∅
  /-- Each name is listed once, at the place of the smallest key that claims it; and the listed
  tools together with the warnings are as many as the enabled declarations. -/
  listed : ∃ tools firsts, r.list.outcome = .ok tools ∧ (tools.map Tool.name).Nodup ∧
    (∀ name, name ∈ tools.map Tool.name ↔ (set.claimants name).Nonempty) ∧
    (∀ tool ∈ tools, (r.get tool.name).outcome = .ok tool) ∧
    List.Forall₂ (fun tool key => IsLeast (set.claimants tool.name) key) tools firsts ∧
    firsts.Pairwise (· < ·) ∧
    r.warnings.length + tools.length = (set.filter fun e => e.2.isEnabled).length
  /-- There is a warning for each key that finds its name taken, and it says by which key: the next
  smaller one that claims the name. -/
  warned : ∀ name replaced key, .duplicateName name replaced key ∈ r.warnings ↔
    key ∈ set.claimants name ∧ ∃ old d, IsGreatest {k ∈ set.claimants name | k < key} old ∧
      (old, d) ∈ set ∧ replaced = d.key

section

variable {set : DeclarationSet}

theorem outcome_tools_of_compiles (h : set.compiles = true) :
    set.obstacle = none ∧ (ofSet set).tools.outcome = .ok set.table := by
  have hclear := compiles_iff_obstacle.1 h
  exact ⟨hclear, outcome_compile_of_obstacle_eq_none hclear⟩

theorem warnings_ofSet (h : set.obstacle = none) :
    (ofSet set).warnings = replacements [] set.enabledInOrder := filter_isReplacement_compile h

theorem exists_listed (hkeys : set.keys.Nodup) :
    ∃ firsts : List String,
      List.Forall₂ (fun tool key => IsLeast (set.claimants tool.name) key)
        (set.table.map (·.2)) firsts ∧ firsts.Pairwise (· < ·) := by
  obtain ⟨firsts, hleast, hsorted, _⟩ := exists_least_keys
    (fun e : String × Declaration => e.2.registeredName) (pairwise_enabledInOrder hkeys)
  refine ⟨firsts, ?_, hsorted⟩
  have hnames : (set.enabledInOrder.map fun e => e.2.registeredName).eraseDups =
      (set.table.map (·.2)).map Tool.name := by
    rw [map_name_table, table, keys_ofEntries, offered, List.map_map]
    rfl
  rw [hnames, List.forall₂_map_left_iff] at hleast
  refine hleast.imp fun tool key hkey => ?_
  rw [claimants_eq_claimedIn]
  exact hkey

theorem outcome_get_of_compiles (h : set.compiles = true) (name : String) :
    ((ofSet set).get name).outcome = set.table.find name := by
  obtain ⟨_, htools⟩ := outcome_tools_of_compiles h
  rw [outcome_get, htools]
  rfl

theorem outcome_list_of_compiles (h : set.compiles = true) :
    (ofSet set).list.outcome = .ok (set.table.map (·.2)) := by
  obtain ⟨_, htools⟩ := outcome_tools_of_compiles h
  rw [outcome_list, htools]
  rfl

theorem get_eq_ok_iff (h : set.compiles = true) (name : String) (tool : Tool) :
    ((ofSet set).get name).outcome = .ok tool ↔ set.table.get? name = some tool := by
  rw [outcome_get_of_compiles h, find]
  cases set.table.get? name <;> simp

theorem get_eq_error_iff (h : set.compiles = true) (name : String) (e : CallError) :
    ((ofSet set).get name).outcome = .error e ↔
      e = .notFound name ∧ set.table.get? name = none := by
  rw [outcome_get_of_compiles h, find]
  cases set.table.get? name <;> simp [eq_comm]

theorem get_of_mem_table (h : set.compiles = true) {tool : Tool}
    (htool : tool ∈ set.table.map (·.2)) : ((ofSet set).get tool.name).outcome = .ok tool := by
  obtain ⟨⟨name, _⟩, hmem, rfl⟩ := List.mem_map.1 htool
  have hentry := get?_eq_some_of_mem (nodup_keys_ofEntries _) hmem
  obtain ⟨d, ⟨_, hname, _⟩, rfl⟩ := offers_of_get?_table hentry
  rw [get_eq_ok_iff h]
  exact hname.symm ▸ hentry

theorem length_warnings (h : set.compiles = true) :
    (ofSet set).warnings.length + (set.table.map (·.2)).length =
      (set.filter fun e => e.2.isEnabled).length := by
  obtain ⟨hclear, _⟩ := outcome_tools_of_compiles h
  rw [warnings_ofSet hclear, List.length_map, ← length_enabledInOrder]
  exact (length_replacements_add [] set.enabledInOrder).trans (Nat.zero_add _)

theorem resolves_ofSet (hkeys : set.keys.Nodup) (h : set.compiles = true) :
    Resolves set (ofSet set) where
  winner name tool := by
    rw [get_eq_ok_iff h, get?_table_eq_some_iff hkeys]
  unclaimed name e := by
    rw [get_eq_error_iff h, get?_table_eq_none_iff]
  listed := by
    obtain ⟨firsts, hleast, hsorted⟩ := exists_listed hkeys
    have hdistinct : ((set.table.map (·.2)).map Tool.name).Nodup := by
      rw [map_name_table]
      exact nodup_keys_ofEntries _
    have hclaimed : ∀ name, name ∈ (set.table.map (·.2)).map Tool.name ↔
        (set.claimants name).Nonempty := by
      intro name
      rw [map_name_table, ← not_iff_not, ← get?_eq_none_iff, get?_table_eq_none_iff,
        Set.not_nonempty_iff_eq_empty]
    exact ⟨set.table.map (·.2), firsts, outcome_list_of_compiles h, hdistinct, hclaimed,
      fun _ => get_of_mem_table h, hleast, hsorted, length_warnings h⟩
  warned name replaced key := by
    obtain ⟨hclear, _⟩ := outcome_tools_of_compiles h
    rw [warnings_ofSet hclear, mem_replacements_enabledInOrder_iff hkeys]

/-- Sets with the same enabled declarations make registries with the same tools and warnings. -/
theorem resolution_eq_of_enabled (hkeys : set.keys.Nodup) (h : set.compiles = true)
    {other : DeclarationSet} (hother : other.keys.Nodup)
    (hsame : ∀ e : String × Declaration, e.2.isEnabled = true → (e ∈ set ↔ e ∈ other)) :
    (ofSet other).tools.outcome = (ofSet set).tools.outcome ∧
      (ofSet other).warnings = (ofSet set).warnings := by
  obtain ⟨hclear, htools⟩ := outcome_tools_of_compiles h
  have henabled := enabledInOrder_eq_of_mem_iff hkeys hother hsame
  have htable : other.table = set.table := by
    show ofEntries (other.enabledInOrder.map entry) = ofEntries (set.enabledInOrder.map entry)
    rw [henabled]
  have hothers : other.obstacle = none := by
    rw [obstacle_eq_findSome?, ← henabled, ← obstacle_eq_findSome?, hclear]
  constructor
  · rw [htools, outcome_tools_ofSet, hothers, htable]
    rfl
  · rw [warnings_ofSet hothers, warnings_ofSet hclear, henabled]

end

/-- **What a name stands for.** In a registry whose declarations compile, names are resolved by the
keys that claim them, as `Resolves` says. Declarations that are disabled have no part in this: any
other set with the same enabled declarations, in whatever order they came into it, has the same
tools in the same order, and the same warnings. In sets that are read or merged, the key in a
warning is the one under which the declaration stands. -/
theorem name_resolution {set : DeclarationSet} (hkeys : set.keys.Nodup)
    (hcompiles : set.compiles = true) :
    Resolves set (ofSet set) ∧
    (∀ other : DeclarationSet, other.keys.Nodup →
      (∀ e : String × Declaration, e.2.isEnabled = true → (e ∈ set ↔ e ∈ other)) →
        (ofSet other).list.outcome = (ofSet set).list.outcome ∧
        (∀ name, ((ofSet other).get name).outcome = ((ofSet set).get name).outcome) ∧
        (ofSet other).warnings = (ofSet set).warnings) ∧
    (set.Arises → ∀ key d, (key, d) ∈ set → d.key = key) := by
  refine ⟨resolves_ofSet hkeys hcompiles, fun other hother hsame => ?_,
    fun harises key d hmem => ?_⟩
  · obtain ⟨htools, hwarnings⟩ := resolution_eq_of_enabled hkeys hcompiles hother hsame
    refine ⟨?_, fun name => ?_, hwarnings⟩
    · rw [outcome_list, outcome_list, htools]
    · rw [outcome_get, outcome_get, htools]
  · exact key_eq_of_arises harises (get?_eq_some_of_mem hkeys hmem)

/-- The declaration of a tool by a name of its own. -/
private def called (key name : String) : String × Declaration :=
  (key, .ofEntries key [(.text "name", .text name)])

/-- Two keys that claim one name, the disabled declaration with this key, and one more. -/
private def contested : DeclarationSet :=
  [called "b" "x", ("x", .ofEntries "x" [(.text "disabled", .bool true)]), called "a" "x",
    ("c", .ofEntries "c" [])]

private theorem claimants_contested {key : String} (h : key ∈ contested.claimants "x") :
    key = "b" ∨ key = "a" := by
  obtain ⟨d, hmem, henabled, hname⟩ := h
  simp only [contested, called, List.mem_cons, Prod.mk.injEq, List.not_mem_nil, or_false] at hmem
  rcases hmem with ⟨rfl, _⟩ | ⟨_, rfl⟩ | ⟨rfl, _⟩ | ⟨_, rfl⟩
  · exact .inl rfl
  · exact absurd henabled Bool.false_ne_true
  · exact .inr rfl
  · exact absurd hname (by decide)

theorem name_resolution_contested :
    Resolves contested (ofSet contested) ∧
    ((ofSet contested).get "x").outcome = .ok (.ofDeclaration (called "b" "x").2) ∧
    .duplicateName "x" "a" "b" ∈ (ofSet contested).warnings := by
  have hkeys : contested.keys.Nodup := by decide
  have hcompiles : contested.compiles = true := compiles_iff.2 ⟨rfl, rfl⟩
  have hresolves : Resolves contested (ofSet contested) := (name_resolution hkeys hcompiles).1
  have hb : "b" ∈ contested.claimants "x" := ⟨_, List.mem_cons_self, rfl, rfl⟩
  have hmem : called "a" "x" ∈ contested := by simp [contested]
  have ha : "a" ∈ contested.claimants "x" := ⟨_, hmem, rfl, rfl⟩
  have hgreatest : IsGreatest (contested.claimants "x") "b" := by
    refine ⟨hb, fun key hkey => ?_⟩
    rcases claimants_contested hkey with rfl | rfl <;> decide
  have hbelow : IsGreatest {k ∈ contested.claimants "x" | k < "b"} "a" := by
    refine ⟨⟨ha, by decide⟩, ?_⟩
    rintro key ⟨hkey, hlt⟩
    rcases claimants_contested hkey with rfl | rfl
    · exact absurd hlt (lt_irrefl _)
    · exact le_refl _
  refine ⟨hresolves, (hresolves.winner _ _).2 ⟨"b", _, hgreatest, List.mem_cons_self, rfl⟩, ?_⟩
  exact (hresolves.warned _ _ _).2 ⟨hb, "a", _, hbelow, hmem, rfl⟩

end Registry

end DeclaredTools
