/-
  Names between commas. A text is cut at its commas and the pieces are trimmed, so no piece holds a
  comma or has a blank at either end (`isListable_of_mem_commaPieces`). Names of this kind are what
  is read from the text in which they are written with a comma and a space between them
  (`commaPieces_intercalate`).
-/
import DeclaredTools.Text.Blank

namespace DeclaredTools.Text

/-! ## Trimming -/

/-- Neither the first nor the last character is a blank. -/
structure IsTrimmed (cs : List Char) : Prop where
  head : ∀ c, cs.head? = some c → isBlank c = false
  last : ∀ c, cs.getLast? = some c → isBlank c = false

theorem isBlank_head?_dropWhile {cs : List Char} {c : Char}
    (h : (cs.dropWhile isBlank).head? = some c) : isBlank c = false := by
  have hhead := List.head?_dropWhile_not isBlank cs
  rw [h] at hhead
  exact hhead

theorem dropWhile_eq_self {cs : List Char} (h : ∀ c, cs.head? = some c → isBlank c = false) :
    cs.dropWhile isBlank = cs := by
  cases cs with
  | nil => rfl
  | cons c cs =>
    have hc : ¬ isBlank c = true := by
      rw [h c rfl]
      exact Bool.false_ne_true
    rw [List.dropWhile_cons_of_neg hc]

theorem prefix_trimEnd (cs : List Char) : trimEnd cs <+: cs := by
  have hsuffix : cs.reverse.dropWhile isBlank <:+ cs.reverse := List.dropWhile_suffix isBlank
  have hprefix := List.reverse_prefix.2 hsuffix
  rw [List.reverse_reverse] at hprefix
  exact hprefix

theorem trimChars_sublist (cs : List Char) : (trimChars cs).Sublist cs :=
  (prefix_trimEnd _).sublist.trans (List.dropWhile_sublist isBlank)

theorem isTrimmed_trimChars (cs : List Char) : IsTrimmed (trimChars cs) where
  head := by
    intro c hc
    -- what is trimmed at the end starts as before
    obtain ⟨rest, hrest⟩ := prefix_trimEnd (cs.dropWhile isBlank)
    have hhead : (cs.dropWhile isBlank).head? = some c := by
      rw [← hrest, List.head?_append]
      show (trimChars cs).head?.or rest.head? = some c
      rw [hc, Option.some_or]
    exact isBlank_head?_dropWhile hhead
  last := by
    intro c hc
    unfold trimChars trimEnd at hc
    rw [List.getLast?_reverse] at hc
    exact isBlank_head?_dropWhile hc

theorem trimChars_of_isTrimmed {cs : List Char} (h : IsTrimmed cs) : trimChars cs = cs := by
  have hlast : ∀ c, cs.reverse.head? = some c → isBlank c = false := by
    intro c hc
    rw [List.head?_reverse] at hc
    exact h.last c hc
  unfold trimChars trimEnd
  rw [dropWhile_eq_self h.head, dropWhile_eq_self hlast, List.reverse_reverse]

theorem trimChars_cons_space (cs : List Char) : trimChars (' ' :: cs) = trimChars cs := by
  unfold trimChars
  rw [List.dropWhile_cons_of_pos (by decide)]

/-! ## Pieces -/

theorem splitOn_eq (sep : Char) (cs : List Char) : splitOn sep cs = cs.splitOn sep := by
  induction cs with
  | nil => rfl
  | cons c cs ih =>
    rw [splitOn, List.splitOn_cons_eq_if_modifyHead, ← ih]
    by_cases hc : c = sep
    · rw [if_pos hc, if_pos (beq_iff_eq.2 hc)]
    · rw [if_neg hc, if_neg (mt beq_iff_eq.1 hc)]
      cases hpieces : splitOn sep cs with
      | nil => exact absurd hpieces (splitOn_ne_nil sep cs)
      | cons piece pieces => rfl

/-- A name that a list of names between commas can hold. -/
structure IsListable (name : String) : Prop where
  comma_free : ',' ∉ name.toList
  trimmed : IsTrimmed name.toList

theorem commaPieces_ne_nil (s : String) : commaPieces s ≠ [] := by
  unfold commaPieces
  intro hnil
  exact splitOn_ne_nil _ _ (List.map_eq_nil_iff.1 hnil)

theorem isListable_of_mem_commaPieces {s name : String} (h : name ∈ commaPieces s) :
    IsListable name := by
  obtain ⟨piece, hpiece, rfl⟩ := List.mem_map.1 h
  have hcomma : ',' ∉ piece := not_mem_of_mem_splitOn hpiece
  refine ⟨?_, ?_⟩
  · rw [String.toList_ofList]
    intro hmem
    exact hcomma ((trimChars_sublist piece).subset hmem)
  · rw [String.toList_ofList]
    exact isTrimmed_trimChars piece

/-- What is listed by itself is read back. -/
theorem ofList_trimChars_of_isListable {name : String} (h : IsListable name) :
    String.ofList (trimChars name.toList) = name := by
  rw [trimChars_of_isTrimmed h.trimmed, String.ofList_toList]

theorem intercalate_cons_space (sep cs : List Char) (pieces : List (List Char)) :
    sep.intercalate ((' ' :: cs) :: pieces) = ' ' :: sep.intercalate (cs :: pieces) := by
  cases pieces with
  | nil => rfl
  | cons piece pieces =>
    rw [List.intercalate_cons_cons, List.intercalate_cons_cons]
    rfl

/-- A space behind a comma is a space in front of the next piece. -/
theorem intercalate_comma_space (cs : List Char) (pieces : List (List Char)) :
    [',', ' '].intercalate (cs :: pieces) = [','].intercalate (cs :: pieces.map (' ' :: ·)) := by
  induction pieces generalizing cs with
  | nil => rfl
  | cons piece pieces ih =>
    calc [',', ' '].intercalate (cs :: piece :: pieces)
        = cs ++ [',', ' '] ++ [','].intercalate (piece :: pieces.map (' ' :: ·)) := by
          rw [List.intercalate_cons_cons, ih]
      _ = cs ++ [','] ++ [','].intercalate ((' ' :: piece) :: pieces.map (' ' :: ·)) := by
          rw [intercalate_cons_space, List.append_assoc, List.append_assoc]
          rfl
      _ = [','].intercalate (cs :: (piece :: pieces).map (' ' :: ·)) := by
          rw [List.map_cons, List.intercalate_cons_cons]

/-- Names that can be listed are read back from their list. -/
theorem commaPieces_intercalate {names : List String} (hne : names ≠ [])
    (h : ∀ name ∈ names, IsListable name) : commaPieces (", ".intercalate names) = names := by
  cases names with
  | nil => exact absurd rfl hne
  | cons name names =>
    have hcomma : ∀ cs ∈ name.toList :: (names.map String.toList).map (' ' :: ·), ',' ∉ cs := by
      intro cs hcs
      rcases List.mem_cons.1 hcs with rfl | hcs
      · exact (h name List.mem_cons_self).comma_free
      · rw [List.map_map] at hcs
        obtain ⟨other, hother, rfl⟩ := List.mem_map.1 hcs
        have hfree := (h other (List.mem_cons_of_mem _ hother)).comma_free
        show ',' ∉ ' ' :: other.toList
        simp [hfree]
    have hpieces : splitOn ',' (", ".intercalate (name :: names)).toList =
        name.toList :: (names.map String.toList).map (' ' :: ·) := by
      rw [String.toList_intercalate, List.map_cons]
      show splitOn ',' ([',', ' '].intercalate _) = _
      rw [intercalate_comma_space, splitOn_eq, List.splitOn_intercalate ',' hcomma]
      exact List.cons_ne_nil _ _
    have hrest : names.map (fun n => String.ofList (trimChars (' ' :: n.toList))) = names := by
      refine (List.map_congr_left fun n hn => ?_).trans (List.map_id names)
      rw [trimChars_cons_space]
      exact ofList_trimChars_of_isListable (h n (List.mem_cons_of_mem _ hn))
    unfold commaPieces
    rw [hpieces, List.map_cons, List.map_map, List.map_map,
      ofList_trimChars_of_isListable (h name List.mem_cons_self)]
    exact congrArg (name :: ·) hrest

end DeclaredTools.Text
