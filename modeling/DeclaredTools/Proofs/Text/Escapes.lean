/-
  Escapes in lines. An escape that has begun does not go on behind the end of a line, so a text
  loses its escapes line by line (`withoutEscapes_line`).
-/
import DeclaredTools.Text.Escapes

namespace DeclaredTools.Text

theorem dropWhile_append_cons {p : Char → Bool} {c : Char} (h : p c = false) (cs ds : List Char) :
    (cs ++ c :: ds).dropWhile p = cs.dropWhile p ++ c :: ds := by
  induction cs with
  | nil => exact List.dropWhile_cons_of_neg (by simp [h])
  | cons d cs ih =>
    rw [List.cons_append]
    cases hd : p d with
    | true => rw [List.dropWhile_cons_of_pos hd, List.dropWhile_cons_of_pos hd, ih]
    | false =>
      have hneg : ¬ p d = true := by simp [hd]
      rw [List.dropWhile_cons_of_neg hneg, List.dropWhile_cons_of_neg hneg, List.cons_append]

/-- The end of a line belongs to no escape. -/
theorem behindEscape?_append_newline (c : Char) (cs ds : List Char) :
    behindEscape? (c :: cs ++ '\n' :: ds) =
      (behindEscape? (c :: cs)).map (· ++ '\n' :: ds) := by
  by_cases hc : c = '\x1b'
  · subst hc
    cases cs with
    | nil => rfl
    | cons d cs =>
      by_cases hd : d = '['
      · subst hd
        rw [List.cons_append, List.cons_append, behindEscape?, behindEscape?,
          dropWhile_append_cons (by decide), dropWhile_append_cons (by decide)]
        cases (cs.dropWhile isEscapeParameter).dropWhile isEscapeMark with
        | nil => rfl
        | cons e rest =>
          dsimp only [List.cons_append]
          cases endsEscape e <;> rfl
      · have hnone : ∀ rest, behindEscape? ('\x1b' :: d :: rest) = none := by
          intro rest
          unfold behindEscape?
          split
          · next heq => exact absurd (List.cons.inj (List.cons.inj heq).2).1 hd
          · rfl
        rw [List.cons_append, List.cons_append, hnone, hnone]
        rfl
  · rw [List.cons_append, behindEscape?_eq_none hc, behindEscape?_eq_none hc]
    rfl

/-! ## Texts without their escapes -/

theorem dropEscapes_of_none {c : Char} {cs : List Char} (h : behindEscape? (c :: cs) = none) :
    dropEscapes (c :: cs) = c :: dropEscapes cs := by
  rw [dropEscapes]
  split
  · next rest hrest =>
    rw [h] at hrest
    cases hrest
  · rfl

theorem dropEscapes_of_some {c : Char} {cs rest : List Char}
    (h : behindEscape? (c :: cs) = some rest) : dropEscapes (c :: cs) = dropEscapes rest := by
  rw [dropEscapes]
  split
  · next other hother =>
    rw [h] at hother
    rw [Option.some.inj hother]
  · next hnone =>
    rw [h] at hnone
    cases hnone

theorem dropEscapes_append_newline (cs ds : List Char) :
    dropEscapes (cs ++ '\n' :: ds) = dropEscapes cs ++ '\n' :: dropEscapes ds := by
  induction cs using dropEscapes.induct with
  | case1 =>
    rw [List.nil_append, dropEscapes_of_none (behindEscape?_eq_none (by decide) ds), dropEscapes]
    rfl
  | case2 c cs rest hrest _ ih =>
    have happend := behindEscape?_append_newline c cs ds
    rw [hrest] at happend
    rw [dropEscapes_of_some hrest, ← ih]
    exact dropEscapes_of_some happend
  | case3 c cs hnone ih =>
    have happend := behindEscape?_append_newline c cs ds
    rw [hnone] at happend
    rw [dropEscapes_of_none hnone, List.cons_append, List.cons_append, ← ih]
    exact dropEscapes_of_none happend

theorem dropEscapes_append {cs : List Char} (h : '\x1b' ∉ cs) (ds : List Char) :
    dropEscapes (cs ++ ds) = cs ++ dropEscapes ds := by
  induction cs with
  | nil => rfl
  | cons c cs ih =>
    obtain ⟨hc, hcs⟩ := not_or.1 (mt List.mem_cons.2 h)
    rw [List.cons_append, dropEscapes_of_none (behindEscape?_eq_none (Ne.symm hc) _), ih hcs,
      List.cons_append]

theorem withoutEscapes_eq_self {s : String} (h : '\x1b' ∉ s.toList) : withoutEscapes s = s := by
  rw [withoutEscapes, dropEscapes_eq_self h, String.ofList_toList]

/-- Lines lose their escapes one by one. -/
theorem withoutEscapes_line (s t : String) :
    withoutEscapes (s ++ "\n" ++ t) = withoutEscapes s ++ "\n" ++ withoutEscapes t := by
  apply String.toList_inj.1
  simp only [withoutEscapes, String.toList_append, String.toList_ofList]
  show dropEscapes ((s.toList ++ ['\n']) ++ t.toList) = dropEscapes s.toList ++ ['\n'] ++ _
  rw [List.append_assoc, List.append_assoc]
  exact dropEscapes_append_newline s.toList t.toList

theorem withoutEscapes_append {s : String} (h : '\x1b' ∉ s.toList) (t : String) :
    withoutEscapes (s ++ t) = s ++ withoutEscapes t := by
  apply String.toList_inj.1
  simp only [withoutEscapes, String.toList_append, String.toList_ofList]
  exact dropEscapes_append h t.toList

end DeclaredTools.Text
