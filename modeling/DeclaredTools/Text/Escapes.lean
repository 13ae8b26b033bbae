/-
  Terminal escapes, which colour a text on a screen and have no place in a file.
-/
namespace DeclaredTools.Text

/-- The parameters of an escape: digits and separators. -/
def isEscapeParameter (c : Char) : Bool := '0' ≤ c && c ≤ '?'

/-- Marks that may stand behind the parameters. -/
def isEscapeMark (c : Char) : Bool := ' ' ≤ c && c ≤ '/'

/-- A letter or sign that ends an escape. -/
def endsEscape (c : Char) : Bool := '@' ≤ c && c ≤ '~'

/-- What stands behind the escape that comes first. -/
def behindEscape? : List Char → Option (List Char)
  | '\x1b' :: '[' :: cs =>
    match (cs.dropWhile isEscapeParameter).dropWhile isEscapeMark with
    | c :: rest => if endsEscape c then some rest else none
    | [] => none
  | _ => none

theorem length_lt_of_behindEscape? {cs rest : List Char} (h : behindEscape? cs = some rest) :
    rest.length < cs.length := by
  unfold behindEscape? at h
  split at h
  · next cs =>
    have h₁ := (cs.dropWhile_sublist isEscapeParameter).length_le
    have h₂ := ((cs.dropWhile isEscapeParameter).dropWhile_sublist isEscapeMark).length_le
    split at h
    · next c r hr =>
      split at h
      · simp only [Option.some.injEq] at h
        subst h
        simp only [hr, List.length_cons] at *
        omega
      · simp at h
    · simp at h
  · simp at h

/-- The characters without escapes. What is left is not read again. -/
def dropEscapes : List Char → List Char
  | [] => []
  | c :: cs =>
    match h : behindEscape? (c :: cs) with
    | some rest =>
      have := length_lt_of_behindEscape? h
      dropEscapes rest
    | none => c :: dropEscapes cs
  termination_by cs => cs.length
  decreasing_by
    · exact this
    · exact Nat.lt_succ_self _

theorem behindEscape?_eq_none {c : Char} (h : c ≠ '\x1b') (cs : List Char) :
    behindEscape? (c :: cs) = none := by
  unfold behindEscape?
  split
  · next he => exact absurd (List.cons.inj he).1 h
  · rfl

/-- A text without the character that starts escapes stays as it is. -/
theorem dropEscapes_eq_self {cs : List Char} (h : '\x1b' ∉ cs) : dropEscapes cs = cs := by
  induction cs with
  | nil => simp [dropEscapes]
  | cons c cs ih =>
    obtain ⟨hc, hcs⟩ := not_or.1 (mt List.mem_cons.2 h)
    rw [dropEscapes]
    split
    · next rest hr => rw [behindEscape?_eq_none (Ne.symm hc)] at hr; cases hr
    · rw [ih hcs]

/-- The text without escapes. -/
def withoutEscapes (s : String) : String := String.ofList (dropEscapes s.toList)

example : withoutEscapes "a\x1b[1;31mb\x1b[mc\x1b[ qd\x1b]e" = "abcd\x1b]e" := by cbv

end DeclaredTools.Text
