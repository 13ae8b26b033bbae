/-
  Blank characters, trimming, and the pieces between commas.
-/
namespace DeclaredTools.Text

/-- Spaces, line ends, the four information separators and the wide spaces. -/
def isBlank (c : Char) : Bool :=
  let n := c.toNat
  (0x09 ≤ n && n ≤ 0x0d) || (0x1c ≤ n && n ≤ 0x20) || n == 0x85 || n == 0xa0 || n == 0x1680
    || (0x2000 ≤ n && n ≤ 0x200a) || n == 0x2028 || n == 0x2029 || n == 0x202f || n == 0x205f
    || n == 0x3000

/-- Without the blanks at the end. -/
def trimEnd (cs : List Char) : List Char := (cs.reverse.dropWhile isBlank).reverse

/-- Without the blanks at both ends. -/
def trimChars (cs : List Char) : List Char := trimEnd (cs.dropWhile isBlank)

/-- Blanks that may stand around a number: all but the information separators. -/
def isNumberBlank (c : Char) : Bool := isBlank c && !(0x1c ≤ c.toNat && c.toNat ≤ 0x1f)

/-- Without the blanks around a number. -/
def trimNumber (cs : List Char) : List Char :=
  ((cs.dropWhile isNumberBlank).reverse.dropWhile isNumberBlank).reverse

/-- The pieces between the separators; there is one more of them than separators. -/
def splitOn (sep : Char) : List Char → List (List Char)
  | [] => [[]]
  | c :: cs =>
    if c = sep then [] :: splitOn sep cs
    else
      match splitOn sep cs with
      | [] => [[c]]
      | piece :: pieces => (c :: piece) :: pieces

theorem splitOn_ne_nil (sep : Char) (cs : List Char) : splitOn sep cs ≠ [] := by
  induction cs with
  | nil => simp [splitOn]
  | cons c cs ih =>
    simp only [splitOn]
    split
    · simp
    · split <;> simp

theorem not_mem_of_mem_splitOn {sep : Char} {cs piece : List Char} (h : piece ∈ splitOn sep cs) :
    sep ∉ piece := by
  induction cs generalizing piece with
  | nil => simp_all [splitOn]
  | cons c cs ih =>
    simp only [splitOn] at h
    split at h
    · rcases List.mem_cons.1 h with rfl | h
      · simp
      · exact ih h
    · next hc =>
      split at h
      · next he => exact absurd he (splitOn_ne_nil _ _)
      · next p ps he =>
        rcases List.mem_cons.1 h with rfl | h
        · have := ih (he ▸ List.mem_cons_self)
          simp [this, Ne.symm hc]
        · exact ih (he ▸ List.mem_cons_of_mem _ h)

/-- The trimmed pieces between commas, empty ones included. -/
def commaPieces (s : String) : List String :=
  (splitOn ',' s.toList).map fun p => String.ofList (trimChars p)

/-- The trimmed pieces between commas that hold something. -/
def listItems (s : String) : List String := (commaPieces s).filter (· ≠ "")

example : commaPieces " a ,, b c" = ["a", "", "b c"] := by decide +kernel
example : listItems "x, y/z ," = ["x", "y/z"] := by decide +kernel

end DeclaredTools.Text
