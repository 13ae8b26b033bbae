/-
  How alike two words are: the longest run of characters that both have is taken out, then the same
  is done on its left and on its right; the ratio counts the characters taken out.
-/
namespace DeclaredTools.Text

/-- A run of characters that two words share: where it starts in each, and its length. -/
structure Run where
  left : Nat
  right : Nat
  length : Nat

/-- The length of the common start. -/
def commonStart : List Char → List Char → Nat
  | a :: as, b :: bs => if a = b then commonStart as bs + 1 else 0
  | _, _ => 0

/-- All common runs, by their start in the left word and then in the right one. -/
def commonRuns (as bs : List Char) : List Run :=
  (List.range as.length).flatMap fun i =>
    (List.range bs.length).map fun j => ⟨i, j, commonStart (as.drop i) (bs.drop j)⟩

/-- The first of the longest common runs. -/
def longestRun (as bs : List Char) : Run :=
  (commonRuns as bs).foldl (fun best r => if best.length < r.length then r else best) ⟨0, 0, 0⟩

/-- How many characters match; the fuel is the length of a word. -/
def matching : Nat → List Char → List Char → Nat
  | 0, _, _ => 0
  | n + 1, as, bs =>
    let r := longestRun as bs
    if r.length = 0 then 0
    else matching n (as.take r.left) (bs.take r.right) + r.length
      + matching n (as.drop (r.left + r.length)) (bs.drop (r.right + r.length))

/-- Matching characters, twice, and the characters of both words. -/
def similarity (a b : String) : Nat × Nat :=
  (2 * matching a.length a.toList b.toList, a.length + b.length)

/-- At most three of the words that are alike, the most alike first; three fifths of the
characters have to match. -/
def closeMatches (word : String) (words : List String) : List String :=
  let scored := words.map fun w => (similarity w word, w)
  let close := scored.filter fun e => 3 * e.1.2 ≤ 5 * e.1.1
  let before := fun (x y : (Nat × Nat) × String) =>
    y.1.1 * x.1.2 < x.1.1 * y.1.2 || (y.1.1 * x.1.2 == x.1.1 * y.1.2 && decide (y.2 ≤ x.2))
  ((close.mergeSort before).take 3).map (·.2)

example : closeMatches "--formt" ["--preset", "--format", "--help"] = ["--format"] := by
  decide +kernel

end DeclaredTools.Text
