/-
  Sets of code points given by sorted, disjoint ranges.
-/
namespace DeclaredTools.Text

/-- The code point lies in one of the ranges; both ends belong to a range. -/
def inRanges (ranges : List (Nat × Nat)) (n : Nat) : Bool :=
  ranges.any fun r => r.1 ≤ n && n ≤ r.2

end DeclaredTools.Text
