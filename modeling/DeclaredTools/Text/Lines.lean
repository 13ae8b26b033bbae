/-
  Line ends: a carriage return, a line feed, or both in this order.
-/
namespace DeclaredTools.Text

/-- Every way of ending a line becomes a line feed. -/
def unifyLineEnds : List Char → List Char
  | '\r' :: '\n' :: cs => '\n' :: unifyLineEnds cs
  | '\r' :: cs => '\n' :: unifyLineEnds cs
  | c :: cs => c :: unifyLineEnds cs
  | [] => []

example : unifyLineEnds "a\r\nb\rc\n".toList = "a\nb\nc\n".toList := by decide +kernel

end DeclaredTools.Text
