/-
  Tables in plain text: a heading in capitals, a rule, and one line a row.
-/
import DeclaredTools.Text.Case
import DeclaredTools.Value.Text

namespace DeclaredTools.Table

/-- The text in a column of a row; nothing where the row has no such entry. -/
def cell (column : String) (row : Value) : String :=
  ((row.get? column).map Value.display).getD ""

/-- The length of the longest text of a column, its name included. -/
def width (rows : List Value) (column : String) : Nat :=
  rows.foldl (fun w row => max w (cell column row).length) column.length

/-- The text filled up with spaces. -/
def padded (width : Nat) (s : String) : String := s ++ "".pushn ' ' (width - s.length)

/-- Cells beside each other. -/
def line (cells : List String) : String := "  ".intercalate cells

/-- The rows under their columns. -/
def render (rows : List Value) (columns : List String) : String :=
  if rows.isEmpty then "No results."
  else
    let widths := columns.map fun c => (c, width rows c)
    let heading := line (widths.map fun (c, w) => padded w (Text.upper c))
    let rule := line (widths.map fun (_, w) => "".pushn '-' w)
    "\n".intercalate (heading :: rule
      :: rows.map fun row => line (widths.map fun (c, w) => padded w (cell c row)))

end DeclaredTools.Table
