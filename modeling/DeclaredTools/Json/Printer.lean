/-
  JSON text of values, in ASCII. Dates, bytes and sets are written as texts in their display form;
  a map is written only if its keys are texts, numbers, truth values or null, and an integer only if
  it is short enough for a text.
-/
import DeclaredTools.Value.Text

namespace DeclaredTools.Json

/-- How elements are laid out: on one line without spaces, or one a line, indented by two. -/
inductive Layout where
  | compact
  | indented
  deriving DecidableEq

/-- One unit of UTF-16 as an escape. -/
def unitEscape (n : Nat) : String := "\\u" ++ Value.hex 4 n

/-- A character inside quotation marks. -/
def escaped (c : Char) : String :=
  let n := c.toNat
  if c = '"' then "\\\""
  else if c = '\\' then "\\\\"
  else if c = '\n' then "\\n"
  else if c = '\r' then "\\r"
  else if c = '\t' then "\\t"
  else if n = 0x0c then "\\f"
  else if n = 0x08 then "\\b"
  else if 0x20 ≤ n && n ≤ 0x7e then c.toString
  else if n < 0x10000 then unitEscape n
  else unitEscape (0xd800 + (n - 0x10000) / 0x400) ++ unitEscape (0xdc00 + (n - 0x10000) % 0x400)

def quoted (s : String) : String := "\"" ++ String.join (s.toList.map escaped) ++ "\""

/-- Numbers without digits, as words. -/
def floatWords : Binary64.Words := ⟨"Infinity", "NaN"⟩

/-- How a message names the type of a key: those of the calendar in full where all is on one
line. -/
def Layout.typeName : Layout → Value → String
  | .compact, .date _ => "datetime.date"
  | .compact, .timestamp _ => "datetime.datetime"
  | _, v => v.typeName

/-- A key as text. -/
def keyText (layout : Layout) : Value → Except Unwritable String
  | .text s => .ok s
  | .null => .ok "null"
  | .bool b => .ok (if b then "true" else "false")
  | .int n => (Value.int n).writtenLiteral
  | .float x => .ok (x.text floatWords)
  | v => .error (.key (layout.typeName v))

/-- A line end and the indentation, where the layout has them. -/
def Layout.newline (layout : Layout) (depth : Nat) : String :=
  match layout with
  | .compact => ""
  | .indented => "\n" ++ "".pushn ' ' (2 * depth)

def Layout.colon : Layout → String
  | .compact => ":"
  | .indented => ": "

/-- Elements between brackets; nothing at all stands between the brackets of an empty one. -/
def bracketed (layout : Layout) (depth : Nat) (left right : String) (xs : List String) : String :=
  if xs.isEmpty then left ++ right
  else
    left ++ layout.newline (depth + 1) ++ ("," ++ layout.newline (depth + 1)).intercalate xs
      ++ layout.newline depth ++ right

mutual

/-- The JSON text of a value that stands `depth` levels deep. -/
def render (layout : Layout) (depth : Nat) : Value → Except Unwritable String
  | .null => .ok "null"
  | .bool b => .ok (if b then "true" else "false")
  | .int n => (Value.int n).writtenLiteral
  | .float x => .ok (x.text floatWords)
  | .text s => .ok (quoted s)
  | .list xs => do return bracketed layout depth "[" "]" (← renderList layout (depth + 1) xs)
  | .tuple xs => do return bracketed layout depth "[" "]" (← renderList layout (depth + 1) xs)
  | .map es => do
    return bracketed layout depth "\x7b" "\x7d" (← renderEntries layout (depth + 1) es)
  | .bytes bs => .ok (quoted (Value.display (.bytes bs)))
  | .date d => .ok (quoted (Value.display (.date d)))
  | .timestamp t => .ok (quoted (Value.display (.timestamp t)))
  | .set xs => (Value.set xs).written.map quoted

def renderList (layout : Layout) (depth : Nat) : List Value → Except Unwritable (List String)
  | [] => .ok []
  | x :: xs => do return (← render layout depth x) :: (← renderList layout depth xs)

def renderEntries (layout : Layout) (depth : Nat) :
    List (Value × Value) → Except Unwritable (List String)
  | [] => .ok []
  | (k, v) :: es => do
    let key ← keyText layout k
    let value ← render layout depth v
    return (quoted key ++ layout.colon ++ value) :: (← renderEntries layout depth es)

end

/-- Without spaces and line ends. -/
def compact (v : Value) : Except Unwritable String := render .compact 0 v

/-- One element a line. -/
def indented (v : Value) : Except Unwritable String := render .indented 0 v

end DeclaredTools.Json
