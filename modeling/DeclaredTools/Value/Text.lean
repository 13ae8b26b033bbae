/-
  The text of values: their display form, in which a text stands for itself, and their literal
  form, in which texts are quoted. An integer with too many digits has no text, nor has anything
  that it is part of: `literal` and `display` write out all digits, `isWritable` says for which
  values there is such a text, and what needs the text of a value asks for it with `writtenLiteral`
  or `written`.
-/
import DeclaredTools.Value.Basic
import DeclaredTools.Binary64.Text
import DeclaredTools.Text.Digit
import DeclaredTools.Text.Printable

namespace DeclaredTools

/-- Why a value has no text. -/
inductive Unwritable where
  /-- An integer has more digits than a text can have. -/
  | longInteger
  /-- A map has a key that JSON has no place for. -/
  | key (typeName : String)
  deriving DecidableEq

def Unwritable.message : Unwritable → String
  | .longInteger => Text.tooManyDigits ""
  | .key typeName => "keys must be str, int, float, bool or None, not " ++ typeName

namespace Value

/-- Lower-case hexadecimal with leading zeros up to `width` digits. -/
def hex (width n : Nat) : String :=
  let digits := String.ofList (Nat.toDigits 16 n)
  "".pushn '0' (width - digits.length) ++ digits

/-- Texts are quoted with an apostrophe, or with quotation marks if only apostrophes occur. -/
def quoteMark (cs : List Char) : Char :=
  if cs.contains '\'' && !cs.contains '"' then '"' else '\''

/-- A character between quotation marks. -/
def escaped (mark c : Char) : String :=
  let n := c.toNat
  if c = mark || c = '\\' then "\\" ++ c.toString
  else if c = '\t' then "\\t"
  else if c = '\n' then "\\n"
  else if c = '\r' then "\\r"
  else if Text.isPrintable c then c.toString
  else if n < 0x100 then "\\x" ++ hex 2 n
  else if n < 0x10000 then "\\u" ++ hex 4 n
  else "\\U" ++ hex 8 n

/-- A text in quotation marks. -/
def quoted (s : String) : String :=
  let mark := quoteMark s.toList
  mark.toString ++ String.join (s.toList.map (escaped mark)) ++ mark.toString

/-- Bytes in quotation marks; all but printable ASCII is escaped. -/
def quotedBytes (bs : List UInt8) : String :=
  let cs := bs.map fun b => Char.ofNat b.toNat
  let mark := quoteMark cs
  let one := fun (c : Char) =>
    if 0x7f ≤ c.toNat then "\\x" ++ hex 2 c.toNat else escaped mark c
  "b" ++ mark.toString ++ String.join (cs.map one) ++ mark.toString

/-- Numbers without digits, as words. -/
def floatWords : Binary64.Words := ⟨"inf", "nan"⟩

def floatText (x : Binary64) : String := x.text floatWords

/-- A date with its parts in parentheses. -/
def dateLiteral (d : Date) : String :=
  "datetime.date(" ++ ", ".intercalate [toString d.year, toString d.month, toString d.day] ++ ")"

def zoneLiteral (micros : Int) : String :=
  if micros = 0 then "datetime.timezone.utc"
  else "datetime.timezone(" ++ CalendarError.spanText micros ++ ")"

/-- A timestamp with its parts in parentheses; zero seconds are left out. -/
def timestampLiteral (t : Timestamp) : String :=
  let parts := [t.date.year, t.date.month, t.date.day, t.hour, t.minute]
    ++ (if t.micro ≠ 0 then [t.second, t.micro] else if t.second ≠ 0 then [t.second] else [])
  let zone := (t.offset.map fun micros => "tzinfo=" ++ zoneLiteral micros).toList
  "datetime.datetime(" ++ ", ".intercalate (parts.map toString ++ zone) ++ ")"

/-- A sequence of one element keeps a comma behind it. -/
def tupleText : List String → String
  | [x] => "(" ++ x ++ ",)"
  | xs => "(" ++ ", ".intercalate xs ++ ")"

def setText : List String → String
  | [] => "set()"
  | xs => "\x7b" ++ ", ".intercalate xs ++ "\x7d"

mutual

/-- The literal form. -/
def literal : Value → String
  | .null => "None"
  | .bool b => if b then "True" else "False"
  | .int n => toString n
  | .float x => floatText x
  | .text s => quoted s
  | .bytes bs => quotedBytes bs
  | .date d => dateLiteral d
  | .timestamp t => timestampLiteral t
  | .list xs => "[" ++ ", ".intercalate (literals xs) ++ "]"
  | .tuple xs => tupleText (literals xs)
  | .set xs => setText (literals xs)
  | .map es => "\x7b" ++ ", ".intercalate (entryLiterals es) ++ "\x7d"

def literals : List Value → List String
  | [] => []
  | x :: xs => literal x :: literals xs

def entryLiterals : List (Value × Value) → List String
  | [] => []
  | (k, v) :: es => (literal k ++ ": " ++ literal v) :: entryLiterals es

end

/-- The display form: texts, dates and timestamps stand for themselves. -/
def display : Value → String
  | .text s => s
  | .date d => d.text
  | .timestamp t => t.text " "
  | v => literal v

/-! ## Values that have a text -/

/-- The integer has no more digits than a text can have; a sign does not count. -/
def isShort (n : Int) : Bool := decide ((Nat.toDigits 10 n.natAbs).length ≤ Text.digitLimit)

mutual

/-- All integers in the value are short enough for a text. -/
def isWritable : Value → Bool
  | .int n => isShort n
  | .list xs => areWritable xs
  | .tuple xs => areWritable xs
  | .set xs => areWritable xs
  | .map es => areWritableEntries es
  | _ => true

def areWritable : List Value → Bool
  | [] => true
  | x :: xs => isWritable x && areWritable xs

def areWritableEntries : List (Value × Value) → Bool
  | [] => true
  | (k, v) :: es => isWritable k && (isWritable v && areWritableEntries es)

end

/-- The literal form, if there is one. -/
def writtenLiteral (v : Value) : Except Unwritable String :=
  if v.isWritable then .ok v.literal else .error .longInteger

/-- The display form, if there is one. -/
def written (v : Value) : Except Unwritable String :=
  if v.isWritable then .ok v.display else .error .longInteger

end Value

end DeclaredTools
