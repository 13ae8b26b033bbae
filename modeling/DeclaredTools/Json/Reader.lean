/-
  Reading JSON text, with the place of the first fault. Numbers may be `NaN`, `Infinity` and
  `-Infinity`, and integers have a limited number of digits; of members with one name the last
  counts, at the place of the first. An escape for half a character is read as nothing here: there
  is no such text.
-/
import DeclaredTools.Text.Digit
import DeclaredTools.Value.Basic
import DeclaredTools.Binary64.Text

namespace DeclaredTools.Json

inductive Fault where
  | expectingValue
  | expectingName
  | expectingColon
  | expectingComma
  | extraData
  | controlCharacter
  | unterminatedText
  | escape
  | unicodeEscape
  | byteOrderMark
  /-- An integer with so many digits that none is made of them. -/
  | longInteger (digits : Nat)
  /-- An escape for one half of a pair that is a character together. -/
  | surrogate
  deriving DecidableEq

def Fault.message : Fault → String
  | .expectingValue => "Expecting value"
  | .expectingName => "Expecting property name enclosed in double quotes"
  | .expectingColon => "Expecting ':' delimiter"
  | .expectingComma => "Expecting ',' delimiter"
  | .extraData => "Extra data"
  | .controlCharacter => "Invalid control character at"
  | .unterminatedText => "Unterminated string starting at"
  | .escape => "Invalid \\escape"
  | .unicodeEscape => "Invalid \\uXXXX escape"
  | .byteOrderMark => "Unexpected UTF-8 BOM (decode using utf-8-sig)"
  | .longInteger digits => Text.tooManyDigits (": value has " ++ toString digits ++ " digits")
  | .surrogate => "Half a character"

/-- A fault and its place: the index of the character, its line and its column from 1. -/
structure ReadError where
  fault : Fault
  index : Nat
  line : Nat
  column : Nat

/-- The fault with its place, which does not matter where digits are too many. -/
def ReadError.message (e : ReadError) : String :=
  match e.fault with
  | .longInteger _ => e.fault.message
  | _ =>
    e.fault.message ++ ": line " ++ toString e.line ++ " column " ++ toString e.column ++ " (char "
      ++ toString e.index ++ ")"

/-- A fault with the characters from its place on. -/
abbrev Failure := Fault × List Char

def isSpace (c : Char) : Bool := c = ' ' || c = '\t' || c = '\n' || c = '\r'

def skipSpace (cs : List Char) : List Char := cs.dropWhile isSpace

def hexDigit? (c : Char) : Option Nat :=
  if c.isDigit then some (c.toNat - '0'.toNat)
  else if 'a' ≤ c && c ≤ 'f' then some (c.toNat - 'a'.toNat + 10)
  else if 'A' ≤ c && c ≤ 'F' then some (c.toNat - 'A'.toNat + 10)
  else none

/-- The value of the hexadecimal digits, if they are all digits. -/
def hexValue? (cs : List Char) : Option Nat :=
  cs.foldlM (fun n c => (hexDigit? c).map (n * 16 + ·)) 0

/-- What a letter behind a backslash stands for. -/
def shortEscape? : Char → Option Char
  | '"' => some '"'
  | '\\' => some '\\'
  | '/' => some '/'
  | 'b' => some '\x08'
  | 'f' => some '\x0c'
  | 'n' => some '\n'
  | 'r' => some '\r'
  | 't' => some '\t'
  | _ => none

/-- The number of an escape with four digits behind the `u`; at least one character must follow
them. -/
def unicodeUnit (atU : List Char) : Except Failure (Nat × List Char) :=
  let rest := atU.drop 1
  if rest.length ≤ 4 then .error (.unicodeEscape, atU)
  else
    match hexValue? (rest.take 4) with
    | some n => .ok (n, rest.drop 4)
    | none => .error (.unicodeEscape, atU)

/-- The character of a number. -/
def charOf (atU : List Char) (n : Nat) : Except Failure Char :=
  if n.isValidChar then .ok (Char.ofNat n) else .error (.surrogate, atU)

/-- The character of an escape that starts at its `u`; two escapes may form one character. -/
def unicodeEscape (atU : List Char) : Except Failure (Char × List Char) := do
  let (high, rest) ← unicodeUnit atU
  if 0xd800 ≤ high && high < 0xdc00 && 6 < rest.length && rest.take 2 = ['\\', 'u'] then
    match hexValue? ((rest.drop 2).take 4) with
    | none => throw (.unicodeEscape, rest.drop 1)
    | some low =>
      if 0xdc00 ≤ low && low < 0xe000 then
        return (Char.ofNat (0x10000 + (high - 0xd800) * 0x400 + (low - 0xdc00)), rest.drop 6)
      else return (← charOf atU high, rest)
  else return (← charOf atU high, rest)

/-- The characters up to the closing mark. `atMark` starts at the opening mark, `done` holds what
was read, last first. -/
def textBody (atMark : List Char) (done : List Char) :
    List Char → Nat → Except Failure (String × List Char)
  | _, 0 => .error (.unterminatedText, atMark)
  | [], _ => .error (.unterminatedText, atMark)
  | c :: cs, fuel + 1 =>
    if c = '"' then .ok (String.ofList done.reverse, cs)
    else if c = '\\' then
      match cs with
      | [] => .error (.unterminatedText, atMark)
      | e :: rest =>
        if e = 'u' then
          match unicodeEscape cs with
          | .ok (x, rest) => textBody atMark (x :: done) rest fuel
          | .error failure => .error failure
        else
          match shortEscape? e with
          | some x => textBody atMark (x :: done) rest fuel
          | none => .error (.escape, c :: cs)
    else if c.toNat < 0x20 then .error (.controlCharacter, c :: cs)
    else textBody atMark (c :: done) cs fuel

/-- A text in quotation marks; the input starts at the opening one. -/
def readText (atMark : List Char) : Except Failure (String × List Char) :=
  textBody atMark [] (atMark.drop 1) (atMark.length + 1)

/-- The number that digits write. -/
def numberOf (digits : List Char) : Nat :=
  digits.foldl (fun n c => n * 10 + (c.toNat - '0'.toNat)) 0

def signed (negative : Bool) (n : Nat) : Int := if negative then -n else n

/-- The exponent behind the digits, if there is one with digits. -/
def readExponent (cs : List Char) : Option (Int × List Char) :=
  match cs with
  | e :: rest =>
    if e = 'e' || e = 'E' then
      let (negative, rest) :=
        match rest with
        | '-' :: r => (true, r)
        | '+' :: r => (false, r)
        | r => (false, r)
      let digits := rest.takeWhile Char.isDigit
      if digits.isEmpty then none
      else some (signed negative (numberOf digits), rest.dropWhile Char.isDigit)
    else none
  | [] => none

/-- A point with digits behind it. -/
def readFraction (cs : List Char) : Option (List Char × List Char) :=
  match cs with
  | '.' :: rest =>
    let digits := rest.takeWhile Char.isDigit
    if digits.isEmpty then none else some (digits, rest.dropWhile Char.isDigit)
  | _ => none

/-- The digits ahead; a zero in front stands alone. -/
def wholeDigits (cs : List Char) : List Char :=
  if cs.head? = some '0' then ['0'] else cs.takeWhile Char.isDigit

/-- A number without leading zeros; it is a float if it has a fraction or an exponent. -/
def readNumber (start : List Char) : Except Failure (Value × List Char) :=
  let (negative, cs) :=
    match start with
    | '-' :: r => (true, r)
    | r => (false, r)
  let whole := wholeDigits cs
  if whole.isEmpty then .error (.expectingValue, start)
  else
    let rest := cs.drop whole.length
    let fraction := readFraction rest
    let rest := (fraction.map (·.2)).getD rest
    let exponent := readExponent rest
    let rest := (exponent.map (·.2)).getD rest
    if fraction.isNone && exponent.isNone then
      if Text.digitLimit < whole.length then .error (.longInteger whole.length, start)
      else .ok (.int (signed negative (numberOf whole)), rest)
    else
      let digits := fun (cs : List Char) => cs.map fun c => c.toNat - '0'.toNat
      .ok (.float (Binary64.ofParts negative (digits whole)
        (digits ((fraction.map (·.1)).getD [])) ((exponent.map (·.1)).getD 0)), rest)

/-- The words that stand for values. -/
def words : List (List Char × Value) :=
  [("null".toList, .null), ("true".toList, .bool true), ("false".toList, .bool false),
    ("NaN".toList, .float .nan), ("Infinity".toList, .float (.infinite false)),
    ("-Infinity".toList, .float (.infinite true))]

def readWord (cs : List Char) : Option (Value × List Char) :=
  words.findSome? fun (w, v) => if w.isPrefixOf cs then some (v, cs.drop w.length) else none

mutual

/-- A value that starts at the first character. -/
def readValue : Nat → List Char → Except Failure (Value × List Char)
  | 0, cs => .error (.expectingValue, cs)
  | _ + 1, [] => .error (.expectingValue, [])
  | fuel + 1, c :: cs =>
    if c = '"' then do
      let (s, rest) ← readText (c :: cs)
      return (.text s, rest)
    else if c = '\x7b' then
      let rest := skipSpace cs
      match rest with
      | '\x7d' :: rest => .ok (.map [], rest)
      | _ => do
        let (es, rest) ← readMembers fuel [] rest
        return (.map es, rest)
    else if c = '[' then
      let rest := skipSpace cs
      match rest with
      | ']' :: rest => .ok (.list [], rest)
      | _ => do
        let (xs, rest) ← readElements fuel rest
        return (.list xs, rest)
    else
      match readWord (c :: cs) with
      | some answer => .ok answer
      | none => readNumber (c :: cs)

/-- Members from a name on, up to the closing brace. -/
def readMembers :
    Nat → List (Value × Value) → List Char → Except Failure (List (Value × Value) × List Char)
  | 0, _, cs => .error (.expectingName, cs)
  | fuel + 1, es, cs =>
    if cs.head? ≠ some '"' then .error (.expectingName, cs)
    else do
      let (name, rest) ← readText cs
      let rest := skipSpace rest
      if rest.head? ≠ some ':' then throw (.expectingColon, rest)
      let (v, rest) ← readValue fuel (skipSpace (rest.drop 1))
      let es := Value.insertEntry (.text name) v es
      let rest := skipSpace rest
      match rest with
      | '\x7d' :: rest => return (es, rest)
      | ',' :: rest => readMembers fuel es (skipSpace rest)
      | _ => throw (.expectingComma, rest)

/-- Elements from the first on, up to the closing bracket. -/
def readElements : Nat → List Char → Except Failure (List Value × List Char)
  | 0, cs => .error (.expectingValue, cs)
  | fuel + 1, cs => do
    let (v, rest) ← readValue fuel cs
    let rest := skipSpace rest
    match rest with
    | ']' :: rest => return ([v], rest)
    | ',' :: rest => do
      let (vs, rest) ← readElements fuel (skipSpace rest)
      return (v :: vs, rest)
    | _ => throw (.expectingComma, rest)

end

/-- The place of a fault, from the characters that stand before it. -/
def ReadError.after (fault : Fault) (before : List Char) : ReadError :=
  ⟨fault, before.length, (before.filter (· = '\n')).length + 1,
    (before.reverse.takeWhile (· ≠ '\n')).length + 1⟩

/-- The value that the characters hold, with nothing but spaces around it. -/
def readChars (cs : List Char) : Except ReadError Value :=
  let place := fun (failure : Failure) =>
    ReadError.after failure.1 (cs.take (cs.length - failure.2.length))
  match readValue (cs.length + 1) (skipSpace cs) with
  | .error failure => .error (place failure)
  | .ok (v, rest) =>
    let rest := skipSpace rest
    if rest.isEmpty then .ok v else .error (place (.extraData, rest))

/-- The value that a text holds; a byte order mark is refused. -/
def read (s : String) : Except ReadError Value :=
  if s.toList.head? = some '\ufeff' then .error (.after .byteOrderMark [])
  else readChars s.toList

/-- The value in the body of a message, where a byte order mark may come first. -/
def readBody (s : String) : Except ReadError Value :=
  match s.toList with
  | '\ufeff' :: cs => readChars cs
  | cs => readChars cs

end DeclaredTools.Json
