/-
  The values of tagged texts: truth values, numbers in several bases, timestamps, bytes.
-/
import DeclaredTools.Binary64.Text
import DeclaredTools.Text.Case
import DeclaredTools.Yaml.Fault
import DeclaredTools.Yaml.Tag

namespace DeclaredTools.Yaml.Atom

def truth (text : String) : Except Fault Value :=
  let word := Text.lower text
  if ["yes", "true", "on"].contains word then .ok (.bool true)
  else if ["no", "false", "off"].contains word then .ok (.bool false)
  else .error (.truth word)

/-! ## Integers -/

/-- The value of a digit in a base up to 36. -/
def digitIn? (base : Nat) (c : Char) : Option Nat :=
  let value :=
    if 'a' ≤ c && c ≤ 'z' then some (c.toNat - 'a'.toNat + 10)
    else if 'A' ≤ c && c ≤ 'Z' then some (c.toNat - 'A'.toNat + 10)
    else Text.digit? c
  value.filter (· < base)

/-- The letter that may follow a zero in front of digits in this base. -/
def baseLetter? : Nat → Option Char
  | 2 => some 'b'
  | 8 => some 'o'
  | 16 => some 'x'
  | _ => none

/-- Without a zero and the letter of the base. -/
def withoutBase (base : Nat) : List Char → List Char
  | '0' :: c :: cs => if baseLetter? base = some c.toLower then cs else '0' :: c :: cs
  | cs => cs

/-- How many digits there are, zeros in front included, if they are too many for their base. Powers
of two take any number of them. -/
def excess? (base : Nat) (cs : List Char) : Option Nat :=
  let digits := (cs.takeWhile fun c => (digitIn? base c).isSome).length
  if base = 10 && Text.digitLimit < digits then some digits else none

/-- An integer with an optional sign and mark of its base, with blanks around it. -/
def integerIn (base : Nat) (cs : List Char) : Except Fault Int :=
  let (negative, body) := Binary64.takeSign (Text.trimNumber cs)
  match excess? base body with
  | some digits => .error (.longInteger digits)
  | none =>
    match (withoutBase base body).mapM (digitIn? base) with
    | none => .error (.integer base (String.ofList cs))
    | some [] => .error (.integer base (String.ofList cs))
    | some digits =>
      let n : Int := (digits.foldl (fun n d => n * base + d) 0 : Nat)
      .ok (if negative then -n else n)

/-- The sign in front, which a minus makes -1, and the rest; a text has to be there. -/
def splitSign : List Char → Except Fault (Bool × List Char)
  | [] => .error .noText
  | cs => .ok (Binary64.takeSign cs)

/-- Places in base sixty, highest first. -/
def sixtieths (places : List Int) : Int := places.foldl (fun n d => n * 60 + d) 0

def magnitude : List Char → Except Fault Int
  | [] => .error .noText
  | ['0'] => .ok 0
  | '0' :: 'b' :: cs => integerIn 2 cs
  | '0' :: 'x' :: cs => integerIn 16 cs
  | '0' :: cs => integerIn 8 ('0' :: cs)
  | cs =>
    if cs.contains ':' then do
      return sixtieths (← (Text.splitOn ':' cs).mapM (integerIn 10))
    else integerIn 10 cs

def integer (text : String) : Except Fault Value := do
  let (negative, cs) ← splitSign (text.toList.filter (· ≠ '_'))
  let n ← magnitude cs
  return .int (if negative then -n else n)

/-! ## Floats -/

def floatOf (cs : List Char) : Except Fault Binary64 :=
  match Binary64.read? (String.ofList cs) with
  | some x => .ok x
  | none => .error (.float (String.ofList cs))

/-- Places in base sixty, lowest first, added up from zero; a weight has to be a finite float. -/
def weigh (sum : Binary64) (weight : Nat) : List Binary64 → Except Fault Binary64
  | [] => .ok sum
  | x :: xs =>
    match Binary64.ofInt weight with
    | .finite s m e => weigh (sum.add (x.mul (.finite s m e))) (weight * 60) xs
    | _ => .error .tooLarge

/-- Without underscores, in lower case. -/
def plainFloat (text : String) : List Char :=
  (Text.lower (String.ofList (text.toList.filter (· ≠ '_')))).toList

/-- The word for no number, after an optional sign. -/
def isNanWord (text : String) : Bool :=
  String.ofList (Binary64.takeSign (plainFloat text)).2 = ".nan"

def float (text : String) : Except Fault Value := do
  let (negative, cs) ← splitSign (plainFloat text)
  let x ←
    if String.ofList cs = ".inf" then pure (Binary64.infinite false)
    else if String.ofList cs = ".nan" then pure Binary64.nan
    else if cs.contains ':' then do
      weigh Binary64.zero 1 (← (Text.splitOn ':' cs).mapM floatOf).reverse
    else floatOf cs
  return .float (if negative then x.neg else x)

/-! ## Timestamps -/

/-- Microseconds: the first six digits behind the point. -/
def micros (fraction : List Char) : Nat :=
  let ds := fraction.take 6
  Form.numberOf ds * Nat.pow 10 (6 - ds.length)

/-- A zone is less than a day away from UTC. -/
def checkOffset : Option Int → Except CalendarError Unit
  | some micros =>
    if Calendar.microsOfDay ≤ micros.natAbs then .error (.offset micros) else .ok ()
  | none => .ok ()

def ofStamp (s : Form.Stamp) : Except CalendarError Value := do
  let month := Form.numberOf s.month
  let day := Form.numberOf s.day
  match s.clock with
  | none => return .date (← Date.mk? s.year month day)
  | some c =>
    checkOffset c.offset
    return .timestamp (← Timestamp.mk? s.year month day c.hour c.minute c.second
      (micros c.fraction) c.offset)

def timestamp (text : String) : Except Fault Value :=
  match Form.stamp (Form.line text.toList) with
  | none => .error .notTimestamp
  | some s =>
    match ofStamp s with
    | .ok v => .ok v
    | .error e => .error (.calendar e)

/-! ## Bytes -/

/-- The value of a base-64 digit. -/
def base64Digit? (c : Char) : Option Nat :=
  let n := c.toNat
  if 'A' ≤ c && c ≤ 'Z' then some (n - 'A'.toNat)
  else if 'a' ≤ c && c ≤ 'z' then some (n - 'a'.toNat + 26)
  else if c.isDigit then some (n - '0'.toNat + 52)
  else if c = '+' then some 62
  else if c = '/' then some 63
  else none

/-- Reads digits in groups of four; `held` are those of a group that is not full, and `pads` the
padding signs since the last digit. Other characters are skipped, and a group that padding fills
ends the text. -/
def base64From (held : List Nat) (pads : Nat) : List Char → Option (List UInt8)
  | [] => if held.isEmpty then some [] else none
  | c :: cs =>
    if c = '=' then
      if 2 ≤ held.length then
        if 4 ≤ held.length + pads + 1 then some (octets held) else base64From held (pads + 1) cs
      else base64From held pads cs
    else
      match base64Digit? c with
      | none => base64From held pads cs
      | some d =>
        if held.length = 3 then (base64From [] 0 cs).map (octets (held ++ [d]) ++ ·)
        else base64From (held ++ [d]) 0 cs
where
  /-- The octets that are complete in a group of digits. -/
  octets (ds : List Nat) : List UInt8 :=
    let padded := ds ++ List.replicate (4 - ds.length) 0
    let n := padded.foldl (fun n d => n * 64 + d) 0
    [UInt8.ofNat (n / 65536), UInt8.ofNat (n / 256 % 256), UInt8.ofNat (n % 256)].take
      (ds.length - 1)

def bytes (text : String) : Except Fault Value :=
  if text.toList.any fun c => 0x80 ≤ c.toNat then .error .malformed
  else
    match base64From [] 0 text.toList with
    | some bs => .ok (.bytes bs)
    | none => .error .malformed

/-! ## All kinds -/

/-- The value of a text under a tag. -/
def ofText (tag : Tag) (text : String) : Except Fault Value :=
  match tag with
  | .null => .ok .null
  | .bool => truth text
  | .int => integer text
  | .float => float text
  | .timestamp => timestamp text
  | .binary => bytes text
  | .text => .ok (.text text)
  | _ => .error .malformed

end DeclaredTools.Yaml.Atom
