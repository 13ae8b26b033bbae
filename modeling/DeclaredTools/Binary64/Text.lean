/-
  Decimal text of binary numbers: the fewest digits that read back, and reading.
-/
import DeclaredTools.Binary64.Basic
import DeclaredTools.Text.Blank
import DeclaredTools.Text.Digit

namespace DeclaredTools.Binary64

/-- The decimal digits `digits`, of which `point` stand before the decimal point. -/
structure Digits where
  digits : Nat
  point : Int

/-- How many digits a natural number has. -/
def width (n : Nat) : Nat := (Nat.toDigits 10 n).length

/-- The least `e` with `num / den < 10 ^ e`. -/
def decimalSize (num den : Nat) : Int :=
  let e : Int := (width num : Int) - width den
  let below : Bool :=
    match e with
    | .ofNat e => num < den * Nat.pow 10 e
    | .negSucc e => num * Nat.pow 10 (e + 1) < den
  if below then e else e + 1

/-- The decimals of `count` digits that lie next to `num / den`, below or at it and above it. -/
private def neighbours (num den : Nat) (size : Int) (count : Nat) : Nat × (Nat × Nat) :=
  match size - count with
  | .ofNat e =>
    let den := den * Nat.pow 10 e
    (num / den, (num % den, den))
  | .negSucc e =>
    let num := num * Nat.pow 10 (e + 1)
    (num / den, (num % den, den))

/-- Where `digits · 10 ^ power` stands to `num / den`. -/
private def compareDecimal (digits : Nat) (power : Int) (num den : Nat) : Ordering :=
  match power with
  | .ofNat e => compare (digits * Nat.pow 10 e * den) num
  | .negSucc e => compare (digits * den) (num * Nat.pow 10 (e + 1))

private def strip : Nat → Nat → Nat
  | 0, n => n
  | fuel + 1, n => if n ≠ 0 && n % 10 = 0 then strip fuel (n / 10) else n

/-- The shortest decimal that reads back as `mantissa · 2 ^ exponent`, the nearest of those, of
two equally near the even one. Seventeen digits always suffice. -/
def shortest (mantissa : Nat) (exponent : Int) : Digits :=
  -- in quarters of the last place: the ends of the interval that rounds to the number
  let (num, den) := ratio (4 * mantissa) (exponent - 2)
  let below := if mantissa = Nat.pow 2 52 && minExponent < exponent then 1 else 2
  let (lowNum, lowDen) := ratio (4 * mantissa - below) (exponent - 2)
  let (highNum, highDen) := ratio (4 * mantissa + 2) (exponent - 2)
  let closed := mantissa % 2 = 0
  let size := decimalSize num den
  let readsBack := fun (d : Nat) (count : Nat) =>
    let power := size - count
    let low := compareDecimal d power lowNum lowDen
    let high := compareDecimal d power highNum highDen
    (low == .gt || (closed && low == .eq)) && (high == .lt || (closed && high == .eq))
  let pick := fun (count : Nat) =>
    let (d, r, step) := neighbours num den size count
    match readsBack d count, readsBack (d + 1) count with
    | true, true =>
      if 2 * r < step then some d
      else if step < 2 * r then some (d + 1)
      else if d % 2 = 0 then some d else some (d + 1)
    | true, false => some d
    | false, true => some (d + 1)
    | false, false => none
  let found := (List.range 17).findSome? fun i => (pick (i + 1)).map fun d => (d, i + 1)
  match found with
  | some (d, count) =>
    let grown := width d - count
    ⟨strip 17 d, size + grown⟩
  | none => ⟨num / den, size⟩

/-- The digits in positional notation with a point, or with an exponent when the first digit is
more than four places behind the point or more than sixteen before it. -/
def Digits.text (d : Digits) : String :=
  let digits := toString d.digits
  let count := width d.digits
  if -4 < d.point && d.point ≤ 16 then
    if d.point ≤ 0 then "0." ++ "".pushn '0' (-d.point).toNat ++ digits
    else
      let before := d.point.toNat
      if count ≤ before then digits ++ "".pushn '0' (before - count) ++ ".0"
      else (digits.take before).toString ++ "." ++ (digits.drop before).toString
  else
    let exponent := d.point - 1
    let size := toString exponent.natAbs
    (digits.take 1).toString ++ (if count = 1 then "" else "." ++ (digits.drop 1).toString)
      ++ (if exponent < 0 then "e-" else "e+")
      ++ (if size.length < 2 then "0" ++ size else size)

/-- How the values without digits are written. -/
structure Words where
  infinity : String
  nan : String

/-- The shortest text that reads back. -/
def text (words : Words) : Binary64 → String
  | .nan => words.nan
  | .infinite s => (if s then "-" else "") ++ words.infinity
  | .finite s m e =>
    (if s then "-" else "") ++ (if m = 0 then "0.0" else (shortest m e).text)

/-- The number with these digits before the point and behind it, and with this exponent. -/
def ofParts (negative : Bool) (whole fraction : List Nat) (exponent : Int) : Binary64 :=
  ofDecimal negative ((whole ++ fraction).foldl (fun n d => n * 10 + d) 0)
    (exponent - fraction.length)

/-- The digits at the start, and what stands behind them. -/
def takeDigits : List Char → List Nat × List Char
  | [] => ([], [])
  | c :: cs =>
    match Text.digit? c with
    | some d =>
      let (ds, rest) := takeDigits cs
      (d :: ds, rest)
    | none => ([], c :: cs)

/-- A sign at the start; without one the number is positive. -/
def takeSign : List Char → Bool × List Char
  | '-' :: cs => (true, cs)
  | '+' :: cs => (false, cs)
  | cs => (false, cs)

/-- An exponent, or nothing. -/
def readExponent? : List Char → Option Int
  | [] => some 0
  | e :: cs =>
    if e = 'e' || e = 'E' then
      let (negative, cs) := takeSign cs
      let (ds, rest) := takeDigits cs
      let n : Int := (ds.foldl (fun n d => n * 10 + d) 0 : Nat)
      if ds.isEmpty || !rest.isEmpty then none else some (if negative then -n else n)
    else none

/-- A decimal number with an optional sign, point and exponent, or a word for an infinity or for
no number, with blanks around it. -/
def read? (s : String) : Option Binary64 :=
  let (negative, cs) := takeSign (Text.trimNumber s.toList)
  let word := (String.ofList cs).toLower
  if word = "inf" || word = "infinity" then some (.infinite negative)
  else if word = "nan" then some .nan
  else
    let (whole, cs) := takeDigits cs
    let (fraction, cs) :=
      match cs with
      | '.' :: cs => takeDigits cs
      | cs => ([], cs)
    if whole.isEmpty && fraction.isEmpty then none
    else (readExponent? cs).map (ofParts negative whole fraction)

end DeclaredTools.Binary64
