/-
  Binary floating-point numbers of 64 bits as exact dyadic rationals: rounding of a ratio to the
  nearest one, comparison, sum and product.
-/
namespace DeclaredTools

/-- A number `± mantissa · 2 ^ exponent`, an infinity, or no number. -/
inductive Binary64 where
  | finite (negative : Bool) (mantissa : Nat) (exponent : Int)
  | infinite (negative : Bool)
  | nan
  deriving DecidableEq

namespace Binary64

/-- Exponent of the least positive number. -/
def minExponent : Int := -1074

/-- Exponent of the largest numbers. -/
def maxExponent : Int := 971

def zero : Binary64 := .finite false 0 minExponent

/-- The numerator and the denominator of `mantissa · 2 ^ exponent`. -/
def ratio (mantissa : Nat) (exponent : Int) : Nat × Nat :=
  match exponent with
  | .ofNat e => (mantissa * Nat.pow 2 e, 1)
  | .negSucc e => (mantissa, Nat.pow 2 (e + 1))

/-- The quotient rounded to the nearest natural number, a half to the even one. -/
def roundDiv (num den : Nat) : Nat :=
  let q := num / den
  let r := num % den
  if 2 * r < den then q
  else if den < 2 * r then q + 1
  else if q % 2 = 0 then q else q + 1

/-- The number nearest to `num / den`, an even mantissa where two are equally near. -/
def ofRatio (negative : Bool) (num den : Nat) : Binary64 :=
  if num = 0 || den = 0 then .finite negative 0 minExponent
  else
    -- the quotient has its leading bit at `top` or `top + 1`
    let top : Int := (num.log2 : Int) - (den.log2 : Int) - 1
    let scaled := fun (e : Int) =>
      match e with
      | .ofNat e => roundDiv num (den * Nat.pow 2 e)
      | .negSucc e => roundDiv (num * Nat.pow 2 (e + 1)) den
    let place := fun (e : Int) =>
      let m := scaled e
      if m = Nat.pow 2 53 then (Nat.pow 2 52, e + 1) else (m, e)
    let low := max (top - 52) minExponent
    let (m, e) := place low
    let (m, e) := if Nat.pow 2 53 < m then place (low + 1) else (m, e)
    if maxExponent < e then .infinite negative else .finite negative m e

/-- The number nearest to an integer. -/
def ofInt (n : Int) : Binary64 := ofRatio (decide (n < 0)) n.natAbs 1

/-- The number nearest to `digits · 10 ^ power`. Far out of range only the side counts. -/
def ofDecimal (negative : Bool) (digits : Nat) (power : Int) : Binary64 :=
  if digits = 0 then .finite negative 0 minExponent
  else
    let size : Int := (Nat.toDigits 10 digits).length + power
    if 400 < size then .infinite negative
    else if size < -400 then .finite negative 0 minExponent
    else
      match power with
      | .ofNat e => ofRatio negative (digits * Nat.pow 10 e) 1
      | .negSucc e => ofRatio negative digits (Nat.pow 10 (e + 1))

def neg : Binary64 → Binary64
  | .finite s m e => .finite (!s) m e
  | .infinite s => .infinite (!s)
  | .nan => .nan

/-- The natural number that is left without sign and fraction. -/
def toNat : Binary64 → Nat
  | .finite _ m e =>
    let (n, d) := ratio m e
    n / d
  | _ => 0

/-- The integer that the number is, if it is one. -/
def toInt? : Binary64 → Option Int
  | .finite s m e =>
    let (n, d) := ratio m e
    if n % d = 0 then some (if s then -((n / d : Nat) : Int) else ((n / d : Nat) : Int)) else none
  | _ => none

def isZero : Binary64 → Bool
  | .finite _ 0 _ => true
  | _ => false

/-- The sign bit; no number has none. -/
def isNegative : Binary64 → Bool
  | .finite s _ _ => s
  | .infinite s => s
  | .nan => false

/-- The signed numerator and the denominator. -/
private def signed (s : Bool) (m : Nat) (e : Int) : Int × Nat :=
  let (n, d) := ratio m e
  (if s then -(n : Int) else n, d)

/-- Equal as numbers: the zeros are equal, and no number equals nothing, itself included. -/
def same : Binary64 → Binary64 → Bool
  | .finite s m e, .finite s' m' e' =>
    let (n, d) := signed s m e
    let (n', d') := signed s' m' e'
    n * d' == n' * d
  | .infinite s, .infinite s' => s == s'
  | _, _ => false

/-- Equal to an integer. -/
def sameInt (x : Binary64) (n : Int) : Bool := x.toInt? == some n

private def ofSigned (n : Int) (d : Nat) : Binary64 := ofRatio (decide (n < 0)) n.natAbs d

/-- The sum, rounded. -/
def add : Binary64 → Binary64 → Binary64
  | .finite s m e, .finite s' m' e' =>
    let (n, d) := signed s m e
    let (n', d') := signed s' m' e'
    let sum := n * d' + n' * d
    if sum = 0 then .finite (s && s') 0 minExponent else ofSigned sum (d * d')
  | .infinite s, .infinite s' => if s = s' then .infinite s else .nan
  | .infinite s, .finite .. => .infinite s
  | .finite .., .infinite s => .infinite s
  | _, _ => .nan

/-- The product, rounded. -/
def mul : Binary64 → Binary64 → Binary64
  | .finite s m e, .finite s' m' e' =>
    let (n, d) := ratio m e
    let (n', d') := ratio m' e'
    ofRatio (s != s') (n * n') (d * d')
  | .nan, _ => .nan
  | _, .nan => .nan
  | .infinite s, x => if x.isZero then .nan else .infinite (s != x.isNegative)
  | x, .infinite s => if x.isZero then .nan else .infinite (s != x.isNegative)

example : ofRatio false 1 1 = .finite false (Nat.pow 2 52) (-52) := by decide +kernel
example : (ofDecimal false 9007199254740993 0).toInt? = some 9007199254740992 := by decide +kernel
example : ofDecimal false 1 400 = .infinite false := by decide +kernel
example : ofDecimal false 5 (-324) = .finite false 1 (-1074) := by decide +kernel

end Binary64

end DeclaredTools
