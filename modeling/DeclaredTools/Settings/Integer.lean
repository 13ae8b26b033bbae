/-
  Whole numbers as settings give them: in decimal, with a sign, with single underscores between
  digits, and with a fraction of zeros. Zeros in front do not count, nor do underscores behind
  them; a minus may follow them.
-/
import DeclaredTools.Text.Blank

namespace DeclaredTools.Settings.Integer

/-- Why a text is no whole number. -/
inductive Fault where
  | form
  /-- More characters than a number may have. -/
  | size
  deriving DecidableEq

/-- How many characters a number may have, not counting the zeros in front. -/
def greatestSize : Nat := 4300

/-- Without a plus in front, which stands before no minus. -/
def withoutPlus : List Char → Option (List Char)
  | '+' :: '-' :: _ => none
  | '+' :: cs => some cs
  | cs => some cs

/-- Without the zeros in front; `last` is the one before. Of zeros alone, or in front of a point,
the last character is kept. -/
def afterZeros (last : Char) : List Char → Option (List Char)
  | [] => some [last]
  | c :: cs =>
    if c = '0' || c = '_' then afterZeros c cs
    else if c.isDigit || c = '-' then some (c :: cs)
    else if c = '.' then some (last :: c :: cs)
    else none

/-- Without the zeros in front, if a number can start here. -/
def withoutZeros : List Char → Option (List Char)
  | [] => none
  | c :: cs =>
    if c = '0' then afterZeros c cs else if c.isDigit || c = '-' then some (c :: cs) else none

/-- Without a point and the zeros behind it, of which there is one at least. -/
def withoutFraction (cs : List Char) : Option (List Char) :=
  match cs.dropWhile (· ≠ '.') with
  | [] => some cs
  | _ :: fraction =>
    if !fraction.isEmpty && fraction.all (· = '0') then some (cs.takeWhile (· ≠ '.')) else none

/-- Without single underscores; they stand at neither end. -/
def withoutUnderscores (cs : List Char) : Option (List Char) :=
  let groups := Text.splitOn '_' cs
  if groups.any List.isEmpty then none else some groups.flatten

/-- The number that digits write. -/
def natural? (cs : List Char) : Option Nat :=
  if !cs.isEmpty && cs.all Char.isDigit then
    some (cs.foldl (fun n c => n * 10 + (c.toNat - 0x30)) 0)
  else none

def signed? : List Char → Option Int
  | '-' :: cs => (natural? cs).map fun n => -(n : Int)
  | cs => (natural? cs).map fun n => (n : Int)

/-- The sign and the digits of a number. -/
def clean? (s : String) : Option (List Char) := do
  withoutUnderscores (← withoutFraction (← withoutZeros (← withoutPlus
    (Text.trimNumber s.toList))))

def read (s : String) : Except Fault Int :=
  match clean? s with
  | none => .error .form
  | some cs =>
    if greatestSize < cs.length then .error .size
    else
      match signed? cs with
      | some n => .ok n
      | none => .error .form

example : signed? ((clean? " 80 ").getD []) = some 80 := by decide +kernel
example : clean? "+1.0" = some ['1'] ∧ clean? "00-5" = some ['-', '5']
    ∧ clean? "0__1" = some ['1'] := by decide +kernel
example : clean? "1.5" = none ∧ clean? "5." = none ∧ clean? "" = none ∧ clean? "abc" = none := by
  decide +kernel

end DeclaredTools.Settings.Integer
