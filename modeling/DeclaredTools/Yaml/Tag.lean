/-
  Tags: what kind of value a node stands for. A plain text shows its tag by its form.
-/
import DeclaredTools.Calendar
import DeclaredTools.Text.Blank
import DeclaredTools.Yaml.Character

namespace DeclaredTools.Yaml

inductive Tag where
  | null
  | bool
  | int
  | float
  | timestamp
  | binary
  | text
  | sequence
  | mapping
  | set
  | orderedMap
  | pairs
  /-- The key under which a mapping takes in the entries of others. -/
  | merge
  /-- The key under which a mapping keeps the text it stands for. -/
  | default
  /-- A tag of no known meaning. -/
  | unknown
  deriving DecidableEq

namespace Tag

/-- Where the names of the known tags live. -/
def space : String := "tag:yaml.org,2002:"

def names : List (String × Tag) := [
  ("null", .null), ("bool", .bool), ("int", .int), ("float", .float), ("timestamp", .timestamp),
  ("binary", .binary), ("str", .text), ("seq", .sequence), ("map", .mapping), ("set", .set),
  ("omap", .orderedMap), ("pairs", .pairs), ("merge", .merge), ("value", .default)]

/-- The tag of a full name. -/
def ofName (name : String) : Tag :=
  ((names.find? fun e => space ++ e.1 = name).map Prod.snd).getD .unknown

end Tag

/-! ## Forms of plain texts -/

namespace Form

def nulls : List String := ["~", "null", "Null", "NULL", ""]

def truths : List String := ["yes", "Yes", "YES", "true", "True", "TRUE", "on", "On", "ON"]

def falsehoods : List String := ["no", "No", "NO", "false", "False", "FALSE", "off", "Off", "OFF"]

def withoutSign : List Char → List Char
  | c :: cs => if c = '+' || c = '-' then cs else c :: cs
  | [] => []

def isDecimal (c : Char) : Bool := c.isDigit || c = '_'

def isOctal (c : Char) : Bool := ('0' ≤ c && c ≤ '7') || c = '_'

def isBinary (c : Char) : Bool := c = '0' || c = '1' || c = '_'

def isHexadecimal (c : Char) : Bool :=
  isDecimal c || ('a' ≤ c && c ≤ 'f') || ('A' ≤ c && c ≤ 'F')

/-- A place in base sixty: one or two digits. -/
def isSixtieth : List Char → Bool
  | [a] => a.isDigit
  | [a, b] => '0' ≤ a && a ≤ '5' && b.isDigit
  | _ => false

/-- At least one place in base sixty behind a first part. -/
def isSexagesimal (first : List Char → Bool) (cs : List Char) : Bool :=
  match Text.splitOn ':' cs with
  | whole :: place :: places => first whole && (place :: places).all isSixtieth
  | _ => false

/-- Digits and underscores that start with a digit other than zero. -/
def isNatural : List Char → Bool
  | c :: cs => c.isDigit && c ≠ '0' && cs.all isDecimal
  | [] => false

/-- Digits and underscores that start with a digit. -/
def isDigits : List Char → Bool
  | c :: cs => c.isDigit && cs.all isDecimal
  | [] => false

def isInteger (cs : List Char) : Bool :=
  match withoutSign cs with
  | ['0'] => true
  | '0' :: 'b' :: cs => !cs.isEmpty && cs.all isBinary
  | '0' :: 'x' :: cs => !cs.isEmpty && cs.all isHexadecimal
  | '0' :: cs => cs.all isOctal
  | cs => isNatural cs || isSexagesimal isNatural cs

/-- Nothing, or an exponent with its sign. -/
def isExponent : List Char → Bool
  | [] => true
  | e :: sign :: c :: cs =>
    (e = 'e' || e = 'E') && (sign = '+' || sign = '-') && (c :: cs).all Char.isDigit
  | _ => false

/-- Digits behind the point, and an exponent. -/
def isFraction (cs : List Char) : Bool := isExponent (cs.dropWhile isDecimal)

def isFloat (cs : List Char) : Bool :=
  let body := withoutSign cs
  let before := body.takeWhile (· ≠ '.')
  match body.dropWhile (· ≠ '.') with
  | [] => false
  | _ :: after =>
    (isDigits before && isFraction after)
      || (isSexagesimal isDigits before && after.all isDecimal)
      || (before.isEmpty && ["inf", "Inf", "INF"].contains (String.ofList after))
      || (cs.head? = some '.'
        && ((isDigits (after.takeWhile isDecimal) && isFraction after)
          || ["nan", "NaN", "NAN"].contains (String.ofList after)))

/-- The parts of a timestamp as written; a date alone has no time. -/
structure Clock where
  hour : Nat
  minute : Nat
  second : Nat
  fraction : List Char
  /-- Microseconds ahead of UTC. -/
  offset : Option Int

structure Stamp where
  year : Nat
  month : List Char
  day : List Char
  clock : Option Clock

def numberOf (cs : List Char) : Nat := cs.foldl (fun n c => n * 10 + (c.toNat - 0x30)) 0

/-- At least `least` and at most `most` digits. -/
def digits (least most : Nat) (cs : List Char) : Option (List Char × List Char) :=
  let ds := (cs.take most).takeWhile Char.isDigit
  if least ≤ ds.length then some (ds, cs.drop ds.length) else none

/-- The given character, and what follows. -/
def mark (c : Char) : List Char → Option (List Char)
  | d :: cs => if c = d then some cs else none
  | [] => none

/-- The zone at the end of a timestamp: none, UTC, or hours and minutes ahead of it. -/
def zone (cs : List Char) : Option (Option Int) :=
  match cs, cs.dropWhile isSpace with
  | [], _ => some none
  | _, ['Z'] => some (some 0)
  | _, sign :: rest => do
    if sign ≠ '+' && sign ≠ '-' then none
    let (hours, rest) ← digits 1 2 rest
    let minutes ←
      match rest with
      | [] => some []
      | rest => do
        let (minutes, rest) ← digits 2 2 (← mark ':' rest)
        if rest.isEmpty then some minutes else none
    let total : Int :=
      ((numberOf hours * 60 + numberOf minutes) * Calendar.microsOfMinute : Nat)
    return some (if sign = '-' then -total else total)
  | _, [] => none

def clock (cs : List Char) : Option Clock := do
  let (hour, rest) ← digits 1 2 cs
  let (minute, rest) ← digits 2 2 (← mark ':' rest)
  let (second, rest) ← digits 2 2 (← mark ':' rest)
  let (fraction, rest) :=
    match rest with
    | '.' :: rest => (rest.takeWhile Char.isDigit, rest.dropWhile Char.isDigit)
    | rest => ([], rest)
  return ⟨numberOf hour, numberOf minute, numberOf second, fraction, ← zone rest⟩

/-- The parts of a timestamp; month and day may have one digit. -/
def stamp (cs : List Char) : Option Stamp := do
  let (year, rest) ← digits 4 4 cs
  let (month, rest) ← digits 1 2 (← mark '-' rest)
  let (day, rest) ← digits 1 2 (← mark '-' rest)
  match rest with
  | [] => return ⟨numberOf year, month, day, none⟩
  | c :: rest =>
    if c = 'T' || c = 't' then return ⟨numberOf year, month, day, ← clock rest⟩
    else if isSpace c then return ⟨numberOf year, month, day, ← clock (rest.dropWhile isSpace)⟩
    else none

/-- A date alone has two digits for its month and its day. -/
def isTimestamp (cs : List Char) : Bool :=
  match stamp cs with
  | some s => s.clock.isSome || (s.month.length = 2 && s.day.length = 2)
  | none => false

/-- Without the line feed that may come last. -/
def line (cs : List Char) : List Char :=
  if cs.getLast? = some '\n' then cs.dropLast else cs

end Form

/-- The tag that a plain text shows; a line feed at its end does not count, but one alone is a
text. -/
def Tag.ofForm (text : String) : Tag :=
  if text = "\n" then .text
  else
    let cs := Form.line text.toList
    let word := String.ofList cs
    if Form.nulls.contains word then .null
    else if Form.truths.contains word || Form.falsehoods.contains word then .bool
    else if Form.isInteger cs then .int
    else if Form.isFloat cs then .float
    else if Form.isTimestamp cs then .timestamp
    else if word = "<<" then .merge
    else if word = "=" then .default
    else if word = "!" || word = "&" || word = "*" then .unknown
    else .text

end DeclaredTools.Yaml
