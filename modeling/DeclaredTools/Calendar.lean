/-
  Dates and timestamps: which ones exist, their text, and when two timestamps are the same moment.
-/
namespace DeclaredTools

structure Date where
  year : Nat
  month : Nat
  day : Nat
  deriving DecidableEq

/-- A date with the time of day; `offset` counts the microseconds that the clock is ahead of UTC,
and is absent for a clock of no known zone. -/
structure Timestamp where
  date : Date
  hour : Nat
  minute : Nat
  second : Nat
  micro : Nat
  offset : Option Int
  deriving DecidableEq

/-- Why a date or a time of day does not exist. -/
inductive CalendarError where
  | year (n : Nat)
  | month
  | day
  | hour
  | minute
  | second
  | offset (micros : Int)
  deriving DecidableEq

namespace Calendar

def microsOfSecond : Nat := 1000000

def microsOfMinute : Nat := 60 * microsOfSecond

def microsOfDay : Nat := 1440 * microsOfMinute

/-- The number in decimal, with leading zeros up to `width` digits. -/
def padded (width n : Nat) : String :=
  let digits := toString n
  "".pushn '0' (width - digits.length) ++ digits

def isLeap (year : Nat) : Bool :=
  year % 4 = 0 && (year % 100 ≠ 0 || year % 400 = 0)

def daysIn (year month : Nat) : Nat :=
  if month = 2 then (if isLeap year then 29 else 28)
  else if month = 4 || month = 6 || month = 9 || month = 11 then 30
  else 31

/-- Days of a year before a month. -/
def daysBefore (year : Nat) : Nat → Nat
  | 0 => 0
  | 1 => 0
  | month + 2 => daysBefore year (month + 1) + daysIn year (month + 1)

/-- Days from 1 January of the year 1, which is the first. -/
def dayNumber (d : Date) : Nat :=
  let y := d.year - 1
  y * 365 + y / 4 - y / 100 + y / 400 + daysBefore d.year d.month + d.day

end Calendar

namespace Date

def mk? (year month day : Nat) : Except CalendarError Date :=
  if year < 1 || 9999 < year then .error (.year year)
  else if month < 1 || 12 < month then .error .month
  else if day < 1 || Calendar.daysIn year month < day then .error .day
  else .ok ⟨year, month, day⟩

/-- Year, month and day with hyphens. -/
def text (d : Date) : String :=
  Calendar.padded 4 d.year ++ "-" ++ Calendar.padded 2 d.month ++ "-" ++ Calendar.padded 2 d.day

end Date

namespace Timestamp

def mk? (year month day hour minute second micro : Nat) (offset : Option Int) :
    Except CalendarError Timestamp := do
  let date ← Date.mk? year month day
  if 23 < hour then throw .hour
  if 59 < minute then throw .minute
  if 59 < second then throw .second
  return ⟨date, hour, minute, second, micro, offset⟩

/-- Hours and minutes ahead of UTC, with a sign; seconds and microseconds where there are any. -/
def offsetText (micros : Int) : String :=
  let minutes := micros.natAbs / Calendar.microsOfMinute
  let rest := micros.natAbs % Calendar.microsOfMinute
  let fraction := rest % Calendar.microsOfSecond
  (if micros < 0 then "-" else "+") ++ Calendar.padded 2 (minutes / 60) ++ ":"
    ++ Calendar.padded 2 (minutes % 60)
    ++ (if rest = 0 then "" else ":" ++ Calendar.padded 2 (rest / Calendar.microsOfSecond))
    ++ (if fraction = 0 then "" else "." ++ Calendar.padded 6 fraction)

/-- The date and the time of day, with `mark` between them; microseconds where there are any. -/
def text (mark : String) (t : Timestamp) : String :=
  t.date.text ++ mark ++ Calendar.padded 2 t.hour ++ ":" ++ Calendar.padded 2 t.minute ++ ":"
    ++ Calendar.padded 2 t.second
    ++ (if t.micro = 0 then "" else "." ++ Calendar.padded 6 t.micro)
    ++ (match t.offset with
        | some micros => offsetText micros
        | none => "")

/-- Microseconds on the clock's own dial, from the day before the year 1. -/
def localMicros (t : Timestamp) : Nat :=
  (((Calendar.dayNumber t.date * 24 + t.hour) * 60 + t.minute) * 60 + t.second)
    * Calendar.microsOfSecond + t.micro

/-- The same moment; a clock of no known zone agrees only with another such clock. -/
def same (a b : Timestamp) : Bool :=
  match a.offset, b.offset with
  | none, none => a.localMicros == b.localMicros
  | some x, some y => (a.localMicros : Int) - x == (b.localMicros : Int) - y
  | _, _ => false

end Timestamp

namespace CalendarError

private def plural (n : Int) (unit : String) : String := unit ++ "=" ++ toString n

/-- A span of microseconds, in whole days, and the seconds and microseconds that remain. -/
def spanText (micros : Int) : String :=
  let days := micros.fdiv Calendar.microsOfDay
  let rest := micros.fmod Calendar.microsOfDay
  let seconds := rest.fdiv Calendar.microsOfSecond
  let fraction := rest.fmod Calendar.microsOfSecond
  let parts := [(days, "days"), (seconds, "seconds"), (fraction, "microseconds")].filterMap
    fun (n, unit) => if n = 0 then none else some (plural n unit)
  "datetime.timedelta(" ++ (if parts.isEmpty then "0" else ", ".intercalate parts) ++ ")"

def message : CalendarError → String
  | .year n => "year " ++ toString n ++ " is out of range"
  | .month => "month must be in 1..12"
  | .day => "day is out of range for month"
  | .hour => "hour must be in 0..23"
  | .minute => "minute must be in 0..59"
  | .second => "second must be in 0..59"
  | .offset micros =>
    "offset must be a timedelta strictly between -timedelta(hours=24) and timedelta(hours=24), not "
      ++ spanText micros ++ "."

end CalendarError

end DeclaredTools
