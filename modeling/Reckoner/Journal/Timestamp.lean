import Reckoner.Number.Decimal
import Reckoner.Number.Rounding

set_option autoImplicit false

/-!
Points in time as date and time of day, counted from the start of the year 1970 without zones.
The calendar runs from the year 1 to the year 9999, and its first day is not used.
-/
namespace Reckoner

inductive TimeFault where
  | yearOutOfRange (year : Int)
  | beyondCalendar
  | beyondClock
  | beyondNumbers
  deriving Repr, DecidableEq

namespace TimeFault

def message : TimeFault → Text
  | .yearOutOfRange year => "year ".toList ++ Decimal.ofInt year ++ " is out of range".toList
  | .beyondCalendar => "[Errno 75] Value too large for defined data type".toList
  | .beyondClock => "timestamp out of range for platform time_t".toList
  | .beyondNumbers => "integer division result too large for a float".toList

end TimeFault

namespace Timestamp

/-- Year, month and day of a day counted from the first of January 1970. The year is taken to
start in March, so that the leap day ends it. -/
def civil (day : Int) : Int × Nat × Nat :=
  let shifted := day + 719468
  let era := shifted.fdiv 146097
  let dayOfEra := (shifted - era * 146097).toNat
  let yearOfEra := (dayOfEra - dayOfEra / 1460 + dayOfEra / 36524 - dayOfEra / 146096) / 365
  let dayOfYear := dayOfEra - (365 * yearOfEra + yearOfEra / 4 - yearOfEra / 100)
  let monthFromMarch := (5 * dayOfYear + 2) / 153
  let dayOfMonth := dayOfYear - (153 * monthFromMarch + 2) / 5 + 1
  let month := if monthFromMarch < 10 then monthFromMarch + 3 else monthFromMarch - 9
  let year := yearOfEra + era * 400 + (if month ≤ 2 then 1 else 0)
  (year, month, dayOfMonth)

/-- How far from the start of 1970 a point in time is, in seconds, given in milliseconds as a
quotient. A quotient is held as a binary fraction before it is divided, a whole number is not. -/
def seconds (milliseconds parts : Nat) : BinaryFraction :=
  if parts = 1 then BinaryFraction.nearest milliseconds 1000
  else
    let asked := BinaryFraction.nearest milliseconds parts
    BinaryFraction.nearest asked.numerator (1000 * Nat.pow 2 asked.scale)

/-- The microseconds of a distance in seconds. As a clock holds it with as many digits as a binary
fraction keeps, points far from 1970 come out some microseconds off. -/
def microseconds (held : BinaryFraction) : Nat := held.whole * 1000000 + held.portion 1000000

/-- How many seconds a clock counts in either direction. -/
def clockRange : Int := Int.pow 2 63

/-- How many years the calendar counts from 1900 in either direction. -/
def calendarRange : Int := Int.pow 2 31

def checkYear (second : Int) : Except TimeFault Unit :=
  let year := (civil (second.fdiv 86400)).1
  if year - 1900 < -calendarRange ∨ calendarRange ≤ year - 1900 then .error .beyondCalendar
  else if year < 1 ∨ 9999 < year then .error (.yearOutOfRange year)
  else .ok ()

/-- A number with zeros before it up to a width. -/
def fixed (width n : Nat) : Text :=
  let digits := Decimal.ofNat n
  List.replicate (width - digits.length) '0' ++ digits

def display (second : Int) (millisecond : Nat) : Text :=
  let day := second.fdiv 86400
  let time := (second - day * 86400).toNat
  let (year, month, dayOfMonth) := civil day
  fixed 4 year.toNat ++ ['-'] ++ fixed 2 month ++ ['-'] ++ fixed 2 dayOfMonth ++ ['T'] ++
    fixed 2 (time / 3600) ++ [':'] ++ fixed 2 (time / 60 % 60) ++ [':'] ++
    fixed 2 (time % 60) ++ ['.'] ++ fixed 3 millisecond

/-- Date and time of day to the millisecond begun, of `milliseconds / parts` milliseconds. The day
before must have a date as well. -/
def render (milliseconds : Int) (parts : Nat) : Except TimeFault Text :=
  let held := seconds milliseconds.natAbs parts
  let count : Int := microseconds held
  let time := if milliseconds < 0 then -count else count
  let second := time.fdiv 1000000
  if BinaryFraction.bound ≤ held.whole then .error .beyondNumbers
  else if second < -clockRange ∨ clockRange ≤ second then .error .beyondClock
  else do
    checkYear second
    checkYear (second - 86400)
    return display second ((time - second * 1000000).toNat / 1000)

end Timestamp

end Reckoner
