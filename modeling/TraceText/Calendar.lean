/-!
# The Gregorian calendar

Days are numbered from 1 January of the year 1, in the Gregorian calendar extended to all years.
A date and its number determine each other.

## Main definitions

* `Date` — year, month and day
* `Date.number`, `Date.ofNumber` — the number of a date, the date of a number
* `Date.isValid` — whether the month exists and has that day
* `Date.ordinal`, `Date.weekday` — the place of a date in its year and in its week
-/

namespace TraceText

/-- A year, a month from 1 to 12, and a day of the month from 1. -/
structure Date where
  year : Int
  month : Nat
  day : Nat
  deriving DecidableEq, Repr, Inhabited

/-- Every fourth year is a leap year, of the centuries only every fourth. -/
def isLeapYear (year : Int) : Bool :=
  year % 4 == 0 && (year % 100 != 0 || year % 400 == 0)

/-- The lengths of the months of a year. -/
def monthLengths (leap : Bool) : List Nat :=
  [31, if leap then 29 else 28, 31, 30, 31, 30, 31, 31, 30, 31, 30, 31]

/-- The number of days before a year begins, counted from the beginning of the year 1. -/
def daysBeforeYear (year : Int) : Int :=
  365 * (year - 1) + (year - 1) / 4 - (year - 1) / 100 + (year - 1) / 400

/-- The year that contains the day of this number.  The mean length of a year bounds the answer
from below, and at most two years follow. -/
def yearOfDay (n : Int) : Int :=
  let low := 400 * n / 146097
  if n < daysBeforeYear (low + 1) then low
  else if n < daysBeforeYear (low + 2) then low + 1
  else low + 2

/-- The place of day `r` of a year: how many months end before it, and its place in its month. -/
def splitMonths : List Nat → Nat → Nat × Nat
  | [], r => (0, r)
  | length :: rest, r =>
    if r < length then (0, r)
    else
      let (months, day) := splitMonths rest (r - length)
      (months + 1, day)

namespace Date

/-- The number of days of a date's month; none if there is no such month. -/
def monthLength (d : Date) : Nat := (0 :: monthLengths (isLeapYear d.year)).getD d.month 0

/-- Whether the month exists and has that day. -/
def isValid (d : Date) : Bool := 1 ≤ d.day && d.day ≤ d.monthLength

/-- The place of a date in its year, from 1. -/
def ordinal (d : Date) : Nat :=
  ((monthLengths (isLeapYear d.year)).take (d.month - 1)).foldr (· + ·) 0 + d.day

/-- The number of a date, counted from 1 January of the year 1. -/
def number (d : Date) : Int := daysBeforeYear d.year + d.ordinal - 1

/-- The date of a number. -/
def ofNumber (n : Int) : Date :=
  let year := yearOfDay n
  let (months, day) := splitMonths (monthLengths (isLeapYear year)) (n - daysBeforeYear year).toNat
  ⟨year, months + 1, day + 1⟩

/-- The place of a date in its week, from 0 for Monday. -/
def weekday (d : Date) : Nat := (d.number % 7).toNat

/-- The number of 1 January 1970. -/
def epoch : Int := 719162

end Date

end TraceText
