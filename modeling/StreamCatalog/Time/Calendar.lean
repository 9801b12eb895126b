/-!
# The calendar

Dates of the proleptic Gregorian calendar, with a year zero and negative years, and
their day numbers counted from the first of January 1970.  A year's first day is
computed in closed form; the way back guesses the year from the mean length of a
year and corrects the guess by at most one.
-/

namespace StreamCatalog
namespace Time

/-- Does the year have a twenty-ninth of February? -/
def isLeapYear (y : Int) : Bool := y % 4 = 0 && (y % 100 ≠ 0 || y % 400 = 0)

/-- The lengths of the months. -/
def monthLengths (leap : Bool) : List Nat :=
  [31, if leap then 29 else 28, 31, 30, 31, 30, 31, 31, 30, 31, 30, 31]

/-- Days from the start of year one to the start of a year. -/
def daysBeforeYear (y : Int) : Int :=
  365 * (y - 1) + (y - 1) / 4 - (y - 1) / 100 + (y - 1) / 400

/-- The day number of the first of January 1970, counted from year one. -/
def epochDay : Int := 719162

/-- A date: month and day count from one. -/
structure Date where
  year : Int
  month : Nat
  day : Nat
  deriving DecidableEq, Repr

/-- Days of a year before a month. -/
def daysBeforeMonth (leap : Bool) (month : Nat) : Nat :=
  ((monthLengths leap).take (month - 1)).foldl (· + ·) 0

/-- Is there such a date? -/
def Date.isValid (d : Date) : Bool :=
  1 ≤ d.month && d.month ≤ 12 && 1 ≤ d.day &&
    d.day ≤ (monthLengths (isLeapYear d.year)).getD (d.month - 1) 0

/-- The number of a day within its year, from one. -/
def Date.ordinal (d : Date) : Nat := daysBeforeMonth (isLeapYear d.year) d.month + d.day

/-- The day number of a date. -/
def Date.dayNumber (d : Date) : Int := daysBeforeYear d.year - epochDay + d.ordinal - 1

/-- The year that a day number, counted from year one, falls into. -/
def yearOf (n : Int) : Int :=
  let guess := n * 400 / 146097 + 1
  if n < daysBeforeYear guess then guess - 1
  else if daysBeforeYear (guess + 1) ≤ n then guess + 1
  else guess

/-- Find the month of a day that counts from zero, given the lengths of the months
from `month` on. -/
def monthOf (month : Nat) (n : Nat) : List Nat → Nat × Nat
  | [] => (month, n + 1)
  | length :: rest => if n < length then (month, n + 1) else monthOf (month + 1) (n - length) rest

/-- The date of a day number. -/
def Date.ofDayNumber (n : Int) : Date :=
  let m := n + epochDay
  let y := yearOf m
  let (month, day) := monthOf 1 (m - daysBeforeYear y).toNat (monthLengths (isLeapYear y))
  ⟨y, month, day⟩

/-- The day of the week of a day number, from zero for Monday. -/
def weekday (n : Int) : Nat := ((n + 3) % 7).toNat

/-- The year and the number of the week, where weeks start on Monday and belong to
the year of their Thursday. -/
def isoWeek (n : Int) : Int × Nat :=
  let thursday := Date.ofDayNumber (n - weekday n + 3)
  (thursday.year, (thursday.ordinal - 1) / 7 + 1)

/-- The number of the week if weeks start on a weekday (zero for Monday); days
before the first such day are in week zero. -/
def weekFrom (first : Nat) (n : Int) : Nat :=
  let sinceFirst := (weekday n + 7 - first) % 7
  ((Date.ofDayNumber n).ordinal + 6 - sinceFirst) / 7

end Time
end StreamCatalog
