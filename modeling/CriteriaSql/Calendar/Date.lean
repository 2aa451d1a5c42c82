/-!
# Dates

Days of the proleptic Gregorian calendar, counted from 2000-01-01. Inside, years begin in March, so
that the leap day ends a year and all month lengths before it are regular.

* `toDays`, `ofDays`: a date as a count of days, and back.
* `isValid`: the dates that exist, within the supported years.
-/

namespace CriteriaSql.Calendar

/-- A year, a month from 1 and a day from 1. -/
structure Date where
  year : Int
  month : Nat
  day : Nat
  deriving DecidableEq, Repr

namespace Date

/-- The first and the last supported year. -/
def firstYear : Int := -262143

@[inherit_doc firstYear]
def lastYear : Int := 262142

/-- Every fourth year is a leap year, but of the full centuries only every fourth one. -/
def isLeap (year : Int) : Bool :=
  year % 4 = 0 && (year % 100 ≠ 0 || year % 400 = 0)

/-- The days of a month. -/
def monthLength (year : Int) (month : Nat) : Nat :=
  if month = 2 then (if isLeap year then 29 else 28)
  else if month = 4 ∨ month = 6 ∨ month = 9 ∨ month = 11 then 30
  else 31

/-- A date that exists, in a supported year. -/
def isValid (d : Date) : Bool :=
  firstYear ≤ d.year && d.year ≤ lastYear && 1 ≤ d.month && d.month ≤ 12 &&
    1 ≤ d.day && d.day ≤ monthLength d.year d.month

/-- The days from 0000-03-01 to 2000-01-01. -/
def epochShift : Int := 730425

/-- The days before a year that starts in March, from year 0 on. -/
def yearStart (y : Int) : Int :=
  365 * y + y / 4 - y / 100 + y / 400

/-- The days before a month of a year that starts in March, months counted from 0. -/
def monthStart (m : Int) : Int :=
  (153 * m + 2) / 5

/-- The day count of a date. -/
def toDays (d : Date) : Int :=
  let m : Int := if d.month ≤ 2 then d.month + 9 else d.month - 3
  let y : Int := if d.month ≤ 2 then d.year - 1 else d.year
  yearStart y + monthStart m + (d.day - 1) - epochShift

/-- The date of a day count. -/
def ofDays (days : Int) : Date :=
  let n := days + epochShift
  let era := n / 146097
  let inEra := n % 146097
  let yearOfEra := (inEra - inEra / 1460 + inEra / 36524 - inEra / 146096) / 365
  let inYear := inEra - yearStart yearOfEra
  let m := (5 * inYear + 2) / 153
  let y := 400 * era + yearOfEra
  { year := if m < 10 then y else y + 1
    month := (if m < 10 then m + 3 else m - 9).toNat
    day := (inYear - monthStart m + 1).toNat }

/-- Whether a day count falls into a supported year. -/
def inRange (days : Int) : Bool :=
  firstYear ≤ (ofDays days).year && (ofDays days).year ≤ lastYear

end Date

end CriteriaSql.Calendar
