/-!
# Dates of the Gregorian calendar

A date is a year, a month and a day; the calendar extends without a break to years before the first
and after the last that have four digits.  Days are counted from the first of January 1970, and the
count is turned into a date and back with years that start in March, so that the leap day comes
last.

## Main definitions

* `Date`, `Date.isValid`: a year, month and day, and whether the calendar has that day.
* `Date.dayNumber`: the number of days from the first of January 1970 to a date.
* `Date.ofDayNumber`: the date that lies a number of days after the first of January 1970.
-/

namespace UsageLedger

/-- A year, a month from 1 and a day from 1. -/
structure Date where
  /-- The year, astronomically numbered: the year before 1 is 0. -/
  year : Int
  /-- The month, January being 1. -/
  month : Nat
  /-- The day of the month, the first being 1. -/
  day : Nat
  deriving DecidableEq

namespace Date

/-- Every fourth year is a leap year, but of the hundredth years only every fourth. -/
def isLeapYear (year : Int) : Bool :=
  year % 4 == 0 && (year % 100 != 0 || year % 400 == 0)

/-- The number of days in a month of a year. -/
def daysInMonth (year : Int) (month : Nat) : Nat :=
  match month with
  | 2 => if isLeapYear year then 29 else 28
  | 4 | 6 | 9 | 11 => 30
  | _ => 31

/-- The calendar has this day. -/
def isValid (d : Date) : Bool :=
  1 ≤ d.month && d.month ≤ 12 && 1 ≤ d.day && d.day ≤ daysInMonth d.year d.month

/-- The days before the first of a month, counted from the first of March; March is month 0. -/
def daysBeforeMonth (month : Nat) : Nat :=
  (153 * month + 2) / 5

/-- The days before the first of March of a year, counted from the first of March of the year 0. -/
def daysBeforeYear (year : Int) : Int :=
  365 * year + year / 4 - year / 100 + year / 400

/-- The number of the first of January 1970, counted from the first of March of the year 0. -/
def epochDay : Int := 719468

/-- The number of days from the first of January 1970 to a date. -/
def dayNumber (d : Date) : Int :=
  if d.month ≤ 2 then
    daysBeforeYear (d.year - 1) + daysBeforeMonth (d.month + 9) + (d.day - 1) - epochDay
  else
    daysBeforeYear d.year + daysBeforeMonth (d.month - 3) + (d.day - 1) - epochDay

/-- The date on a day of a year that starts in March. -/
def ofMarchYear (year : Int) (dayOfYear : Nat) : Date :=
  let month := (5 * dayOfYear + 2) / 153
  let day := dayOfYear - daysBeforeMonth month + 1
  if month < 10 then ⟨year, month + 3, day⟩ else ⟨year + 1, month - 9, day⟩

/-- The date that lies a number of days after the first of January 1970: the day is placed in its
period of four hundred years, then in its century, its four years and its year. -/
def ofDayNumber (n : Int) : Date :=
  let period := (n + epochDay) / 146097
  let dayOfPeriod := ((n + epochDay) % 146097).toNat
  let century := min (dayOfPeriod / 36524) 3
  let dayOfCentury := dayOfPeriod - 36524 * century
  let four := dayOfCentury / 1461
  let dayOfFour := dayOfCentury % 1461
  let single := min (dayOfFour / 365) 3
  ofMarchYear (400 * period + 100 * century + 4 * four + single) (dayOfFour - 365 * single)

end Date

end UsageLedger
