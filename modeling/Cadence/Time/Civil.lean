/-
# Civil dates

A date of the proleptic Gregorian calendar is counted by the days since the first of January of
year 1, day zero. `dayOf` counts the days of a date, `dateOf` gives the date of a day, and
`weekday` numbers the days of the week from Sunday, 0, to Saturday, 6. Day zero is a Monday.

Key definitions: `isLeap`, `daysInMonth`, `daysBeforeYear`, `dayOf`, `dateOf`, `weekday`.
-/
namespace Cadence
namespace Time

/-- A date by year, month and day of the month. -/
structure Date where
  year : Nat
  month : Nat
  day : Nat
  deriving Repr, DecidableEq, Inhabited

/-- Whether a year has 366 days. -/
def isLeap (year : Nat) : Bool := year % 4 = 0 && (year % 100 != 0 || year % 400 = 0)

/-- The number of days of a month. -/
def daysInMonth (year month : Nat) : Nat :=
  match month with
  | 2 => if isLeap year then 29 else 28
  | 4 | 6 | 9 | 11 => 30
  | _ => 31

/-- The days before the first of January of a year, from year 1. -/
def daysBeforeYear (year : Nat) : Nat :=
  let y := year - 1
  365 * y + y / 4 - y / 100 + y / 400

/-- The days of a year before the first of a month. -/
def daysBeforeMonth (year month : Nat) : Nat :=
  (List.range (month - 1)).foldl (fun days m => days + daysInMonth year (m + 1)) 0

/-- Whether the month and the day exist and the year is between 1 and 9999. -/
def Date.isValid (d : Date) : Bool :=
  1 ≤ d.year && d.year ≤ 9999 && 1 ≤ d.month && d.month ≤ 12 && 1 ≤ d.day &&
    d.day ≤ daysInMonth d.year d.month

/-- The days from day zero to a date. -/
def dayOf (d : Date) : Nat := daysBeforeYear d.year + daysBeforeMonth d.year d.month + (d.day - 1)

/-- The year in which a day lies. Within 400 years the day is placed by centuries, then by groups of
four years, then by years; the last day of a leap year would start a further group, so each count
stops short of it. -/
def yearOf (day : Nat) : Nat :=
  let n400 := day / 146097
  let d400 := day % 146097
  let n100 := min (d400 / 36524) 3
  let d100 := d400 - n100 * 36524
  let n4 := d100 / 1461
  let d4 := d100 % 1461
  let n1 := min (d4 / 365) 3
  n400 * 400 + n100 * 100 + n4 * 4 + n1 + 1

/-- The month and day of the month of a day counted within a year, from month `month` on. -/
def monthFrom (year month dayOfYear : Nat) : Nat → Nat × Nat
  | 0 => (month, dayOfYear + 1)
  | left + 1 =>
    if dayOfYear < daysInMonth year month then (month, dayOfYear + 1)
    else monthFrom year (month + 1) (dayOfYear - daysInMonth year month) left

/-- The date of a day. -/
def dateOf (day : Nat) : Date :=
  let year := yearOf day
  let (month, d) := monthFrom year 1 (day - daysBeforeYear year) 11
  ⟨year, month, d⟩

/-- The day of the week, Sunday being 0. -/
def weekday (day : Nat) : Nat := (day + 1) % 7

end Time
end Cadence
