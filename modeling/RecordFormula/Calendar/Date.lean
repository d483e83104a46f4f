/-!
# Dates

Days of the Gregorian calendar, extended to all years. Days are numbered from the first of January
1970, which is day 0; the year before year 1 is year 0.

* `Date`, `Date.ofParts?` — the days by year, month and day of the month;
* `Date.number`, `Date.ofNumber` — the number of a day, and the day of a number;
* `Date.shiftMonths` — the same day some months later.
-/

namespace RecordFormula

/-- A day of the calendar. -/
structure Date where
  /-- The year. -/
  year : Int
  /-- The month, from 1 to 12. -/
  month : Nat
  /-- The day of the month, from 1. -/
  day : Nat
deriving DecidableEq, Repr

namespace Date

/-- Does the year have a twenty-ninth of February? -/
def isLeapYear (year : Int) : Bool := year % 4 == 0 && (year % 100 != 0 || year % 400 == 0)

/-- The lengths of the months of a year, in order. -/
def monthLengths (year : Int) : List Nat :=
  [31, if isLeapYear year then 29 else 28, 31, 30, 31, 30, 31, 31, 30, 31, 30, 31]

/-- The length of a month; there are no days in a month that does not exist. -/
def monthLength (year : Int) (month : Nat) : Nat :=
  if month = 0 then 0 else (monthLengths year)[month - 1]?.getD 0

/-- The first year that dates are kept of. -/
def firstYear : Int := -262143

/-- The last year that dates are kept of. -/
def lastYear : Int := 262142

/-- The date of a year, a month and a day, if there is such a day. -/
def ofParts? (year : Int) (month day : Nat) : Option Date :=
  if firstYear ≤ year ∧ year ≤ lastYear ∧ 1 ≤ day ∧ day ≤ monthLength year month then
    some ⟨year, month, day⟩
  else none

/-- The number of days from the first of January of year 1 to that of the given year. -/
def daysBeforeYear (year : Int) : Int :=
  let y := year - 1
  365 * y + y / 4 - y / 100 + y / 400

/-- The number of the first of January 1970 when the first of January of year 1 is day 0. -/
def epochDays : Int := 719162

/-- The number of days in the year before the given month. -/
def daysBeforeMonth (year : Int) (month : Nat) : Nat :=
  ((monthLengths year).take (month - 1)).foldr (· + ·) 0

/-- The number of a day. -/
def number (d : Date) : Int :=
  daysBeforeYear d.year - epochDays + (daysBeforeMonth d.year d.month : Int) + ((d.day : Int) - 1)

/-- The year of the day with the given number when the first of January of year 1 is day 0. The mean
length of a year leads to it or to a neighbour. -/
def yearOf (n : Int) : Int :=
  let y := 400 * n / 146097 + 1
  if n < daysBeforeYear y then y - 1
  else if daysBeforeYear (y + 1) ≤ n then y + 1
  else y

/-- The month and the day of the month, for the n-th day from zero of months with the given lengths,
the first of which has the given number. -/
def monthAndDay (month n : Nat) : List Nat → Nat × Nat
  | [] => (month, n + 1)
  | length :: rest =>
    if n < length then (month, n + 1) else monthAndDay (month + 1) (n - length) rest

/-- The day of a number. -/
def ofNumber (n : Int) : Date :=
  let n := n + epochDays
  let year := yearOf n
  let (month, day) := monthAndDay 1 (n - daysBeforeYear year).toNat (monthLengths year)
  ⟨year, month, day⟩

/-- Is the day in a year that dates are kept of? -/
def isInRange (d : Date) : Bool := firstYear ≤ d.year && d.year ≤ lastYear

/-- The same day so many months later, or the last day of that month if it is shorter. -/
def shiftMonths (d : Date) (months : Int) : Date :=
  let m := d.year * 12 + ((d.month : Int) - 1) + months
  let year := m / 12
  let month := (m % 12).toNat + 1
  ⟨year, month, min d.day (monthLength year month)⟩

end Date

end RecordFormula
