import RecordFormula.Calendar.Reading
import RecordFormula.Calendar.Writing
import RecordFormula.Function.Arguments
import RecordFormula.Text.Case

/-!
# Dates in formulas

A date argument is a text that tells a moment, or a number of milliseconds since the start of 1970.
What is neither has no date, and its parts, shifts and distances are null.

* `Dates.moment?` — the moment of an argument;
* `Dates.year`, `Dates.month`, `Dates.day` — parts of a date;
* `Dates.shift`, `Dates.difference` — moving a date, and the time between two;
* `Dates.timestamp`, `Dates.today` — the present, for a moment that the clock shows.
-/

namespace RecordFormula

namespace Dates

/-- The whole part of a number, within the range of a signed 64-bit integer. -/
def whole (x : Float) : Int := Number.clampToInt (-9223372036854775808) 9223372036854775807 x

/-- The moment that a value stands for. -/
def moment? : Value → Option Moment
  | .number x => if Number.isFinite x then Moment.ofMilliseconds? (whole x) else none
  | .text s => Moment.read? s
  | _ => none

/-- A number, or null if there is none. -/
def orNull (x : Option Int) : Value :=
  match x with
  | some n => .number (Float.ofInt n)
  | none => .null

/-- The text of a moment, or null if there is none. -/
def written (m : Option Moment) : Value :=
  match m with
  | some m => .text m.text
  | none => .null

/-- The year of the argument. -/
def year (args : List Value) : Value :=
  orNull ((moment? (Arguments.value args 0)).map fun m => m.date.year)

/-- The month of the argument, from 1. -/
def month (args : List Value) : Value :=
  orNull ((moment? (Arguments.value args 0)).map fun m => (m.date.month : Int))

/-- The day of the month of the argument, from 1. -/
def day (args : List Value) : Value :=
  orNull ((moment? (Arguments.value args 0)).map fun m => (m.date.day : Int))

/-- A unit of time that a formula names. -/
inductive TimeUnit where
  /-- A minute. -/
  | minutes
  /-- An hour. -/
  | hours
  /-- A day of the clock. -/
  | days
  /-- A month of the calendar. -/
  | months
  /-- A year of the calendar. -/
  | years
deriving DecidableEq, Repr

/-- The unit of a name in the singular or the plural. Case and blanks around it do not matter. -/
def TimeUnit.ofName? (name : String) : Option TimeUnit :=
  match Text.lower (Text.trim name) with
  | "minutes" | "minute" => some .minutes
  | "hours" | "hour" => some .hours
  | "days" | "day" => some .days
  | "months" | "month" => some .months
  | "years" | "year" => some .years
  | _ => none

/-- A moment moved by a number of units. A fraction of a day counts, a fraction of a month or a year
does not. Other units do not move it. -/
def shiftBy (m : Moment) (amount : Float) : Option TimeUnit → Option Moment
  | some .days => m.shiftMilliseconds? (whole (amount * 86400000.0))
  | some .months => m.shiftMonths? (whole amount)
  | some .years => m.shiftMonths? (12 * whole amount)
  | _ => some m

/-- The first argument, moved by as many units as the second says; the third names the unit. -/
def shift (args : List Value) : Value :=
  let amount := Arguments.number args 1
  match moment? (Arguments.value args 0) with
  | none => .null
  | some m =>
    if Number.isFinite amount then
      written (shiftBy m amount (TimeUnit.ofName? (Arguments.text args 2)))
    else .null

/-- The milliseconds of the units in which time is told. -/
def TimeUnit.milliseconds? : TimeUnit → Option Float
  | .minutes => some 60000.0
  | .hours => some 3600000.0
  | .days => some 86400000.0
  | _ => none

/-- The time from the first argument to the second in units that the third names: whole ones, the
next below. Without a unit that tells time it is in milliseconds. -/
def difference (args : List Value) : Value :=
  match moment? (Arguments.value args 0), moment? (Arguments.value args 1) with
  | some a, some b =>
    let ms := Float.ofInt (b.millisecondsSince a)
    match (TimeUnit.ofName? (Arguments.text args 2)).bind TimeUnit.milliseconds? with
    | some unit => .number (Number.floor (ms / unit))
    | none => .number ms
  | _, _ => .null

/-- The timestamp of a moment given in milliseconds since the start of 1970. -/
def timestamp (ms : Int) : Value := written (Moment.ofMilliseconds? ms)

/-- The date of a moment given in milliseconds since the start of 1970. -/
def today (ms : Int) : Value :=
  match Moment.ofMilliseconds? ms with
  | some m => .text m.date.text
  | none => .null

end Dates

end RecordFormula
