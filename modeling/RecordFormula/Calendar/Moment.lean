import RecordFormula.Calendar.Date

/-!
# Moments

Moments of universal time to the nanosecond. A leap second is told as the second before it with a
fraction of one second or more.

* `Moment`, `Moment.ofParts?`, `Moment.ofMilliseconds?` — the moments;
* `Moment.shiftMonths?`, `Moment.shiftMilliseconds?` — a moment before or after another one;
* `Moment.millisecondsSince` — the time between two moments.
-/

namespace RecordFormula

/-- A moment. -/
structure Moment where
  /-- The number of the day. -/
  day : Int
  /-- The second of the day. -/
  second : Nat
  /-- The nanosecond; from a thousand million on, the moment is in a leap second. -/
  nano : Nat
deriving DecidableEq, Repr

namespace Moment

/-- The nanoseconds of a second. -/
def nanosPerSecond : Nat := 1000000000

/-- The seconds of a day. -/
def secondsPerDay : Nat := 86400

/-- The milliseconds of a day. -/
def millisecondsPerDay : Nat := 86400000

/-- The date of a moment. -/
def date (m : Moment) : Date := Date.ofNumber m.day

/-- The moment, if its date is in the range of dates that are kept. -/
def inRange? (m : Moment) : Option Moment := if m.date.isInRange then some m else none

/-- The time of day in seconds, and the nanosecond; the sixtieth second of a minute is a leap
second. -/
def timeOfDay? (hour minute second nano : Nat) : Option (Nat × Nat) :=
  if hour < 24 ∧ minute < 60 ∧ second ≤ 60 then
    if second = 60 then some (hour * 3600 + minute * 60 + 59, nanosPerSecond + nano)
    else some (hour * 3600 + minute * 60 + second, nano)
  else none

/-- The moment of a date and a time of day, if there are such a date and such a time. -/
def ofParts? (year : Int) (month day hour minute second nano : Nat) : Option Moment := do
  let date ← Date.ofParts? year month day
  let (second, nano) ← timeOfDay? hour minute second nano
  some ⟨date.number, second, nano⟩

/-- The moment so many milliseconds after the start of 1970, if it is in range. -/
def ofMilliseconds? (ms : Int) : Option Moment :=
  inRange? ⟨ms / millisecondsPerDay, (ms / 1000 % secondsPerDay).toNat,
    (ms % 1000).toNat * 1000000⟩

/-- The moment so many whole seconds later, on a clock that does not count leap seconds. -/
def shiftSeconds (m : Moment) (seconds : Int) : Moment :=
  let s := (m.second : Int) + seconds
  ⟨m.day + s / secondsPerDay, (s % secondsPerDay).toNat, m.nano⟩

/-- The moment so many milliseconds later. The way out of a leap second leads through its end:
forwards it takes the rest of a second, backwards the second before is the last of its minute. -/
def shiftMilliseconds (m : Moment) (ms : Int) : Moment :=
  let seconds := ms.tdiv 1000
  let nanos := ms.tmod 1000 * 1000000
  let inLeap := nanosPerSecond ≤ m.nano
  let leavesForwards := seconds > 0 ∨ (nanos > 0 ∧ 2 * nanosPerSecond ≤ m.nano + nanos)
  if inLeap ∧ ¬leavesForwards ∧ ¬(seconds < 0) then ⟨m.day, m.second, (m.nano + nanos).toNat⟩
  else
    let nano : Int := if inLeap then m.nano - nanosPerSecond else m.nano
    let second : Int := if inLeap ∧ ¬leavesForwards then m.second + 1 else m.second
    let total := nano + nanos
    shiftSeconds ⟨m.day, 0, (total % nanosPerSecond).toNat⟩
      (second + seconds + total / nanosPerSecond)

/-- The moment so many milliseconds later, if it is in range. -/
def shiftMilliseconds? (m : Moment) (ms : Int) : Option Moment :=
  inRange? (m.shiftMilliseconds ms)

/-- The same time of the day some months later, if it is in range. The last days of a long month
become the last day of a short one. -/
def shiftMonths? (m : Moment) (months : Int) : Option Moment :=
  let date := m.date.shiftMonths months
  if date.isInRange then some { m with day := date.number } else none

/-- The seconds between two times of day, disregarding fractions. A leap second between them
counts. -/
def secondsBetween (earlier later : Moment) : Int :=
  let difference := (later.second : Int) - earlier.second
  if earlier.second < later.second ∧ nanosPerSecond ≤ earlier.nano then difference + 1
  else if later.second < earlier.second ∧ nanosPerSecond ≤ later.nano then difference - 1
  else difference

/-- The nanoseconds from one moment to the other. -/
def nanosecondsSince (later earlier : Moment) : Int :=
  ((later.day - earlier.day) * secondsPerDay + secondsBetween earlier later) * nanosPerSecond +
    ((later.nano : Int) - earlier.nano)

/-- The whole milliseconds from one moment to the other. -/
def millisecondsSince (later earlier : Moment) : Int :=
  (later.nanosecondsSince earlier).tdiv 1000000

end Moment

end RecordFormula
