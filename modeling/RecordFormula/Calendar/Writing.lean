import RecordFormula.Calendar.Moment

/-!
# Writing dates and moments

* `Date.text` — as in `2024-02-29`;
* `Moment.text` — as in `2024-02-29T12:30:00.000Z`, with the milliseconds cut off, not rounded.
-/

namespace RecordFormula

/-- A number in decimal, filled up with zeros in front to a number of digits. -/
def paddedDigits (width n : Nat) : String :=
  let digits := Nat.toDigits 10 n
  String.ofList (List.replicate (width - digits.length) '0' ++ digits)

namespace Date

/-- The text of a year: four digits, and a sign if four digits are not enough or the year is
negative. -/
def yearText (year : Int) : String :=
  if 0 ≤ year ∧ year ≤ 9999 then paddedDigits 4 year.natAbs
  else (if year < 0 then "-" else "+") ++ paddedDigits 4 year.natAbs

/-- The text of a date. -/
def text (d : Date) : String :=
  yearText d.year ++ "-" ++ paddedDigits 2 d.month ++ "-" ++ paddedDigits 2 d.day

end Date

namespace Moment

/-- The text of a moment; the time in a leap second has sixty seconds. -/
def text (m : Moment) : String :=
  let leap := m.nano / nanosPerSecond
  m.date.text ++ "T" ++ paddedDigits 2 (m.second / 3600) ++ ":" ++
    paddedDigits 2 (m.second / 60 % 60) ++ ":" ++ paddedDigits 2 (m.second % 60 + leap) ++ "." ++
    paddedDigits 3 (m.nano % nanosPerSecond / 1000000) ++ "Z"

end Moment

end RecordFormula
