import RecordFormula.Calendar.Moment
import RecordFormula.Decimal.Reading
import RecordFormula.Text.Blank

/-!
# Reading moments

A moment is written as a full timestamp with an offset, as a timestamp without one, or as a date.
What has no offset is universal time, what has no time is midnight.

* `Scanner` — readers that take characters from the front of a text;
* `Moment.zoned`, `Moment.unzoned`, `Moment.toTheMinute`, `Moment.midnight` — the forms;
* `Moment.read?` — the moment of a text.
-/

namespace RecordFormula

/-- A reader that takes characters from the front of a text, if they are as they should be. -/
abbrev Scanner := StateT (List Char) Option

namespace Scanner

/-- Takes the given character. -/
def mark (c : Char) : Scanner Unit := fun cs =>
  match cs with
  | d :: rest => if d = c then some ((), rest) else none
  | [] => none

/-- Takes one of the given characters. -/
def anyOf (marks : List Char) : Scanner Char := fun cs =>
  match cs with
  | d :: rest => if d ∈ marks then some (d, rest) else none
  | [] => none

/-- Takes all blanks. -/
def blanks : Scanner Unit := fun cs => some ((), Text.trimStart cs)

/-- Takes as many digits as there are. -/
def digits : Scanner (List Char) := fun cs =>
  some (cs.takeWhile Decimal.isDigit, cs.dropWhile Decimal.isDigit)

/-- Takes a number of at least one digit, and of `most` digits at most. -/
def number (most : Nat) : Scanner Nat := fun cs =>
  match (cs.take most).takeWhile Decimal.isDigit with
  | [] => none
  | ds => some (Decimal.ofDigits ds, cs.drop ds.length)

/-- Takes a number of exactly so many digits. -/
def exactly (width : Nat) : Scanner Nat := fun cs =>
  let ds := cs.take width
  if ds.length = width ∧ ds.all Decimal.isDigit then some (Decimal.ofDigits ds, cs.drop width)
  else none

/-- Takes blanks and a number of one or two digits. -/
def field : Scanner Nat := do
  blanks
  number 2

/-- Takes blanks and a year: up to four digits, or a sign and any number of digits. -/
def year : Scanner Int := do
  blanks
  let cs ← get
  match cs with
  | '-' :: rest => do
    set rest
    return -(← number rest.length : Int)
  | '+' :: rest => do
    set rest
    return (← number rest.length : Int)
  | _ => return (← number 4 : Int)

/-- The nanoseconds that the digits after a point mean; those past the ninth are dropped. -/
def nanosOfDigits (ds : List Char) : Nat :=
  Decimal.ofDigits (ds.take 9) * Nat.pow 10 (9 - ds.length)

/-- Takes a fraction of a second, if there is a point. -/
def fraction : Scanner Nat := do
  match ← get with
  | '.' :: rest => do
    set rest
    match ← digits with
    | [] => failure
    | ds => return nanosOfDigits ds
  | _ => return 0

/-- Takes an offset from universal time and gives its seconds: the letter of universal time, or a
sign, hours and minutes. -/
def offset : Scanner Int := do
  match ← anyOf ['Z', 'z', '+', '-', '−'] with
  | '+' => return ← magnitude
  | '-' => return -(← magnitude)
  | '−' => return -(← magnitude)
  | _ => return 0
where
  /-- Takes the hours and minutes of an offset. -/
  magnitude : Scanner Int := do
    let hours ← exactly 2
    mark ':'
    let minutes ← exactly 2
    if hours < 24 ∧ minutes < 60 then return (hours * 3600 + minutes * 60 : Nat) else failure

/-- What the reader takes from a text, if it takes all of it. -/
def all? {α : Type} (reader : Scanner α) (cs : List Char) : Option α :=
  match reader cs with
  | some (a, []) => some a
  | _ => none

end Scanner

namespace Moment

open Scanner

/-- A timestamp with an offset. Every part has its full number of digits. -/
def zoned : Scanner Moment := do
  let year ← exactly 4
  mark '-'
  let month ← exactly 2
  mark '-'
  let day ← exactly 2
  let _ ← anyOf ['T', 't', ' ']
  let hour ← exactly 2
  mark ':'
  let minute ← exactly 2
  mark ':'
  let second ← exactly 2
  let nano ← fraction
  let offset ← offset
  let told ← (ofParts? year month day hour minute second nano : Option Moment)
  return told.shiftSeconds (-offset)

/-- Takes a year, a month and a day. -/
def dateFields : Scanner (Int × Nat × Nat) := do
  let year ← Scanner.year
  mark '-'
  let month ← field
  mark '-'
  let day ← field
  return (year, month, day)

/-- A timestamp without an offset, with a separator between date and time. -/
def unzoned (separator : Scanner Unit) : Scanner Moment := do
  let (year, month, day) ← dateFields
  separator
  let hour ← field
  mark ':'
  let minute ← field
  mark ':'
  let second ← field
  let nano ← fraction
  (ofParts? year month day hour minute second nano : Option Moment)

/-- A timestamp without an offset and without seconds. -/
def toTheMinute : Scanner Moment := do
  let (year, month, day) ← dateFields
  mark 'T'
  let hour ← field
  mark ':'
  let minute ← field
  (ofParts? year month day hour minute 0 0 : Option Moment)

/-- A date. -/
def midnight : Scanner Moment := do
  let (year, month, day) ← dateFields
  (ofParts? year month day 0 0 0 0 : Option Moment)

/-- The forms of a moment, in the order in which they are tried. -/
def forms : List (Scanner Moment) :=
  [zoned, unzoned (mark 'T'), unzoned blanks, toTheMinute, midnight]

/-- The moment that a text tells, blanks around it left aside. -/
def read? (s : String) : Option Moment :=
  let cs := (Text.trim s).toList
  forms.findSome? fun form => form.all? cs

end Moment

end RecordFormula
