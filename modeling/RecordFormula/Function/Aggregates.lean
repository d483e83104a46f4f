import RecordFormula.Function.Arguments

/-!
# Numbers of many values

Functions of any number of arguments, in which arrays count as the values they hold, and the two
functions of a single number. Only the values that are numbers take part in the sums and extremes.

* `Aggregates.sum`, `Aggregates.average`, `Aggregates.count`, `Aggregates.least`,
  `Aggregates.greatest` — of any number of values;
* `Aggregates.round`, `Aggregates.absolute` — of one number.
-/

namespace RecordFormula

namespace Aggregates

/-- The numbers among the values. -/
def numbers (args : List Value) : List Float := (Value.flatten args).filterMap Value.asNumber?

/-- The sum of some numbers, from the first to the last. No numbers make negative zero. -/
def total (xs : List Float) : Float := xs.foldl (· + ·) (-0.0)

/-- The sum of the numbers. -/
def sum (args : List Value) : Value := .number (total (numbers args))

/-- The mean of the numbers, zero if there are none. -/
def average (args : List Value) : Value :=
  let xs := numbers args
  .number (if xs.isEmpty then 0.0 else total xs / Float.ofNat xs.length)

/-- How many of the values are not empty. -/
def count (args : List Value) : Value :=
  .number (Float.ofNat ((Value.flatten args).filter fun v => !v.isEmpty).length)

/-- The smaller of two numbers; not-a-number gives way to a number. -/
def smaller (x y : Float) : Float :=
  if Number.isNaN x then y else if y < x then y else x

/-- The larger of two numbers; not-a-number gives way to a number. -/
def larger (x y : Float) : Float :=
  if Number.isNaN x then y else if x < y then y else x

/-- All numbers of a list combined into one; an empty list has none. -/
def combine (f : Float → Float → Float) : List Float → Value
  | [] => .null
  | x :: xs => .number (xs.foldl f x)

/-- The least of the numbers. -/
def least (args : List Value) : Value := combine smaller (numbers args)

/-- The greatest of the numbers. -/
def greatest (args : List Value) : Value := combine larger (numbers args)

/-- A number rounded to so many decimals; halves go up. The number of decimals may be negative. -/
def roundTo (x : Float) (decimals : Int) : Float :=
  let factor := Number.power 10.0 decimals
  Number.floor (x * factor + 0.5) / factor

/-- The first argument rounded to as many decimals as the second says. -/
def round (args : List Value) : Value :=
  .number (roundTo (Arguments.number args 0)
    (Number.clampToInt (-2147483648) 2147483647 (Arguments.number args 1)))

/-- The first argument without its sign. -/
def absolute (args : List Value) : Value := .number (Number.abs (Arguments.number args 0))

end Aggregates

end RecordFormula
