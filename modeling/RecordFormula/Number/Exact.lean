/-!
# Numbers, exactly

A finite number is a whole multiple of a power of two. This module decodes a number into that form
and derives from it, without rounding, the operations that lead to whole numbers.

* `Number.Magnitude`, `Number.magnitude` — the exact size of a finite number;
* `Number.truncate`, `Number.clampToInt` — the whole part as an integer;
* `Number.floor`, `Number.round` — the whole part as a number again;
* `Number.power` — powers by repeated squaring.
-/

namespace RecordFormula

namespace Number

/-- The value `mantissa * 2 ^ exponent`. -/
structure Magnitude where
  /-- The whole factor. -/
  mantissa : Nat
  /-- The exponent of two. -/
  exponent : Int
deriving DecidableEq, Repr

/-- Not a number. -/
def nan : Float := 0.0 / 0.0

/-- Positive infinity. -/
def infinity : Float := 1.0 / 0.0

/-- Is this not a number? -/
def isNaN (x : Float) : Bool := !(x == x)

/-- Is this a finite number? -/
def isFinite (x : Float) : Bool := x - x == 0.0

/-- Is the sign bit set? It is on negative numbers and on negative zero. -/
def isNegative (x : Float) : Bool := x.toBits >>> 63 == 1

/-- The bits of the fraction of a number. -/
def fractionBits (x : Float) : Nat := (x.toBits &&& 0xFFFFFFFFFFFFF).toNat

/-- The bits of the exponent of a number. -/
def exponentBits (x : Float) : Nat := ((x.toBits >>> 52) &&& 0x7FF).toNat

/-- The size of a finite number, regardless of its sign. -/
def magnitude (x : Float) : Magnitude :=
  if exponentBits x = 0 then ⟨fractionBits x, -1074⟩
  else ⟨4503599627370496 + fractionBits x, (exponentBits x : Int) - 1075⟩

/-- The whole part of a size. -/
def Magnitude.whole (d : Magnitude) : Nat :=
  d.mantissa * Nat.pow 2 d.exponent.toNat / Nat.pow 2 (-d.exponent).toNat

/-- The size, halves going up, as a whole number. -/
def Magnitude.nearest (d : Magnitude) : Nat :=
  (2 * (d.mantissa * Nat.pow 2 d.exponent.toNat) + Nat.pow 2 (-d.exponent).toNat) /
    (2 * Nat.pow 2 (-d.exponent).toNat)

/-- Is the size a whole number? -/
def Magnitude.isWhole (d : Magnitude) : Bool :=
  d.mantissa * Nat.pow 2 d.exponent.toNat % Nat.pow 2 (-d.exponent).toNat == 0

/-- The whole part of a finite number: the fraction is dropped. -/
def truncate (x : Float) : Int :=
  if isNegative x then -((magnitude x).whole : Int) else (magnitude x).whole

/-- The whole part of a number, moved into the range from `least` to `most`. Not a number counts as
zero. -/
def clampToInt (least most : Int) (x : Float) : Int :=
  if isNaN x then 0
  else if isFinite x then max least (min most (truncate x))
  else if x < 0.0 then least else most

/-- A natural number with the sign of `x`, zero included. -/
def withSignOf (x : Float) (n : Nat) : Float :=
  if isNegative x then -(Float.ofNat n) else Float.ofNat n

/-- The greatest whole number that is not above the given one. -/
def floor (x : Float) : Float :=
  if !isFinite x then x
  else
    let d := magnitude x
    if d.isWhole then x
    else if isNegative x then -(Float.ofNat (d.whole + 1)) else Float.ofNat d.whole

/-- The nearest whole number; halves go away from zero. -/
def round (x : Float) : Float :=
  if !isFinite x then x
  else
    let d := magnitude x
    if d.isWhole then x else withSignOf x d.nearest

/-- The number without its sign. -/
def abs (x : Float) : Float := if isNegative x then -x else x

/-- Multiplies `result` by `base ^ n` through repeated squaring, in the order of the bits of `n`. -/
def powerFrom (result base : Float) (n : Nat) : Float :=
  if h : n = 0 then result
  else
    let result := if n % 2 = 1 then result * base else result
    if n / 2 = 0 then result else powerFrom result (base * base) (n / 2)
termination_by n
decreasing_by omega

/-- The power of a number with a whole exponent; a negative exponent gives the reciprocal. -/
def power (base : Float) (n : Int) : Float :=
  let p := powerFrom 1.0 base n.natAbs
  if n < 0 then 1.0 / p else p

end Number

end RecordFormula
