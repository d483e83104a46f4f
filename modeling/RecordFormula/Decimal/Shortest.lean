import RecordFormula.Number.Exact

/-!
# Shortest decimals

The fewest decimal digits that still tell a number from its neighbours. The reals that read as a
number form an interval around it; the search tries one digit, two digits and so on, and on each
decimal grid looks at the two grid points next to the number.

* `Decimal.readsAs` — does a decimal lie in the interval of a number;
* `Decimal.shortest` — the chosen decimal.
-/

namespace RecordFormula

/-- The value `digits * 10 ^ exponent`. -/
structure Decimal where
  /-- The digits, as a whole number. -/
  digits : Nat
  /-- The exponent of ten. -/
  exponent : Int
deriving DecidableEq, Repr

namespace Decimal

open Number

/-- A positive number measured in units of `10 ^ grid`: it is `size / unit` of them, and a quarter
of the gap to its upper neighbour is `quarter / (4 * unit)`. -/
structure OnGrid where
  /-- The numerator. -/
  size : Nat
  /-- The numerator of a quarter gap. -/
  quarter : Nat
  /-- The denominator. -/
  unit : Nat

/-- A size measured on the grid of multiples of `10 ^ grid`. -/
def onGrid (d : Magnitude) (grid : Int) : OnGrid :=
  let scale := Nat.pow 2 d.exponent.toNat * Nat.pow 10 (-grid).toNat
  ⟨d.mantissa * scale, scale, Nat.pow 2 (-d.exponent).toNat * Nat.pow 10 grid.toNat⟩

/-- Is the gap below the number half the gap above it? It is where the exponent steps. -/
def hasNarrowGap (x : Float) : Bool := fractionBits x == 0 && 1 < exponentBits x

/-- Does grid point `n` read as the number? The ends of the interval belong to it exactly when the
mantissa is even. -/
def readsAs (even narrow : Bool) (g : OnGrid) (n : Nat) : Bool :=
  let point := 4 * n * g.unit
  let low := 4 * g.size - (if narrow then 1 else 2) * g.quarter
  let high := 4 * g.size + 2 * g.quarter
  if even then low ≤ point && point ≤ high else low < point && point < high

/-- Which of two equally near decimals is chosen. -/
inductive Tie where
  /-- The larger one. -/
  | up
  /-- The one whose last digit is even. -/
  | toEven
deriving DecidableEq, Repr

/-- Is the grid point below the number chosen over the one above it? It is if it is nearer, and in a
tie as the tie goes. -/
def prefersBelow (tie : Tie) (g : OnGrid) (below : Nat) : Bool :=
  let middle := (2 * below + 1) * g.unit
  2 * g.size < middle || (2 * g.size == middle && tie == .toEven && below % 2 == 0)

/-- The grid point next to the number that reads as it; of two the nearer one. -/
def onGrid? (tie : Tie) (x : Float) (grid : Int) : Option Decimal :=
  let d := magnitude x
  let g := onGrid d grid
  let ok := readsAs (d.mantissa % 2 == 0) (hasNarrowGap x) g
  let below := g.size / g.unit
  match ok below, ok (below + 1) with
  | true, true => some ⟨if prefersBelow tie g below then below else below + 1, grid⟩
  | true, false => some ⟨below, grid⟩
  | false, true => some ⟨below + 1, grid⟩
  | false, false => none

/-- Is the size below `10 ^ k`? -/
def isBelowPower (d : Magnitude) (k : Int) : Bool :=
  d.mantissa * Nat.pow 2 d.exponent.toNat * Nat.pow 10 (-k).toNat <
    Nat.pow 10 k.toNat * Nat.pow 2 (-d.exponent).toNat

/-- The first of at most `tries` powers from `k` upward that exceeds the size. -/
def leastPower (d : Magnitude) : Nat → Int → Int
  | 0, k => k
  | tries + 1, k => if isBelowPower d k then k else leastPower d tries (k + 1)

/-- The least `k` with the size below `10 ^ k`; the binary length gives it up to three steps. -/
def scale (d : Magnitude) : Int :=
  leastPower d 3 ((((Nat.log2 d.mantissa : Nat) : Int) + d.exponent) * 30103 / 100000)

/-- The size itself, with all its digits. -/
def exactly (d : Magnitude) : Decimal :=
  if 0 ≤ d.exponent then ⟨d.mantissa * Nat.pow 2 d.exponent.toNat, 0⟩
  else ⟨d.mantissa * Nat.pow 5 (-d.exponent).toNat, d.exponent⟩

/-- Moves trailing zeros of the digits into the exponent, at most `limit` of them. -/
def stripZeros : Nat → Decimal → Decimal
  | 0, d => d
  | limit + 1, d =>
    if d.digits % 10 = 0 ∧ d.digits ≠ 0 then stripZeros limit ⟨d.digits / 10, d.exponent + 1⟩ else d

/-- The shortest decimal that reads as the size of a finite number other than zero. -/
def shortest (tie : Tie) (x : Float) : Decimal :=
  let d := magnitude x
  let k := scale d
  let found := (List.range 17).findSome? fun (n : Nat) => onGrid? tie x (k - 1 - n)
  stripZeros 400 (found.getD (exactly d))

end Decimal

end RecordFormula
