import RecordFormula.Number.Exact

/-!
# Reading numbers

The spelling of a decimal number: an optional sign, digits with at most one point among, before or
after them, and an optional exponent. The value is the nearest number.

* `Decimal.Spelling`, `Decimal.spelling?` — the parts of a spelled number;
* `Decimal.read?` — its value;
* `Decimal.word?`, `Decimal.parse?` — the value of a name such as `inf`, and of a number or a name.
-/

namespace RecordFormula

namespace Decimal

/-- The parts of a spelled number: `± digits * 10 ^ exponent`. -/
structure Spelling where
  /-- Is there a minus sign? -/
  negative : Bool
  /-- The digits, the point left out. -/
  digits : Nat
  /-- The exponent of ten. -/
  exponent : Int
deriving DecidableEq, Repr

/-- Is the character one of the ten digits? -/
def isDigit (c : Char) : Bool := '0' ≤ c && c ≤ '9'

/-- The value of a digit. -/
def digitValue (c : Char) : Nat := c.toNat - 48

/-- The whole number that a list of digits spells. -/
def ofDigits (ds : List Char) : Nat := ds.foldl (fun n c => 10 * n + digitValue c) 0

/-- The least whole number that does not fit 64 bits. -/
def wordLimit : Nat := 18446744073709551616

/-- An optional sign; the flag says whether it is a minus. -/
def splitSign : List Char → Bool × List Char
  | '+' :: cs => (false, cs)
  | '-' :: cs => (true, cs)
  | cs => (false, cs)

/-- The exponent that the rest of a spelling gives: none at all counts as zero. -/
def exponent? : List Char → Option Int
  | [] => some 0
  | c :: cs =>
    if c = 'e' ∨ c = 'E' then
      let (negative, ds) := splitSign cs
      if !ds.isEmpty && ds.all isDigit then
        some (if negative then -(ofDigits ds : Int) else ofDigits ds)
      else none
    else none

/-- The digits after an optional point, and what follows them. -/
def splitFraction : List Char → List Char × List Char
  | '.' :: cs => (cs.takeWhile isDigit, cs.dropWhile isDigit)
  | cs => ([], cs)

/-- The parts of a spelled number, if the text is one. -/
def spelling? (cs : List Char) : Option Spelling :=
  let (negative, cs) := splitSign cs
  let whole := cs.takeWhile isDigit
  let (fraction, rest) := splitFraction (cs.dropWhile isDigit)
  if whole.isEmpty && fraction.isEmpty then none
  else
    (exponent? rest).map fun e =>
      ⟨negative, ofDigits (whole ++ fraction), e - (fraction.length : Int)⟩

/-- The number nearest to `digits * 10 ^ exponent`. Beyond the range of numbers the exponent is not
looked at further. -/
def nearest (digits : Nat) (exponent : Int) : Float :=
  let top := exponent + ((toString digits).length : Int)
  if digits = 0 || top < -400 then 0.0
  else if 400 < top then Number.infinity
  else Float.ofScientific digits (exponent < 0) exponent.natAbs

/-- The value of a spelled number. -/
def Spelling.value (s : Spelling) : Float :=
  let size := nearest s.digits s.exponent
  if s.negative then -size else size

/-- The number that a text spells. -/
def read? (cs : List Char) : Option Float := (spelling? cs).map Spelling.value

/-! ## Named values -/

/-- The names of what no digits spell. -/
def words : List (String × Float) :=
  [("inf", Number.infinity), ("infinity", Number.infinity), ("nan", Number.nan)]

/-- The value that a text names, with an optional sign and in whichever case. -/
def word? (cs : List Char) : Option Float :=
  let (negative, name) := splitSign cs
  (words.lookup (String.ofList (name.map Char.toLower))).map fun x => if negative then -x else x

/-- The value that a text spells or names. -/
def parse? (cs : List Char) : Option Float := (read? cs).or (word? cs)

end Decimal

end RecordFormula
