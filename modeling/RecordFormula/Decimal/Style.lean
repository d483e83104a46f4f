import RecordFormula.Decimal.Shortest

/-!
# Writing numbers

A number is written from its shortest decimal. What differs from one format to another is when an
exponent is used and how it looks; a `Style` holds these decisions.

* `Decimal.Style`, `Decimal.Style.write` — a number in a style;
* `Decimal.plain` — every digit in its place, never an exponent.
-/

namespace RecordFormula

namespace Decimal

/-- The decisions of a number format. -/
structure Style where
  /-- Which of two equally near shortest decimals is written? -/
  tie : Tie
  /-- Is a number with this decimal exponent of its leading digit written without an exponent? -/
  isPlain : Int → Bool
  /-- Do whole numbers end in `.0`? -/
  pointZero : Bool
  /-- Does a positive exponent carry a plus sign? -/
  exponentPlus : Bool
  /-- The text of positive infinity. -/
  infinity : String

/-- So many zeros. -/
def zeros (n : Nat) : String := String.ofList (List.replicate n '0')

/-- The digits with the decimal point in its place. -/
def writePlain (pointZero : Bool) (d : Decimal) : String :=
  let digits := toString d.digits
  if 0 ≤ d.exponent then
    digits ++ zeros d.exponent.toNat ++ (if pointZero then ".0" else "")
  else
    let fraction := d.exponent.natAbs
    if fraction < digits.length then
      String.ofList (digits.toList.take (digits.length - fraction)) ++ "." ++
        String.ofList (digits.toList.drop (digits.length - fraction))
    else
      "0." ++ zeros (fraction - digits.length) ++ digits

/-- The digits with the point after the first, and the exponent that goes with it. -/
def writeScientific (exponentPlus : Bool) (d : Decimal) : String :=
  let digits := (toString d.digits).toList
  let exponent := d.exponent + (digits.length : Int) - 1
  let fraction := digits.drop 1
  String.ofList (digits.take 1) ++
    (if fraction.isEmpty then "" else "." ++ String.ofList fraction) ++
    "e" ++ (if 0 ≤ exponent && exponentPlus then "+" else "") ++ toString exponent

/-- A finite number without its sign. -/
def Style.writeSize (style : Style) (x : Float) : String :=
  if x == 0.0 then writePlain style.pointZero ⟨0, 0⟩
  else
    let d := shortest style.tie x
    if style.isPlain (d.exponent + ((toString d.digits).length : Int) - 1) then
      writePlain style.pointZero d
    else writeScientific style.exponentPlus d

/-- A number in a style; negative zero keeps its sign. -/
def Style.write (style : Style) (x : Float) : String :=
  if Number.isNaN x then "NaN"
  else
    (if Number.isNegative x then "-" else "") ++
      (if Number.isFinite x then style.writeSize x else style.infinity)

/-- Every digit is in its place, whole numbers have no point. -/
def plainStyle : Style where
  tie := .up
  isPlain := fun _ => true
  pointZero := false
  exponentPlus := false
  infinity := "inf"

/-- A number with every digit in its place. -/
def plain (x : Float) : String := plainStyle.write x

end Decimal

end RecordFormula
