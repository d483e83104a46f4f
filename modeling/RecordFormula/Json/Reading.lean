import RecordFormula.Decimal.Reading
import RecordFormula.Json.Basic

/-!
# Reading JSON

The document that a JSON text denotes. Of members with the same name the last one counts.

Numbers are read in the fast way: as many digits as fit are collected into a whole number of
64 bits, the others only shift the exponent, and one multiplication or division by a power of ten
gives the value. The result can differ from the nearest number in its last digit.

* `Json.number?` — a number off the front of a text;
* `Json.parse?` — the document of a text.
-/

namespace RecordFormula

namespace Json

/-- The greatest whole number of 64 bits. -/
def maxWord : Nat := 18446744073709551615

/-- Appends digits to a whole number as long as it stays within 64 bits; the digits from the first
that does not fit are left over. -/
def collect (n : Nat) : List Char → Nat × List Char
  | [] => (n, [])
  | d :: ds =>
    let m := 10 * n + Decimal.digitValue d
    if maxWord < m then (n, d :: ds) else collect m ds

/-- A power of ten, rounded. -/
def powerOfTen (e : Nat) : Float := Float.ofScientific 1 false e

/-- Scales by a power of ten in steps of at most 308. A result beyond all numbers is refused. -/
def scale? (f : Float) (e : Int) : Option Float :=
  if e.natAbs ≤ 308 then
    if 0 ≤ e then
      let x := f * powerOfTen e.natAbs
      if Number.isFinite x then some x else none
    else some (f / powerOfTen e.natAbs)
  else if f == 0.0 then some f
  else if 0 ≤ e then none
  else scale? (f / powerOfTen 308) (e + 308)
termination_by e.natAbs
decreasing_by omega

/-- A number with a sign. -/
def signed (negative : Bool) (x : Float) : Float := if negative then -x else x

/-- The value of a number from its digits and, if it is written with one, its exponent. -/
def assemble (negative : Bool) (whole fraction : List Char) (exponent : Option Int) : Option Json :=
  let (n, dropped) := collect 0 whole
  let (m, tail) := collect n fraction
  if fraction.isEmpty && exponent.isNone && dropped.isEmpty then
    if !negative then some (.integer n)
    else if n = 0 || 9223372036854775808 < n then some (.real (-(Float.ofNat n)))
    else some (.integer (-(n : Int)))
  else
    let shift := (dropped.length : Int) - ((fraction.length - tail.length : Nat) : Int)
    (scale? (Float.ofNat m) (shift + exponent.getD 0)).map fun x => .real (signed negative x)

/-- The fraction after a point, at least one digit of it, and what follows. -/
def takeFraction : List Char → Option (List Char × List Char)
  | '.' :: cs =>
    let ds := cs.takeWhile Decimal.isDigit
    if ds.isEmpty then none else some (ds, cs.dropWhile Decimal.isDigit)
  | cs => some ([], cs)

/-- The exponent after an `e`, at least one digit of it, and what follows. -/
def takeExponent : List Char → Option (Option Int × List Char)
  | [] => some (none, [])
  | c :: cs =>
    if c = 'e' ∨ c = 'E' then
      let (negative, cs) := Decimal.splitSign cs
      let ds := cs.takeWhile Decimal.isDigit
      let n : Int := Decimal.ofDigits ds
      if ds.isEmpty then none
      else some (some (if negative then -n else n), cs.dropWhile Decimal.isDigit)
    else some (none, c :: cs)

/-- A number without its sign off the front of a text. A leading zero stands alone. -/
def unsigned? (negative : Bool) (cs : List Char) : Option (Json × List Char) := do
  let whole := cs.takeWhile Decimal.isDigit
  if whole.isEmpty || (whole.head? == some '0' && whole.length != 1) then none
  else
    let (fraction, cs) ← takeFraction (cs.dropWhile Decimal.isDigit)
    let (exponent, cs) ← takeExponent cs
    let j ← assemble negative whole fraction exponent
    some (j, cs)

/-- A number off the front of a text. -/
def number? : List Char → Option (Json × List Char)
  | '-' :: cs => unsigned? true cs
  | cs => unsigned? false cs

/-- The text without the blanks at its start. -/
def skipBlanks (cs : List Char) : List Char :=
  cs.dropWhile fun c => c == ' ' || c == '\n' || c == '\t' || c == '\r'

/-- The value of a hexadecimal digit. -/
def hexValue? (c : Char) : Option Nat :=
  if '0' ≤ c ∧ c ≤ '9' then some (c.toNat - 48)
  else if 'a' ≤ c ∧ c ≤ 'f' then some (c.toNat - 87)
  else if 'A' ≤ c ∧ c ≤ 'F' then some (c.toNat - 55)
  else none

/-- The value of four hexadecimal digits. -/
def hexWord? (a b c d : Char) : Option Nat := do
  some (((← hexValue? a) * 16 + (← hexValue? b)) * 256 + ((← hexValue? c) * 16 + (← hexValue? d)))

/-- The character of a simple escape. -/
def unescape? (c : Char) : Option Char :=
  match c with
  | '"' => some '"'
  | '\\' => some '\\'
  | '/' => some '/'
  | 'b' => some (Char.ofNat 8)
  | 'f' => some (Char.ofNat 12)
  | 'n' => some '\n'
  | 'r' => some '\r'
  | 't' => some '\t'
  | _ => none

/-- The characters up to the closing quotation mark, and what follows it. Two escaped halves of a
character are put together; a half on its own is refused, and so is a bare control character. -/
def quoted? : List Char → Option (List Char × List Char)
  | [] => none
  | '"' :: cs => some ([], cs)
  | '\\' :: 'u' :: a :: b :: c :: d :: cs => do
    let n ← hexWord? a b c d
    if 0xD800 ≤ n ∧ n < 0xDC00 then
      match cs with
      | '\\' :: 'u' :: a :: b :: c :: d :: cs =>
        let m ← hexWord? a b c d
        if 0xDC00 ≤ m ∧ m < 0xE000 then
          let (s, rest) ← quoted? cs
          some (Char.ofNat (0x10000 + (n - 0xD800) * 0x400 + (m - 0xDC00)) :: s, rest)
        else none
      | _ => none
    else if 0xDC00 ≤ n ∧ n < 0xE000 then none
    else
      let (s, rest) ← quoted? cs
      some (Char.ofNat n :: s, rest)
  | '\\' :: c :: cs => do
    let c ← unescape? c
    let (s, rest) ← quoted? cs
    some (c :: s, rest)
  | c :: cs =>
    if c.toNat < 32 then none
    else do
      let (s, rest) ← quoted? cs
      some (c :: s, rest)

mutual

/-- A document off the front of a text; blanks before it are skipped. `fuel` bounds the number of
steps. -/
def value? : Nat → List Char → Option (Json × List Char)
  | 0, _ => none
  | fuel + 1, cs =>
    match skipBlanks cs with
    | 'n' :: 'u' :: 'l' :: 'l' :: cs => some (.null, cs)
    | 't' :: 'r' :: 'u' :: 'e' :: cs => some (.boolean true, cs)
    | 'f' :: 'a' :: 'l' :: 's' :: 'e' :: cs => some (.boolean false, cs)
    | '"' :: cs => (quoted? cs).map fun (s, rest) => (.text (String.ofList s), rest)
    | '[' :: cs =>
      match skipBlanks cs with
      | ']' :: cs => some (.array [], cs)
      | cs => (items? fuel cs).map fun (js, rest) => (.array js, rest)
    | '\x7b' :: cs =>
      match skipBlanks cs with
      | '\x7d' :: cs => some (.object [], cs)
      | cs => (members? fuel cs).map fun (ms, rest) => (.object (Members.ofList ms), rest)
    | cs => number? cs

/-- The elements of an array up to its closing bracket. -/
def items? : Nat → List Char → Option (List Json × List Char)
  | 0, _ => none
  | fuel + 1, cs =>
    match value? fuel cs with
    | none => none
    | some (j, rest) =>
      match skipBlanks rest with
      | ',' :: cs => (items? fuel cs).map fun (js, rest) => (j :: js, rest)
      | ']' :: cs => some ([j], cs)
      | _ => none

/-- The members of an object up to its closing brace. -/
def members? : Nat → List Char → Option (List (String × Json) × List Char)
  | 0, _ => none
  | fuel + 1, cs =>
    match skipBlanks cs with
    | '"' :: cs =>
      match quoted? cs with
      | none => none
      | some (name, rest) =>
        match skipBlanks rest with
        | ':' :: cs =>
          match value? fuel cs with
          | none => none
          | some (j, rest) =>
            match skipBlanks rest with
            | ',' :: cs =>
              (members? fuel cs).map fun (ms, rest) => ((String.ofList name, j) :: ms, rest)
            | '\x7d' :: cs => some ([(String.ofList name, j)], cs)
            | _ => none
        | _ => none
    | _ => none

end

/-- The document that a text denotes, if it is one document and nothing else. -/
def parse? (s : String) : Option Json :=
  match value? (2 * s.length + 2) s.toList with
  | some (j, rest) => if (skipBlanks rest).isEmpty then some j else none
  | none => none

end Json

end RecordFormula
