import RecordFormula.Decimal.Style
import RecordFormula.Text.Letter
import RecordFormula.Value.Basic

/-!
# Values spelled out

The text of a value that shows its kind, for messages about values in the wrong place.

* `Value.dump` — for example `Array([Number(1.0), Text("a")])`.
-/

namespace RecordFormula

namespace Value

/-- Numbers from a ten thousandth up to sixteen digits have every digit in its place and a point;
all others have an exponent without a plus sign. -/
def dumpStyle : Decimal.Style where
  tie := .up
  isPlain := fun e => -4 ≤ e && e ≤ 15
  pointZero := true
  exponentPlus := false
  infinity := "inf"

/-- Does the character show when it is written? The space does; other separators, controls and
unassigned characters do not. -/
def isVisible (c : Char) : Bool :=
  c == ' ' || !Letter.isOneOf [.cc, .cf, .cs, .co, .cn, .zl, .zp, .zs] c

/-- The digits of a number in base sixteen. -/
def hexDigits (n : Nat) : List Char := Nat.toDigits 16 n

/-- A character inside a spelled-out text. -/
def dumpChar (c : Char) : List Char :=
  match c with
  | '"' => ['\\', '"']
  | '\\' => ['\\', '\\']
  | '\n' => ['\\', 'n']
  | '\r' => ['\\', 'r']
  | '\t' => ['\\', 't']
  | c =>
    if c.toNat = 0 then ['\\', '0']
    else if Letter.isGraphemeExtend c || !isVisible c then
      ['\\', 'u', '\x7b'] ++ hexDigits c.toNat ++ ['\x7d']
    else [c]

/-- A text in quotation marks. -/
def dumpText (s : String) : String := "\"" ++ String.ofList (s.toList.flatMap dumpChar) ++ "\""

mutual

/-- The text of a value that shows its kind. -/
def dump : Value → String
  | .null => "Null"
  | .boolean b => "Boolean(" ++ (if b then "true" else "false") ++ ")"
  | .number x => "Number(" ++ dumpStyle.write x ++ ")"
  | .text s => "Text(" ++ dumpText s ++ ")"
  | .array items => "Array([" ++ String.intercalate ", " (dumpItems items) ++ "])"
  | .object members =>
    "Object(\x7b" ++ String.intercalate ", " (dumpMembers members) ++ "\x7d)"

/-- The texts of a list of values. -/
def dumpItems : List Value → List String
  | [] => []
  | v :: rest => dump v :: dumpItems rest

/-- The texts of named values. -/
def dumpMembers : List (String × Value) → List String
  | [] => []
  | (k, v) :: rest => (dumpText k ++ ": " ++ dump v) :: dumpMembers rest

end

end Value

end RecordFormula
