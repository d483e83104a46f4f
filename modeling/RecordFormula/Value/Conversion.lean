import RecordFormula.Decimal.Reading
import RecordFormula.Json.Basic
import RecordFormula.Text.Blank
import RecordFormula.Value.Basic

/-!
# Values as numbers, texts and JSON

Every value has a number and a text. Where an operation needs one of them, it takes it from here.

* `Value.readNumber`, `Value.toNumber` — the number of a text, and of any value;
* `Value.numberText`, `Value.toText` — the text of a number, and of any value;
* `Value.toJson`, `Value.ofJson` — a value as a JSON document and back.
-/

namespace RecordFormula

namespace Value

/-- Is the character a letter of the basic alphabet? -/
def isBasicLetter (c : Char) : Bool := ('a' ≤ c && c ≤ 'z') || ('A' ≤ c && c ≤ 'Z')

/-- The number that a text spells, blanks around it left aside. The empty text is zero, infinity is
spelled out with a capital letter, no other name is taken for a number, and any other spelling is not
a number. -/
def readNumber (s : String) : Float :=
  let t := Text.trim s
  if t.isEmpty then 0.0
  else if t = "Infinity" ∨ t = "+Infinity" then Number.infinity
  else if t = "-Infinity" then -Number.infinity
  else if t.toList.any fun c => isBasicLetter c && c != 'e' && c != 'E' then Number.nan
  else (Decimal.parse? t.toList).getD Number.nan

/-- The text of a number: every digit in its place, zero without a sign. -/
def numberText (x : Float) : String :=
  if Number.isNaN x then "NaN"
  else if !Number.isFinite x then (if x < 0.0 then "-Infinity" else "Infinity")
  else if x == 0.0 then "0"
  else Decimal.plain x

/-- The number of a value. An array of one element is as good as the element. -/
def toNumber : Value → Float
  | .null => 0.0
  | .boolean b => if b then 1.0 else 0.0
  | .number x => x
  | .text s => readNumber s
  | .array [] => 0.0
  | .array [v] => toNumber v
  | .array (_ :: _ :: _) => Number.nan
  | .object _ => Number.nan

mutual

/-- The JSON document of a value. What is not a finite number becomes nothing. -/
def toJson : Value → Json
  | .null => .null
  | .boolean b => .boolean b
  | .number x => if Number.isFinite x then .real x else .null
  | .text s => .text s
  | .array items => .array (itemsToJson items)
  | .object members => .object (membersToJson members)

/-- The documents of a list of values. -/
def itemsToJson : List Value → List Json
  | [] => []
  | v :: rest => toJson v :: itemsToJson rest

/-- The documents of named values. -/
def membersToJson : List (String × Value) → List (String × Json)
  | [] => []
  | (k, v) :: rest => (k, toJson v) :: membersToJson rest

end

mutual

/-- The value of a JSON document. Whole and real numbers become the same numbers. -/
def ofJson : Json → Value
  | .null => .null
  | .boolean b => .boolean b
  | .integer n => .number (Float.ofInt n)
  | .real x => .number x
  | .text s => .text s
  | .array items => .array (itemsOfJson items)
  | .object members => .object (membersOfJson members)

/-- The values of a list of documents. -/
def itemsOfJson : List Json → List Value
  | [] => []
  | j :: rest => ofJson j :: itemsOfJson rest

/-- The values of named documents. -/
def membersOfJson : List (String × Json) → List (String × Value)
  | [] => []
  | (k, j) :: rest => (k, ofJson j) :: membersOfJson rest

end

mutual

/-- The text of a value. Nothing is the empty text, an array the texts of its elements with commas
between them, an object its JSON text. -/
def toText : Value → String
  | .null => ""
  | .boolean b => if b then "true" else "false"
  | .number x => numberText x
  | .text s => s
  | .array items => String.intercalate "," (toTexts items)
  | .object members => (toJson (.object members)).compact

/-- The texts of a list of values. -/
def toTexts : List Value → List String
  | [] => []
  | v :: rest => toText v :: toTexts rest

end

/-- The text of a value on its own: as `toText`, but nothing is called by its name. -/
def display : Value → String
  | .null => "null"
  | v => toText v

end Value

end RecordFormula
