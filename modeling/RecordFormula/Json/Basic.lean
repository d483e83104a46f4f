import RecordFormula.Decimal.Style
import RecordFormula.Members

/-!
# JSON values

JSON documents as values, and their compact text. Whole numbers and numbers with a fraction or an
exponent are different values: `1` and `1.0` are not the same document.

* `Json` — the values;
* `Json.compact` — the text without blanks, the members of an object in the order of the list.
-/

namespace RecordFormula

/-- A JSON document. -/
inductive Json where
  /-- Nothing. -/
  | null
  /-- A truth value. -/
  | boolean (b : Bool)
  /-- A whole number. -/
  | integer (n : Int)
  /-- A finite number written with a fraction or an exponent. -/
  | real (x : Float)
  /-- A text. -/
  | text (s : String)
  /-- A list of documents. -/
  | array (items : List Json)
  /-- Named documents, in ascending order of their names. -/
  | object (members : List (String × Json))

namespace Json

instance : Inhabited Json := ⟨.null⟩

/-- Numbers from a hundred thousandth up to sixteen digits have every digit in its place and a
point; all others have a signed exponent. -/
def numberStyle : Decimal.Style where
  tie := .toEven
  isPlain := fun e => -5 ≤ e && e ≤ 15
  pointZero := true
  exponentPlus := true
  infinity := "null"

/-- A hexadecimal digit. -/
def hexDigit (n : Nat) : Char := ("0123456789abcdef".toList)[n]?.getD '0'

/-- A character inside a quoted text. -/
def escape (c : Char) : List Char :=
  match c with
  | '"' => ['\\', '"']
  | '\\' => ['\\', '\\']
  | '\n' => ['\\', 'n']
  | '\r' => ['\\', 'r']
  | '\t' => ['\\', 't']
  | c =>
    if c.toNat = 8 then ['\\', 'b']
    else if c.toNat = 12 then ['\\', 'f']
    else if c.toNat < 32 then
      ['\\', 'u', '0', '0', hexDigit (c.toNat / 16), hexDigit (c.toNat % 16)]
    else [c]

/-- A text in quotation marks. -/
def quote (s : String) : String := "\"" ++ String.ofList (s.toList.flatMap escape) ++ "\""

mutual

/-- The text of a document, without blanks. -/
def compact : Json → String
  | .null => "null"
  | .boolean true => "true"
  | .boolean false => "false"
  | .integer n => toString n
  | .real x => numberStyle.write x
  | .text s => quote s
  | .array items => "[" ++ String.intercalate "," (compactItems items) ++ "]"
  | .object members => "\x7b" ++ String.intercalate "," (compactMembers members) ++ "\x7d"

/-- The texts of the elements of an array. -/
def compactItems : List Json → List String
  | [] => []
  | j :: rest => compact j :: compactItems rest

/-- The texts of the members of an object. -/
def compactMembers : List (String × Json) → List String
  | [] => []
  | (k, j) :: rest => (quote k ++ ":" ++ compact j) :: compactMembers rest

end

/-- The member of an object under a name. -/
def member? (name : String) : Json → Option Json
  | .object members => Members.find? name members
  | _ => none

end Json

end RecordFormula
