import RecordFormula.Members

/-!
# Values

What a field of a record holds and what a formula evaluates to.

* `Value` — the values;
* `Value.isEmpty`, `Value.isTruthy` — what counts as absent, and as true;
* `Value.flatten` — a list of values with every array replaced by its elements.
-/

namespace RecordFormula

/-- A value of a field or of a formula. -/
inductive Value where
  /-- Nothing. -/
  | null
  /-- A truth value. -/
  | boolean (b : Bool)
  /-- A number, possibly infinite or not a number. -/
  | number (x : Float)
  /-- A text. -/
  | text (s : String)
  /-- A list of values. -/
  | array (items : List Value)
  /-- Named values, in ascending order of their names. -/
  | object (members : List (String × Value))

/-- The fields of a record: what a formula is evaluated against. -/
abbrev Record := Members Value

namespace Value

instance : Inhabited Value := ⟨.null⟩

/-- Is the value nothing? -/
def isNull : Value → Bool
  | .null => true
  | _ => false

/-- Is the value nothing, or the text without characters? -/
def isEmpty : Value → Bool
  | .null => true
  | .text s => s.isEmpty
  | _ => false

/-- Does the value count as true in a condition? Nothing, false, zero, not-a-number and the text
without characters do not. -/
def isTruthy : Value → Bool
  | .null => false
  | .boolean b => b
  | .number x => x == x && x != 0.0
  | .text s => !s.isEmpty
  | .array _ => true
  | .object _ => true

/-- The text of a text value. -/
def asText? : Value → Option String
  | .text s => some s
  | _ => none

/-- The number of a number value. -/
def asNumber? : Value → Option Float
  | .number x => some x
  | _ => none

mutual

/-- A value as a list without arrays. -/
def leaves : Value → List Value
  | .array items => flatten items
  | .null => [.null]
  | .boolean b => [.boolean b]
  | .number x => [.number x]
  | .text s => [.text s]
  | .object members => [.object members]

/-- The values with every array replaced by its elements, at any depth. -/
def flatten : List Value → List Value
  | [] => []
  | v :: rest => leaves v ++ flatten rest

end

end Value

end RecordFormula
