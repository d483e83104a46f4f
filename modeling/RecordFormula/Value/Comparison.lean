import RecordFormula.Value.Conversion

/-!
# Comparing values

Equality of values converts its operands to each other's kind; the order compares texts as texts and
everything else as numbers.

* `Value.same` — equality without conversion;
* `Value.looseEq` — equality of formulas;
* `Value.compare?` — order of formulas, if the two values have one.
-/

namespace RecordFormula

namespace Value

mutual

/-- Equality without conversion; numbers are equal as numbers, so that not-a-number differs from
itself. -/
def same : Value → Value → Bool
  | .null, .null => true
  | .boolean a, .boolean b => a == b
  | .number x, .number y => x == y
  | .text s, .text t => s == t
  | .array as, .array bs => sameItems as bs
  | .object as, .object bs => sameMembers as bs
  | _, _ => false

/-- Equality of lists of values, element by element. -/
def sameItems : List Value → List Value → Bool
  | [], [] => true
  | a :: as, b :: bs => same a b && sameItems as bs
  | _, _ => false

/-- Equality of named values, name by name. -/
def sameMembers : List (String × Value) → List (String × Value) → Bool
  | [], [] => true
  | (k, a) :: as, (l, b) :: bs => k == l && same a b && sameMembers as bs
  | _, _ => false

end

/-- Arrays and objects as their texts, all else unchanged. -/
def collapse : Value → Value
  | .array items => .text (toText (.array items))
  | .object members => .text (toText (.object members))
  | v => v

/-- How many conversions a value still goes through before it is compared as it stands. -/
def conversions : Value → Nat
  | .boolean _ | .array _ | .object _ => 1
  | .null | .number _ | .text _ => 0

/-- Equality of formulas. Null equals only null. Two values of the same kind are equal as they
stand. A truth value meets anything else as its number, a text meets a number as its number, and an
array or an object meets anything else as its text. -/
def looseEq (a b : Value) : Bool :=
  match a, b with
  | .null, .null => true
  | .null, _ => false
  | _, .null => false
  | .number x, .number y => x == y
  | .text s, .text t => s == t
  | .boolean p, .boolean q => p == q
  | .array as, .array bs => sameItems as bs
  | .object as, .object bs => sameMembers as bs
  | .boolean p, b => looseEq (.number (toNumber (.boolean p))) b
  | a, .boolean q => looseEq a (.number (toNumber (.boolean q)))
  | .number x, .text t => x == toNumber (.text t)
  | .text s, .number y => toNumber (.text s) == y
  | .array as, b => looseEq (.text (toText (.array as))) b
  | .object as, b => looseEq (.text (toText (.object as))) b
  | a, .array bs => looseEq a (.text (toText (.array bs)))
  | a, .object bs => looseEq a (.text (toText (.object bs)))
termination_by conversions a + conversions b
decreasing_by all_goals simp only [conversions]; omega

/-- The order of two numbers; not-a-number has no place in it. -/
def compareNumbers? (x y : Float) : Option Ordering :=
  if x < y then some .lt
  else if x == y then some .eq
  else if x > y then some .gt
  else none

/-- The order of two texts, by code points. -/
def compareTexts (s t : String) : Ordering :=
  if s < t then .lt else if s = t then .eq else .gt

/-- The order of two values: of two texts (arrays and objects count as texts) the order of texts, of
anything else the order of their numbers. -/
def compare? (a b : Value) : Option Ordering :=
  match collapse a, collapse b with
  | .text s, .text t => some (compareTexts s t)
  | a, b => compareNumbers? (toNumber a) (toNumber b)

end Value

end RecordFormula
