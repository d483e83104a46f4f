import RecordFormula.Value.Conversion

/-!
# Arguments

How a function takes an argument of the kind that it needs. No number of arguments is wrong: one
that is missing counts as null, and null has a number, a text and a truth value like any other
value.

* `Arguments.value`, `Arguments.number`, `Arguments.text`, `Arguments.isTrue` — the n-th argument,
  from zero;
* `Arguments.number?` — an argument that may be left out.
-/

namespace RecordFormula

namespace Arguments

/-- The n-th argument, from zero. -/
def value (args : List Value) (n : Nat) : Value := args[n]?.getD .null

/-- The number of the n-th argument. -/
def number (args : List Value) (n : Nat) : Float := (value args n).toNumber

/-- The text of the n-th argument. -/
def text (args : List Value) (n : Nat) : String := (value args n).toText

/-- Does the n-th argument count as true? -/
def isTrue (args : List Value) (n : Nat) : Bool := (value args n).isTruthy

/-- The number of the n-th argument, if it is there and not null. -/
def number? (args : List Value) (n : Nat) : Option Float :=
  if (value args n).isNull then none else some (number args n)

end Arguments

end RecordFormula
