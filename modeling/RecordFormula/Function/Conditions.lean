import RecordFormula.Function.Arguments

/-!
# Conditions

Functions that test values or choose among them.

* `Conditions.choose` — one of two arguments;
* `Conditions.all`, `Conditions.any`, `Conditions.not` — truth values;
* `Conditions.isEmpty`, `Conditions.isNumber`, `Conditions.firstPresent` — what an argument is.
-/

namespace RecordFormula

namespace Conditions

/-- The second argument if the first counts as true, else the third. -/
def choose (args : List Value) : Value :=
  if Arguments.isTrue args 0 then Arguments.value args 1 else Arguments.value args 2

/-- Do all arguments count as true? -/
def all (args : List Value) : Value := .boolean (args.all Value.isTruthy)

/-- Does one of the arguments count as true? -/
def any (args : List Value) : Value := .boolean (args.any Value.isTruthy)

/-- Does the argument not count as true? -/
def not (args : List Value) : Value := .boolean (!Arguments.isTrue args 0)

/-- Is the argument null or the text without characters? -/
def isEmpty (args : List Value) : Value := .boolean (Arguments.value args 0).isEmpty

/-- Is the argument a number? -/
def isNumber (args : List Value) : Value :=
  match Arguments.value args 0 with
  | .number x => .boolean (!Number.isNaN x)
  | _ => .boolean false

/-- The first argument that is not empty. -/
def firstPresent (args : List Value) : Value := (args.find? fun v => !v.isEmpty).getD .null

end Conditions

end RecordFormula
