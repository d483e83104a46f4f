import RecordFormula.Value.Dump

/-!
# What can go wrong in an evaluation

* `EvalError` — the causes;
* `EvalError.message` — their texts.
-/

namespace RecordFormula

/-- Why an expression has no value. -/
inductive EvalError where
  /-- No function has this name. -/
  | unknownFunction (name : String)
  /-- The divisor is zero. -/
  | divisionByZero
  /-- A literal holds a value that no formula can spell. -/
  | malformedLiteral (value : Value)
  /-- A function refuses its arguments. -/
  | functionFailed (name message : String)

/-- The text of an error. -/
def EvalError.message : EvalError → String
  | .unknownFunction name => "Unknown function: " ++ name
  | .divisionByZero => "Division by zero"
  | .malformedLiteral value =>
    "Malformed AST node: literal must be a number, text or boolean, got " ++ value.dump
  | .functionFailed name message => name ++ " failed: " ++ message

end RecordFormula
