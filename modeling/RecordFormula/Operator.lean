import RecordFormula.EvalError
import RecordFormula.Value.Comparison

/-!
# Operators

* `Operator`, `Operator.apply` — the operators between two operands;
* `PrefixOperator`, `PrefixOperator.apply` — the operators in front of one.
-/

namespace RecordFormula

/-- An operator between two operands. -/
inductive Operator where
  /-- Sum. -/
  | add
  /-- Difference. -/
  | subtract
  /-- Product. -/
  | multiply
  /-- Quotient. -/
  | divide
  /-- Comes after. -/
  | greater
  /-- Comes before. -/
  | less
  /-- Comes after or is equal. -/
  | greaterOrEqual
  /-- Comes before or is equal. -/
  | lessOrEqual
  /-- Is equal. -/
  | equal
  /-- Is not equal. -/
  | notEqual
deriving DecidableEq, Repr

namespace Operator

/-- The sign of an operator. -/
def symbol : Operator → String
  | .add => "+"
  | .subtract => "-"
  | .multiply => "*"
  | .divide => "/"
  | .greater => ">"
  | .less => "<"
  | .greaterOrEqual => ">="
  | .lessOrEqual => "<="
  | .equal => "=="
  | .notEqual => "!="

/-- The operator of a sign; equality has two. -/
def ofSymbol? (symbol : String) : Option Operator :=
  match symbol with
  | "+" => some .add
  | "-" => some .subtract
  | "*" => some .multiply
  | "/" => some .divide
  | ">" => some .greater
  | "<" => some .less
  | ">=" => some .greaterOrEqual
  | "<=" => some .lessOrEqual
  | "==" => some .equal
  | "=" => some .equal
  | "!=" => some .notEqual
  | _ => none

/-- Does the operator compare its operands? -/
def isComparison : Operator → Bool
  | .add | .subtract | .multiply | .divide => false
  | _ => true

/-- The value of an operator: arithmetic takes the numbers of its operands, a comparison their order
or equality. A divisor of zero is refused. Values without an order are in none. -/
def apply (op : Operator) (a b : Value) : Except EvalError Value :=
  match op with
  | .add => .ok (.number (a.toNumber + b.toNumber))
  | .subtract => .ok (.number (a.toNumber - b.toNumber))
  | .multiply => .ok (.number (a.toNumber * b.toNumber))
  | .divide =>
    if b.toNumber == 0.0 then .error .divisionByZero
    else .ok (.number (a.toNumber / b.toNumber))
  | .greater => .ok (.boolean (a.compare? b == some .gt))
  | .less => .ok (.boolean (a.compare? b == some .lt))
  | .greaterOrEqual => .ok (.boolean (a.compare? b == some .gt || a.compare? b == some .eq))
  | .lessOrEqual => .ok (.boolean (a.compare? b == some .lt || a.compare? b == some .eq))
  | .equal => .ok (.boolean (a.looseEq b))
  | .notEqual => .ok (.boolean (!a.looseEq b))

end Operator

/-- An operator in front of its operand. -/
inductive PrefixOperator where
  /-- The number itself. -/
  | plus
  /-- The opposite number. -/
  | minus
  /-- The opposite truth value. -/
  | not
deriving DecidableEq, Repr

namespace PrefixOperator

/-- The sign of an operator. -/
def symbol : PrefixOperator → String
  | .plus => "+"
  | .minus => "-"
  | .not => "!"

/-- The operator of a sign. -/
def ofSymbol? (symbol : String) : Option PrefixOperator :=
  match symbol with
  | "+" => some .plus
  | "-" => some .minus
  | "!" => some .not
  | _ => none

/-- The value of an operator. -/
def apply (op : PrefixOperator) (v : Value) : Value :=
  match op with
  | .plus => .number v.toNumber
  | .minus => .number (-v.toNumber)
  | .not => .boolean (!v.isTruthy)

end PrefixOperator

end RecordFormula
