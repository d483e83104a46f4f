import RecordFormula.Expr.Basic
import RecordFormula.Registry

/-!
# Evaluating expressions

The value of an expression against a record. The function `IF` evaluates its condition and then only
the argument that the condition selects, whatever the registry holds under its name.

Here an expression is evaluated in one go: operands, arguments and records are taken from left to
right, each with all requests that it makes, and the first failure ends the evaluation. A program
polls instead. The arguments of a call and the records of a batch are polled together: while the
answer to a request of one of them is waited for, the others make theirs, and an argument that fails
at once does so before one that waits. `Expr.start` and `Task.poll` describe this for the standard
functions. The two agree, in the result and in what is left behind, if no answer has to be waited
for (`Expr.agrees_start`, `Call.agrees_start`): without a provider, with one whose answers are there
as soon as it is asked, and where all answers are in the cache. With any other provider they need
not agree, since a failure of a later argument can come first, and two arguments can ask for the
same.

* `Expr.evaluate` — the value of an expression;
* `Expr.evaluateEach` — its values against several records, one after the other.
-/

namespace RecordFormula

namespace Expr

/-- Can a formula spell the value as a constant? -/
def isSpellable : Value → Bool
  | .number _ | .text _ | .boolean _ => true
  | _ => false

mutual

/-- The value of an expression. A field that the record lacks is null. A function must be known
before its arguments are looked at. -/
def evaluate (registry : Registry) (record : Record) : Expr → Evaluation Value
  | .literal value =>
    if isSpellable value then pure value else throw (.malformedLiteral value)
  | .field name => pure ((Members.find? name record).getD .null)
  | .call name args =>
    let name := Text.upper name
    if name = "IF" then do
      let condition ← evaluateAt registry record 0 args
      evaluateAt registry record (if condition.isTruthy then 1 else 2) args
    else
      match registry.find? name with
      | none => throw (.unknownFunction name)
      | some f => do
        let values ← evaluateAll registry record args
        f.apply values record
  | .binary op left right => do
    let a ← evaluate registry record left
    let b ← evaluate registry record right
    Evaluation.ofExcept (op.apply a b)
  | .unary op operand => do
    let v ← evaluate registry record operand
    pure (op.apply v)

/-- The values of a list of expressions, one after the other. A program polls them together
(`Expr.join`). -/
def evaluateAll (registry : Registry) (record : Record) : List Expr → Evaluation (List Value)
  | [] => pure []
  | e :: rest => do
    let v ← evaluate registry record e
    let values ← evaluateAll registry record rest
    pure (v :: values)

/-- The value of the n-th expression of a list, counted from zero; past the end it is null. -/
def evaluateAt (registry : Registry) (record : Record) (n : Nat) : List Expr → Evaluation Value
  | [] => pure .null
  | e :: rest =>
    match n with
    | 0 => evaluate registry record e
    | n + 1 => evaluateAt registry record n rest

end

/-- The outcomes of an expression against several records, one after the other. A failure against
one record does not keep the others from being evaluated. A program polls the evaluations together
(`Call.start`). -/
def evaluateEach (registry : Registry) (e : Expr) (records : List Record) :
    Enrichment.Session (List (Except EvalError Value)) :=
  records.mapM fun record => (evaluate registry record e).run

end Expr

end RecordFormula
