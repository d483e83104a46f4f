import RecordFormula.Expr.Evaluate
import RecordFormula.Function.Enquiries

/-!
# Polled evaluations

How a program evaluates an expression with the standard functions. The evaluation is polled: a
function that asks the enrichment service waits until its answer has come. Operands and the
condition of `IF` are evaluated one after the other, but the arguments of a call are polled
together, so that their requests overlap. As soon as one of them fails the call fails, and the
answers that the others wait for are given up.

If no answer has to be waited for, an evaluation ends with its first poll, and is the one that
`Expr.evaluate` describes.

* `Expr.Task` — an evaluation between two polls;
* `Expr.join` — computations that are polled together, until one fails;
* `Expr.start`, `Task.poll` — the first poll of an evaluation, and the later ones.
-/

namespace RecordFormula

namespace Expr

open Enrichment (Circumstances Enquiry Event Polling Request Waiting)

/-- An evaluation between two polls. -/
inductive Task where
  /-- It has ended. -/
  | done (outcome : Except EvalError Value)
  /-- A function waits for an answer. -/
  | asking (w : Waiting Value)
  /-- The left operand is being evaluated, the right one comes after it. -/
  | left (op : Operator) (left : Task) (right : Expr)
  /-- The right operand is being evaluated, the left one has a value. -/
  | right (op : Operator) (left : Value) (right : Task)
  /-- The operand of a prefix operator is being evaluated. -/
  | operand (op : PrefixOperator) (operand : Task)
  /-- The first argument of `IF` is being evaluated. -/
  | condition (condition : Task) (args : List Expr)
  /-- The arguments of a function are being evaluated. -/
  | arguments (f : StandardFunction) (args : List Task)

namespace Task

instance : Inhabited Task := ⟨.done (.ok .null)⟩

mutual

/-- The requests whose answers a task waits for. -/
def pending : Task → List Request
  | .done _ => []
  | .asking w => [w.request]
  | .left _ t _ => pending t
  | .right _ _ t => pending t
  | .operand _ t => pending t
  | .condition t _ => pending t
  | .arguments _ ts => pendingOf ts

/-- The requests whose answers a list of tasks waits for. -/
def pendingOf : List Task → List Request
  | [] => []
  | t :: rest => pending t ++ pendingOf rest

end

/-- Has the task ended? -/
def hasEnded : Task → Bool
  | .done _ => true
  | _ => false

/-- The value of a task that has one. -/
def value? : Task → Option Value
  | .done (.ok v) => some v
  | _ => none

/-- Goes on with the value of a task; waits as long as the task has none. -/
def andThen (t : Task) (wait : Task → Task) (next : Value → Polling Task) : Polling Task :=
  match t with
  | .done (.ok v) => next v
  | .done (.error e) => return .done (.error e)
  | t => return wait t

/-- The task of a request. -/
def ofState : Enquiry.State Value → Task
  | .ended v => .done (.ok v)
  | .waiting w => .asking w

/-- Applies a function to its arguments. -/
def apply (f : StandardFunction) (values : List Value) (record : Record) : Polling Task :=
  match f.enquiry? with
  | some enquiry => ofState <$> (enquiry values record).start
  | none => done <$> Polling.ofSession (f.function.apply values record).run

/-- Applies a function when all its arguments have their values. -/
def call (f : StandardFunction) (record : Record) :
    Except EvalError (List Task) → Polling Task
  | .error e => return .done (.error e)
  | .ok ts =>
    match ts.mapM value? with
    | some values => apply f values record
    | none => return .arguments f ts

end Task

/-- Puts a task before others that have been polled together with it. If one of these has failed,
the task is given up. -/
def Task.beside (t : Task) : Except EvalError (List Task) → Polling (Except EvalError (List Task))
  | .error e => do
    Polling.giveUp t.pending
    return .error e
  | .ok ts => return .ok (t :: ts)

/-- Polls computations together, from the first to the last. Each of them is given with the requests
whose answers it waits for. When one has failed, all others are given up; if the poll is patient
this happens only if none of those before it waits. -/
def join (patient : Bool) :
    List (List Request × Polling Task) → Polling (Except EvalError (List Task))
  | [] => return .ok []
  | (_, p) :: rest => do
    match ← p with
    | .done (.error e) =>
      Polling.giveUp (rest.flatMap Prod.fst)
      return .error e
    | t =>
      if patient && !t.hasEnded then return .ok (t :: (← rest.mapM Prod.snd))
      else t.beside (← join patient rest)

/-- The arguments of a function, polled together. -/
def joinAll (ps : List (List Request × Polling Task)) :
    Polling (Except EvalError (List Task)) := do
  join ((← read).patient ps.length) ps

mutual

/-- Starts an evaluation and polls it for the first time. -/
def start (record : Record) : Expr → Polling Task
  | .literal value =>
    return .done (if isSpellable value then .ok value else .error (.malformedLiteral value))
  | .field name => return .done (.ok ((Members.find? name record).getD .null))
  | .call name args =>
    let name := Text.upper name
    if name = "IF" then do
      let condition ← startAt record 0 args
      condition.andThen (.condition · args) fun c =>
        startAt record (if c.isTruthy then 1 else 2) args
    else
      match StandardFunction.find? name with
      | none => return .done (.error (.unknownFunction name))
      | some f => do Task.call f record (← joinAll (starts record args))
  | .binary op left right => do
    let a ← start record left
    a.andThen (.left op · right) fun a => do
      let b ← start record right
      b.andThen (.right op a) fun b => return .done (op.apply a b)
  | .unary op operand => do
    let v ← start record operand
    v.andThen (.operand op) fun v => return .done (.ok (op.apply v))

/-- The first polls of a list of evaluations. None of them waits for anything yet. -/
def starts (record : Record) : List Expr → List (List Request × Polling Task)
  | [] => []
  | e :: rest => ([], start record e) :: starts record rest

/-- Starts the evaluation of the n-th expression of a list; past the end it is null. -/
def startAt (record : Record) (n : Nat) : List Expr → Polling Task
  | [] => return .done (.ok .null)
  | e :: rest =>
    match n with
    | 0 => start record e
    | n + 1 => startAt record n rest

end

mutual

/-- Polls an evaluation again. -/
def Task.poll (record : Record) : Task → Polling Task
  | .done outcome => return .done outcome
  | .asking w => ofState <$> w.poll
  | .left op t e => do
    let a ← poll record t
    a.andThen (.left op · e) fun a => do
      let b ← start record e
      b.andThen (.right op a) fun b => return .done (op.apply a b)
  | .right op a t => do
    let b ← poll record t
    b.andThen (.right op a) fun b => return .done (op.apply a b)
  | .operand op t => do
    let v ← poll record t
    v.andThen (.operand op) fun v => return .done (.ok (op.apply v))
  | .condition t args => do
    let c ← poll record t
    c.andThen (.condition · args) fun c => startAt record (if c.isTruthy then 1 else 2) args
  | .arguments f args => do call f record (← joinAll (polls record args))

/-- The next polls of a list of evaluations, with what they wait for. -/
def Task.polls (record : Record) : List Task → List (List Request × Polling Task)
  | [] => []
  | t :: rest => (t.pending, poll record t) :: polls record rest

end

end Expr

end RecordFormula
