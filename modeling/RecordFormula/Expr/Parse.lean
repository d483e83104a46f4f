import RecordFormula.Expr.Basic
import RecordFormula.Token.Scan

/-!
# From tokens to a tree

The grammar, loosest operators first:

* a comparison is a chain of sums joined by `>`, `<`, `>=`, `<=`, `==`, `!=` or `=`;
* a sum is a chain of products joined by `+` or `-`;
* a product is a chain of prefixed operands joined by `*` or `/`;
* a prefixed operand is a primary with any number of `+`, `-` and `!` in front;
* a primary is a number, a text, a word, a field, a call, or a comparison in parentheses.

Chains associate to the left. The tokens are read one by one; what has been read and waits for its
end is kept on a stack of frames. A token is refused as soon as no formula can go on with it.

* `Expr.ParseError` — the ways in which tokens are no formula;
* `Expr.State`, `Expr.step` — a formula read in part, and the next token;
* `Expr.ofTokens`, `Expr.ofText` — the tree of tokens, and of a text.
-/

namespace RecordFormula

namespace Expr

/-- What a formula has to go on with. -/
inductive Expectation where
  /-- Nothing more. -/
  | finish
  /-- The parenthesis of a call. -/
  | openParen (name : String)
  /-- The parenthesis that closes another. -/
  | closeParen
  /-- The argument that a comma announces. -/
  | argument
  /-- Another argument, or the end of the arguments. -/
  | commaOrClose

/-- How messages speak of an expectation. -/
def Expectation.name : Expectation → String
  | .finish => "end of formula"
  | .openParen name => "'(' after " ++ name
  | .closeParen => "')'"
  | .argument => "argument after ','"
  | .commaOrClose => "',' or ')'"

/-- The ways in which tokens are no formula. -/
inductive ParseError where
  /-- The formula goes on in another way than it has to. -/
  | expected (what : Expectation) (found : Token.Kind) (position : Nat)
  /-- No operand starts with this token. -/
  | unexpected (found : Token.Kind) (position : Nat)

/-- The position of the first token that does not fit. -/
def ParseError.position : ParseError → Nat
  | .expected _ _ p => p
  | .unexpected _ p => p

/-- The first token that does not fit. -/
def ParseError.found : ParseError → Token.Kind
  | .expected _ k _ => k
  | .unexpected k _ => k

/-- The text of an error. -/
def ParseError.message : ParseError → String
  | .expected what found p =>
    "Expected " ++ what.name ++ " but found " ++ found.name ++ " at position " ++ toString p
  | .unexpected found p => "Unexpected token " ++ found.name ++ " at position " ++ toString p

/-- The constant that a bare word stands for. -/
def wordValue (name : String) : Value :=
  if name = "true" then .boolean true
  else if name = "false" then .boolean false
  else .text name

/-- How tightly an operator binds its operands. -/
def strength (op : Operator) : Nat :=
  match op with
  | .multiply | .divide => 2
  | .add | .subtract => 1
  | _ => 0

/-- A part of the formula that has been read and waits for what follows. -/
inductive Frame where
  /-- An operator that waits for its operand. -/
  | unary (op : PrefixOperator)
  /-- An operator that waits for its right operand. -/
  | binary (left : Expr) (op : Operator)
  /-- A parenthesis that waits for its closing one. -/
  | group
  /-- A call that waits for its further arguments. -/
  | call (name : String) (args : List Expr)

/-- What comes before an operand that is due. -/
inductive Before where
  /-- The start of the formula, an operator or a parenthesis. -/
  | other
  /-- The parenthesis of a call; the call may have no arguments. -/
  | callParen
  /-- The comma between two arguments. -/
  | comma

/-- A formula read in part; the innermost frame comes first. -/
inductive State where
  /-- An operand is due. -/
  | operand (before : Before) (frames : List Frame)
  /-- The parenthesis of a call is due. -/
  | callee (name : String) (frames : List Frame)
  /-- An operand has been read. -/
  | complete (tree : Expr) (frames : List Frame)

/-- An operand has been read: the operators in front of it take it. -/
def settle (tree : Expr) : List Frame → State
  | .unary op :: frames => settle (.unary op tree) frames
  | frames => .complete tree frames

/-- The operators that bind at least as tightly as a given strength take their right operand. -/
def reduce (least : Nat) (tree : Expr) : List Frame → Expr × List Frame
  | .binary left op :: frames =>
    if least ≤ strength op then reduce least (.binary op left tree) frames
    else (tree, .binary left op :: frames)
  | frames => (tree, frames)

/-- What closes the innermost parenthesis, or the formula. -/
def closing : List Frame → Expectation
  | .group :: _ => .closeParen
  | .call _ _ :: _ => .commaOrClose
  | _ => .finish

/-- The error that a token is not what it has to be. -/
def expected {α : Type} (what : Expectation) (t : Token) : Except ParseError α :=
  .error (.expected what t.kind t.position)

/-- The error that no operand starts with a token. -/
def unexpected {α : Type} (t : Token) : Except ParseError α :=
  .error (.unexpected t.kind t.position)

/-- Reads a token where an operand is due. -/
def stepOperand (before : Before) (frames : List Frame) (t : Token) : Except ParseError State :=
  match t.kind with
  | .number x => .ok (settle (.literal (.number x)) frames)
  | .text s => .ok (settle (.literal (.text s)) frames)
  | .word name => .ok (settle (.literal (wordValue name)) frames)
  | .field name => .ok (settle (.field name) frames)
  | .function name => .ok (.callee name frames)
  | .openParen => .ok (.operand .other (.group :: frames))
  | .operator symbol =>
    match PrefixOperator.ofSymbol? symbol with
    | some op => .ok (.operand .other (.unary op :: frames))
    | none => unexpected t
  | .closeParen =>
    match before, frames with
    | .callParen, .call name _ :: frames => .ok (settle (.call name []) frames)
    | .comma, _ => expected .argument t
    | _, _ => unexpected t
  | .comma => unexpected t
  | .finish => unexpected t

/-- Reads a token after an operand. -/
def stepComplete (tree : Expr) (frames : List Frame) (t : Token) : Except ParseError State :=
  match t.kind with
  | .operator symbol =>
    match Operator.ofSymbol? symbol with
    | some op =>
      let (left, frames) := reduce (strength op) tree frames
      .ok (.operand .other (.binary left op :: frames))
    | none => expected (closing (reduce 0 tree frames).2) t
  | .closeParen =>
    match reduce 0 tree frames with
    | (tree, .group :: frames) => .ok (settle tree frames)
    | (tree, .call name args :: frames) => .ok (settle (.call name (args ++ [tree])) frames)
    | (_, frames) => expected (closing frames) t
  | .comma =>
    match reduce 0 tree frames with
    | (tree, .call name args :: frames) =>
      .ok (.operand .comma (.call name (args ++ [tree]) :: frames))
    | (_, frames) => expected (closing frames) t
  | _ => expected (closing (reduce 0 tree frames).2) t

/-- Reads a token. -/
def step (s : State) (t : Token) : Except ParseError State :=
  match s with
  | .operand before frames => stepOperand before frames t
  | .callee name frames =>
    match t.kind with
    | .openParen => .ok (.operand .callParen (.call name [] :: frames))
    | _ => expected (.openParen name) t
  | .complete tree frames => stepComplete tree frames t

/-- Reads tokens one after the other. -/
def run (s : State) : List Token → Except ParseError State
  | [] => .ok s
  | t :: rest =>
    match step s t with
    | .error e => .error e
    | .ok s' => run s' rest

/-- The tree of a formula that ends here; `t` is the token that says so. -/
def finish (s : State) (t : Token) : Except ParseError Expr :=
  match s with
  | .operand _ _ => unexpected t
  | .callee name _ => expected (.openParen name) t
  | .complete tree frames =>
    match reduce 0 tree frames with
    | (tree, []) => .ok tree
    | (_, frames) => expected (closing frames) t

/-- The tokens before the end of the formula, and the position of that end. A list that does not say
where it ends does so right after its last token. -/
def untilFinish : List Token → List Token × Nat
  | [] => ([], 0)
  | [t] => if t.kind.isFinish then ([], t.position) else ([t], t.position + 1)
  | t :: rest =>
    if t.kind.isFinish then ([], t.position)
    else
      let (ts, position) := untilFinish rest
      (t :: ts, position)

/-- The tree of a list of tokens, all of which it has to use. -/
def ofTokens (tokens : List Token) : Except ParseError Expr :=
  let (ts, position) := untilFinish tokens
  match run (.operand .other []) ts with
  | .error e => .error e
  | .ok s => finish s ⟨.finish, position⟩

/-- Why a text is no formula. -/
inductive SyntaxError where
  /-- It has no tokens. -/
  | scan (e : Token.ScanError)
  /-- Its tokens have no tree. -/
  | parse (e : ParseError)

/-- The text of an error. -/
def SyntaxError.message : SyntaxError → String
  | .scan e => e.message
  | .parse e => e.message

/-- The tree of a formula text. -/
def ofText (formula : String) : Except SyntaxError Expr :=
  match Token.scan formula with
  | .error e => .error (.scan e)
  | .ok tokens =>
    match ofTokens tokens with
    | .error e => .error (.parse e)
    | .ok tree => .ok tree

end Expr

end RecordFormula
