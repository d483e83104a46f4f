import RecordFormula.Operator
import RecordFormula.Text.Case

/-!
# Expressions

The tree of a formula and its canonical text.

* `Expr` — the trees;
* `Expr.fields`, `Expr.functions` — the names that a tree mentions;
* `Expr.text` — the canonical text: binary operations in parentheses, texts in double quotes;
* `Expr.same` — equality of trees, with numbers equal as numbers.
-/

namespace RecordFormula

/-- The tree of a formula. -/
inductive Expr where
  /-- A constant. -/
  | literal (value : Value)
  /-- The value of a field. -/
  | field (name : String)
  /-- A function applied to arguments. -/
  | call (name : String) (args : List Expr)
  /-- An operator between two operands. -/
  | binary (op : Operator) (left right : Expr)
  /-- An operator in front of its operand. -/
  | unary (op : PrefixOperator) (operand : Expr)

namespace Expr

instance : Inhabited Expr := ⟨.literal .null⟩

mutual

/-- The fields that a tree mentions, in the order of its text. -/
def fieldNames : Expr → List String
  | .literal _ => []
  | .field name => [name]
  | .call _ args => fieldNamesOf args
  | .binary _ left right => fieldNames left ++ fieldNames right
  | .unary _ operand => fieldNames operand

/-- The fields that a list of trees mentions. -/
def fieldNamesOf : List Expr → List String
  | [] => []
  | e :: rest => fieldNames e ++ fieldNamesOf rest

end

mutual

/-- The functions that a tree calls, in the order of its text. -/
def functionNames : Expr → List String
  | .literal _ => []
  | .field _ => []
  | .call name args => Text.upper name :: functionNamesOf args
  | .binary _ left right => functionNames left ++ functionNames right
  | .unary _ operand => functionNames operand

/-- The functions that a list of trees calls. -/
def functionNamesOf : List Expr → List String
  | [] => []
  | e :: rest => functionNames e ++ functionNamesOf rest

end

/-- The distinct fields that a tree mentions, in ascending order. -/
def fields (e : Expr) : List String := distinctTexts (fieldNames e)

/-- The distinct functions that a tree calls, by uppercase name, in ascending order. -/
def functions (e : Expr) : List String := distinctTexts (functionNames e)

/-- A character inside a quoted text. -/
def escape (c : Char) : List Char := if c = '"' ∨ c = '\\' then ['\\', c] else [c]

/-- A text in double quotes. -/
def quote (s : String) : String := "\"" ++ String.ofList (s.toList.flatMap escape) ++ "\""

/-- The text of a constant; a negative number is an operation in parentheses. -/
def literalText : Value → String
  | .text s => quote s
  | .number x => if x < 0.0 then "(-" ++ Decimal.plain (-x) ++ ")" else Value.display (.number x)
  | v => Value.display v

mutual

/-- The canonical text of a tree. -/
def text : Expr → String
  | .literal value => literalText value
  | .field name => "[" ++ name ++ "]"
  | .call name args => name ++ "(" ++ String.intercalate ", " (texts args) ++ ")"
  | .binary op left right => "(" ++ text left ++ " " ++ op.symbol ++ " " ++ text right ++ ")"
  | .unary op operand => op.symbol ++ text operand

/-- The canonical texts of a list of trees. -/
def texts : List Expr → List String
  | [] => []
  | e :: rest => text e :: texts rest

end

mutual

/-- Equality of trees; constants are equal when they are the same value, so that not-a-number
differs from itself. -/
def same : Expr → Expr → Bool
  | .literal a, .literal b => a.same b
  | .field a, .field b => a == b
  | .call f as, .call g bs => f == g && sameAll as bs
  | .binary o a b, .binary p c d => o == p && same a c && same b d
  | .unary o a, .unary p b => o == p && same a b
  | _, _ => false

/-- Equality of lists of trees. -/
def sameAll : List Expr → List Expr → Bool
  | [], [] => true
  | a :: as, b :: bs => same a b && sameAll as bs
  | _, _ => false

end

end Expr

end RecordFormula
