import RecordFormula.Decimal.Style

/-!
# Tokens

The words of a formula.

* `Token` — a word with its position, counted in characters;
* `Token.Kind.name` — how messages speak of a word.
-/

namespace RecordFormula

namespace Token

/-- What a token is. -/
inductive Kind where
  /-- A number. -/
  | number (x : Float)
  /-- A quoted text, without quotation marks and escapes. -/
  | text (s : String)
  /-- A bare word. -/
  | word (name : String)
  /-- A word in front of an opening parenthesis. -/
  | function (name : String)
  /-- An operator sign. -/
  | operator (symbol : String)
  /-- A field name, without its brackets. -/
  | field (name : String)
  /-- An opening parenthesis. -/
  | openParen
  /-- A closing parenthesis. -/
  | closeParen
  /-- A comma. -/
  | comma
  /-- The end of the formula. -/
  | finish

/-- How messages speak of a token. -/
def Kind.name : Kind → String
  | .number x => "number " ++ Decimal.plain x
  | .text s => "string \"" ++ s ++ "\""
  | .word name => "identifier '" ++ name ++ "'"
  | .function name => "function '" ++ name ++ "'"
  | .operator symbol => "'" ++ symbol ++ "'"
  | .field name => "field [" ++ name ++ "]"
  | .openParen => "'('"
  | .closeParen => "')'"
  | .comma => "','"
  | .finish => "end of formula"

/-- Is this the end of the formula? -/
def Kind.isFinish : Kind → Bool
  | .finish => true
  | _ => false

end Token

/-- A word of a formula. -/
structure Token where
  /-- What it is. -/
  kind : Token.Kind
  /-- The number of characters before it. -/
  position : Nat

end RecordFormula
