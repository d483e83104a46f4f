import RecordFormula.Decimal.Reading
import RecordFormula.Text.Blank
import RecordFormula.Token

/-!
# From text to tokens

A formula text is cut into tokens from left to right. Blanks separate tokens and belong to none.

* `Token.ScanError` — the ways in which a text has no tokens;
* `Token.lexeme` — the token at the start of a text, and how far it reaches;
* `Token.scan` — the tokens of a text, the last of which is the end of the formula.
-/

namespace RecordFormula

namespace Token

/-- The ways in which a text has no tokens. -/
inductive ScanError where
  /-- No token starts with this character. -/
  | unexpectedCharacter (c : Char) (position : Nat)
  /-- A text is opened and not closed. -/
  | unterminatedText (position : Nat)
  /-- A field name is opened and not closed. -/
  | unterminatedField (position : Nat)
  /-- A number has more than one point. -/
  | malformedNumber (spelling : String) (position : Nat)

/-- The position of the token that could not be read. -/
def ScanError.position : ScanError → Nat
  | .unexpectedCharacter _ p => p
  | .unterminatedText p => p
  | .unterminatedField p => p
  | .malformedNumber _ p => p

/-- The text of an error. -/
def ScanError.message : ScanError → String
  | .unexpectedCharacter c p =>
    "Unexpected character '" ++ String.singleton c ++ "' at position " ++ toString p
  | .unterminatedText p => "Unterminated string literal starting at position " ++ toString p
  | .unterminatedField p => "Unterminated field reference starting at position " ++ toString p
  | .malformedNumber spelling p =>
    "Malformed number '" ++ spelling ++ "' at position " ++ toString p

/-- Does an operator start with this character? -/
def isOperatorStart (c : Char) : Bool := "+-*/><=!".toList.contains c

/-- May a word start with this character? -/
def isWordStart (c : Char) : Bool := c.isAlpha || c == '_'

/-- May a word go on with this character? -/
def isWordPart (c : Char) : Bool := c.isAlphanum || c == '_'

/-- May a number go on with this character? -/
def isNumberPart (c : Char) : Bool := Decimal.isDigit c || c == '.'

/-- The text up to the closing quotation mark, and the number of characters read, the closing mark
among them. A backslash stands for the character after it. -/
def quoted? (mark : Char) : List Char → Option (List Char × Nat)
  | [] => none
  | '\\' :: c :: rest => (quoted? mark rest).map fun (s, n) => (c :: s, n + 2)
  | '\\' :: [] => none
  | c :: rest =>
    if c = mark then some ([], 1) else (quoted? mark rest).map fun (s, n) => (c :: s, n + 1)

/-- An operator: an equals sign right after its first character belongs to it. -/
def operatorAt (c : Char) (rest : List Char) : Kind × Nat :=
  match rest with
  | '=' :: _ => (.operator (String.ofList [c, '=']), 1)
  | _ => (.operator (String.singleton c), 0)

/-- A text in quotation marks of the given kind. -/
def textAt (mark : Char) (rest : List Char) (position : Nat) : Except ScanError (Kind × Nat) :=
  match quoted? mark rest with
  | some (s, n) => .ok (.text (String.ofList s), n)
  | none => .error (.unterminatedText position)

/-- A field name: everything up to the closing bracket. -/
def fieldAt (rest : List Char) (position : Nat) : Except ScanError (Kind × Nat) :=
  let name := rest.takeWhile (· != ']')
  if name.length < rest.length then .ok (.field (String.ofList name), name.length + 1)
  else .error (.unterminatedField position)

/-- A number: a run of digits and points, of which there may be one. -/
def numberAt (c : Char) (rest : List Char) (position : Nat) : Except ScanError (Kind × Nat) :=
  let tail := rest.takeWhile isNumberPart
  match Decimal.read? (c :: tail) with
  | some x => .ok (.number x, tail.length)
  | none => .error (.malformedNumber (String.ofList (c :: tail)) position)

/-- A word; one with an opening parenthesis after it, blanks apart, names a function. -/
def wordAt (c : Char) (rest : List Char) : Kind × Nat :=
  let tail := rest.takeWhile isWordPart
  let name := String.ofList (c :: tail)
  match Text.trimStart (rest.dropWhile isWordPart) with
  | '(' :: _ => (.function name, tail.length)
  | _ => (.word name, tail.length)

/-- The token that starts with character `c`, and how many of the characters after it belong to
it. -/
def lexeme (c : Char) (rest : List Char) (position : Nat) : Except ScanError (Kind × Nat) :=
  if c = '(' then .ok (.openParen, 0)
  else if c = ')' then .ok (.closeParen, 0)
  else if c = ',' then .ok (.comma, 0)
  else if isOperatorStart c then .ok (operatorAt c rest)
  else if c = '"' ∨ c = '\'' then textAt c rest position
  else if c = '[' then fieldAt rest position
  else if Decimal.isDigit c then numberAt c rest position
  else if isWordStart c then .ok (wordAt c rest)
  else .error (.unexpectedCharacter c position)

/-- The tokens of the characters from a position on. -/
def scanFrom (position : Nat) : List Char → Except ScanError (List Token)
  | [] => .ok [⟨.finish, position⟩]
  | c :: rest =>
    if isBlank c then scanFrom (position + 1) rest
    else
      match lexeme c rest position with
      | .error e => .error e
      | .ok (kind, n) =>
        (scanFrom (position + 1 + n) (rest.drop n)).map fun ts => ⟨kind, position⟩ :: ts
termination_by cs => cs.length
decreasing_by
  · simp
  · simp only [List.length_drop, List.length_cons]; omega

/-- The tokens of a formula text. -/
def scan (formula : String) : Except ScanError (List Token) := scanFrom 0 formula.toList

end Token

end RecordFormula
