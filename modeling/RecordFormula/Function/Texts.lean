import RecordFormula.EvalError
import RecordFormula.Function.Arguments
import RecordFormula.Pattern.Replacement
import RecordFormula.Text.Case

/-!
# Parts and forms of texts

Texts are counted in characters.

* `Texts.join` — the texts of all arguments, in which arrays count as the values they hold;
* `Texts.upper`, `Texts.lower`, `Texts.trim`, `Texts.length` — of one text;
* `Texts.left`, `Texts.right`, `Texts.middle` — parts of a text;
* `Texts.replace` — a text with the matches of a pattern replaced.
-/

namespace RecordFormula

namespace Texts

/-- One text after the other. -/
def joinAll (texts : List String) : String := texts.foldr (· ++ ·) ""

/-- The texts of all values, one after the other. -/
def join (args : List Value) : Value :=
  .text (joinAll ((Value.flatten args).map Value.toText))

/-- The argument in uppercase. -/
def upper (args : List Value) : Value := .text (Text.upper (Arguments.text args 0))

/-- The argument in lowercase. -/
def lower (args : List Value) : Value := .text (Text.lower (Arguments.text args 0))

/-- The argument without blanks at its ends. -/
def trim (args : List Value) : Value := .text (Text.trim (Arguments.text args 0))

/-- The number of characters. -/
def length (args : List Value) : Value :=
  .number (Float.ofNat (Arguments.text args 0).toList.length)

/-- The number of characters that a number stands for: its whole part, none if it is negative or not
a number. -/
def count (x : Float) : Nat := (Number.clampToInt 0 18446744073709551615 x).toNat

/-- As many characters from the start as the second argument says, one if it is left out. -/
def left (args : List Value) : Value :=
  let n := count ((Arguments.number? args 1).getD 1.0)
  .text (String.ofList ((Arguments.text args 0).toList.take n))

/-- As many characters up to the end as the second argument says, one if it is left out. -/
def right (args : List Value) : Value :=
  let n := count ((Arguments.number? args 1).getD 1.0)
  let cs := (Arguments.text args 0).toList
  .text (String.ofList (cs.drop (cs.length - n)))

/-- The characters from the place that the second argument says, counted from one: as many as the
third argument says, all of them if it is left out. -/
def middle (args : List Value) : Value :=
  let cs := (Arguments.text args 0).toList.drop (count (Arguments.number args 1) - 1)
  .text (String.ofList
    (match Arguments.number? args 2 with
      | some x => cs.take (count x)
      | none => cs))

/-- What is said of a pattern that is too large. -/
def patternTooLarge : String :=
  "Compiled regex exceeds size limit of " ++ toString Pattern.Extent.limit ++ " bytes."

/-- A text with all matches of a pattern replaced. Nothing matches an empty pattern, and one that is
too large cannot be searched for. -/
def replaceAll (text pattern replacement : String) : Except EvalError String :=
  if pattern.isEmpty then .ok text
  else
    match Pattern.Matcher.ofChars? pattern.toList with
    | some matcher => .ok (String.ofList (matcher.replaceAll text.toList replacement.toList))
    | none => .error (.functionFailed "REPLACE" patternTooLarge)

/-- The first argument with all matches of the second replaced by the third. -/
def replace (args : List Value) : Except EvalError Value :=
  .text <$> replaceAll (Arguments.text args 0) (Arguments.text args 1) (Arguments.text args 2)

end Texts

end RecordFormula
