import RecordFormula.Text.Casing
import RecordFormula.Text.Letter

/-!
# Texts in upper and lower case

Case mapping of whole texts. A capital sigma is the one letter whose lowercase form depends on its
neighbours: at the end of a word it is `ς`.

* `Text.upper`, `Text.lower` — a text in the other case.
-/

namespace RecordFormula

namespace Text

/-- The text in uppercase. -/
def upper (s : String) : String := String.ofList (s.toList.flatMap Casing.upper)

/-- Is the first character that case mapping does not look past a cased one? -/
def meetsCased (cs : List Char) : Bool :=
  match cs.dropWhile Letter.isCaseIgnorable with
  | [] => false
  | c :: _ => Letter.isCased c

/-- The lowercase form of a capital sigma between the given characters; those before it are listed
from the nearest. -/
def lowerSigma (before after : List Char) : Char :=
  if meetsCased before && !meetsCased after then 'ς' else 'σ'

/-- The lowercase form of characters that follow the given ones. -/
def lowerFrom (before : List Char) : List Char → List Char
  | [] => []
  | c :: rest =>
    (if c = 'Σ' then [lowerSigma before rest] else Casing.lower c) ++ lowerFrom (c :: before) rest

/-- The text in lowercase. -/
def lower (s : String) : String := String.ofList (lowerFrom [] s.toList)

end Text

end RecordFormula
