import RecordFormula.Pattern.CharClass

/-!
# Places between characters

What the anchors of a pattern ask of a place, under the flags that are on.

* `Pattern.Place` — the conditions;
* `Pattern.Place.holds` — whether one holds between two neighbouring characters;
* `Pattern.Anchor.place` — the condition that an anchor stands for.
-/

namespace RecordFormula

namespace Pattern

/-- A condition on a place between characters, with the flags applied. -/
inductive Place where
  /-- The start of the text. -/
  | textStart
  /-- The end of the text. -/
  | textEnd
  /-- The start of a line; the flag says whether a carriage return also ends one. -/
  | lineStart (carriageReturn : Bool)
  /-- The end of a line; the flag says whether a carriage return also ends one. -/
  | lineEnd (carriageReturn : Bool)
  /-- A place that lies so to a word; the flag says whether words are those of all scripts. -/
  | word (e : WordEdge) (allScripts : Bool)
deriving DecidableEq, Repr

/-- Is there a character of a word? -/
def isWordAt (allScripts : Bool) (c : Option Char) : Bool :=
  c.any (if allScripts then CharSet.word else basicWords).contains

/-- Does a place lie so to a word, if there are characters of words before and after it? -/
def WordEdge.holds (before after : Bool) : WordEdge → Bool
  | .edge => before != after
  | .noEdge => before == after
  | .start => !before && after
  | .stop => before && !after
  | .noneBefore => !before
  | .noneAfter => !after

/-- Is the place the start of a line? Between a carriage return and a line feed no line starts. -/
def isLineStart (carriageReturn : Bool) (before after : Option Char) : Bool :=
  before.isNone || before == some '\n' ||
    (carriageReturn && before == some '\r' && after != some '\n')

/-- Is the place the end of a line? Between a carriage return and a line feed no line ends. -/
def isLineEnd (carriageReturn : Bool) (before after : Option Char) : Bool :=
  if carriageReturn then
    after.isNone || after == some '\r' || (after == some '\n' && before != some '\r')
  else after.isNone || after == some '\n'

/-- Does the condition hold between two neighbouring characters? -/
def Place.holds (before after : Option Char) : Place → Bool
  | .textStart => before.isNone
  | .textEnd => after.isNone
  | .lineStart carriageReturn => isLineStart carriageReturn before after
  | .lineEnd carriageReturn => isLineEnd carriageReturn before after
  | .word e allScripts => e.holds (isWordAt allScripts before) (isWordAt allScripts after)

/-- The condition that an anchor stands for. -/
def Anchor.place (mode : Mode) : Anchor → Place
  | .lineStart => if mode .multiLine then .lineStart (mode .carriageReturn) else .textStart
  | .lineEnd => if mode .multiLine then .lineEnd (mode .carriageReturn) else .textEnd
  | .textStart => .textStart
  | .textEnd => .textEnd
  | .word e => .word e (mode .allScripts)

end Pattern

end RecordFormula
