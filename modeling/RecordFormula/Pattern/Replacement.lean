import RecordFormula.Pattern.Extent
import RecordFormula.Pattern.Reading
import RecordFormula.Pattern.Search

/-!
# Replacing matches

Replaces every match of a pattern. A replacement is a template: a dollar sign with the number or the
name of a group stands for what the group matches, and two dollar signs for one.

* `Pattern.Piece`, `Pattern.template` — the pieces of a replacement;
* `Pattern.Matcher`, `Pattern.Matcher.ofRegex?` — what is to be replaced: the matches of a regular
  expression;
* `Pattern.escaped`, `Pattern.Matcher.ofChars?` — if a text is none, its escaped form is one that
  matches the text itself;
* `Pattern.Matcher.captured?` — what a group matches;
* `Pattern.Matcher.replaceAll` — replaces all matches.
-/

namespace RecordFormula

namespace Pattern

/-! ## Templates -/

/-- A piece of a replacement. -/
inductive Piece where
  /-- A character. -/
  | char (c : Char)
  /-- What the group with a number matches. -/
  | group (index : Nat)
  /-- What the group with a name matches. -/
  | named (name : String)
deriving DecidableEq, Repr

/-- The group that a reference means: by its number, which may have a plus sign and has to fit 64
bits, or by its name. -/
def Piece.ofReference (cs : List Char) : Piece :=
  let ds := match cs with
    | '+' :: ds => ds
    | ds => ds
  if !ds.isEmpty && ds.all Decimal.isDigit && Decimal.ofDigits ds < Decimal.wordLimit then
    .group (Decimal.ofDigits ds)
  else .named (String.ofList cs)

/-- Can the character stand in a reference without braces? -/
def isReferenceLetter (c : Char) : Bool := c.isAlphanum || c == '_'

/-- Reads what follows a dollar sign, if it is another dollar sign or a reference. -/
def reference? : List Char → Option (Piece × List Char)
  | [] => none
  | c :: rest =>
    if c = '$' then some (.char '$', rest)
    else if c = '\x7b' then
      match rest.dropWhile (· != '\x7d') with
      | [] => none
      | _ :: after => some (Piece.ofReference (rest.takeWhile (· != '\x7d')), after)
    else if isReferenceLetter c then
      some (Piece.ofReference (c :: rest.takeWhile isReferenceLetter),
        rest.dropWhile isReferenceLetter)
    else none

/-- The pieces of some characters, so many at most. -/
def pieces : Nat → List Char → List Piece
  | 0, _ => []
  | _ + 1, [] => []
  | n + 1, c :: rest =>
    match if c = '$' then reference? rest else none with
    | some (p, rest) => p :: pieces n rest
    | none => .char c :: pieces n rest

/-- The pieces of a replacement. A dollar sign that starts no reference stands for itself. -/
def template (cs : List Char) : List Piece := pieces cs.length cs

/-! ## Matchers -/

/-- What is to be replaced. -/
structure Matcher where
  /-- What is searched for. -/
  searcher : Searcher
  /-- The numbers of the groups that have names. -/
  names : List (String × Nat)

/-- What a node matches, unless it is too large; plain text is searched for as it stands. -/
def Node.searcher? (n : Node) : Option Searcher :=
  if n.fits then
    match n with
    | .text cs => some (.plain cs)
    | n => some (.program n.program)
  else none

/-- The matcher of a regular expression. -/
def Matcher.ofPattern? (p : Pattern) : Option Matcher := do
  let (n, _) ← meaning? Mode.initial p
  let searcher ← n.searcher?
  return ⟨searcher, namedGroups p⟩

/-- The matcher of the regular expression that a text spells. There is none if it spells none, or one
that is too large. -/
def Matcher.ofRegex? (cs : List Char) : Option Matcher :=
  (Pattern.ofChars? cs).bind Matcher.ofPattern?

/-- A text with a backslash before each character that has a meaning of its own in patterns. -/
def escaped (cs : List Char) : List Char :=
  cs.flatMap fun c => if reserved.contains c then ['\\', c] else [c]

/-- The matcher of what a text that is not empty stands for: the regular expression that it spells
or, if it has no matcher, the text itself, each character of which an escape makes stand for
itself. -/
def Matcher.ofChars? (cs : List Char) : Option Matcher := (ofRegex? cs).or (ofRegex? (escaped cs))

/-! ## Replacing -/

/-- The characters between two places. -/
def slice (text : Array Char) (start stop : Nat) : List Char := (text.extract start stop).toList

/-- What a group matches; a group that takes no part in the match, or does not exist, matches
nothing. -/
def Match.groupText (m : Match) (text : Array Char) (index : Nat) : List Char :=
  match m.group? index with
  | some (start, stop) => slice text start stop
  | none => []

/-- What a piece of a replacement stands for. -/
def Piece.expand (names : List (String × Nat)) (text : Array Char) (m : Match) : Piece → List Char
  | .char c => [c]
  | .group index => m.groupText text index
  | .named name =>
    match names.lookup name with
    | some index => m.groupText text index
    | none => []

/-- What a group matches in the first match of a text, if there is one and the group takes part. -/
def Matcher.captured? (matcher : Matcher) (cs : List Char) (index : Nat) : Option (List Char) := do
  let text := cs.toArray
  let m ← matcher.searcher.find? text 0
  let (start, stop) ← m.group? index
  return slice text start stop

/-- The text from a place on, with matches replaced. -/
def assemble (text : Array Char) (replace : Match → List Char) : Nat → List Match → List Char
  | place, [] => slice text place text.size
  | place, m :: rest => slice text place m.start ++ (replace m ++ assemble text replace m.stop rest)

/-- A text with all matches replaced. -/
def Matcher.replaceAll (matcher : Matcher) (cs replacement : List Char) : List Char :=
  let text := cs.toArray
  let template := template replacement
  assemble text (fun m => template.flatMap (Piece.expand matcher.names text m)) 0
    (matcher.searcher.matches text)

end Pattern

end RecordFormula
