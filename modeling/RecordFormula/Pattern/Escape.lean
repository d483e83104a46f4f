import RecordFormula.Decimal.Reading
import RecordFormula.Pattern.Basic
import RecordFormula.Text.Blank

/-!
# Escapes of patterns

What follows a backslash in a pattern, and the blanks and comments of a spaced pattern.

* `Pattern.visible` — the characters from the next one that counts;
* `Pattern.escape?` — reads what follows a backslash.
-/

namespace RecordFormula

namespace Pattern

/-! ## Blanks and comments -/

/-- The characters without the blanks and comments at their start. A comment ends with its line. -/
def afterBlanks (inComment : Bool) : List Char → List Char
  | [] => []
  | c :: rest =>
    if inComment then afterBlanks (c != '\n') rest
    else if isBlank c then afterBlanks false rest
    else if c = '#' then afterBlanks true rest
    else c :: rest

/-- The characters from the next one that counts. Only a spaced pattern has others. -/
def visible (spaced : Bool) (cs : List Char) : List Char :=
  if spaced then afterBlanks false cs else cs

/-! ## What a backslash starts -/

/-- An item of a pattern that can also stand in a set, if it is not an anchor. -/
inductive Item where
  /-- A character; the flag says whether two hexadecimal digits give it as a byte. -/
  | char (c : Char) (isByte : Bool)
  /-- A condition on the place. -/
  | anchor (a : Anchor)
  /-- A set of characters. -/
  | set (s : Class)

/-- The pattern of an item. -/
def Item.toPattern : Item → Pattern
  | .char c isByte => .char c isByte
  | .anchor a => .anchor a
  | .set s => .set s

/-- The characters that have a meaning of their own in patterns. -/
def reserved : List Char :=
  ['\\', '.', '+', '*', '?', '(', ')', '|', '[', ']', '\x7b', '\x7d', '^', '$', '#', '&', '-', '~']

/-- Does a backslash make the character stand for itself? -/
def isEscapable (c : Char) : Bool :=
  c.toNat < 128 && !c.isAlphanum && c != '<' && c != '>'

/-- The value of a hexadecimal digit. -/
def hexValue? (c : Char) : Option Nat :=
  if Decimal.isDigit c then some (Decimal.digitValue c)
  else if 'a' ≤ c && c ≤ 'f' then some (c.toNat - 87)
  else if 'A' ≤ c && c ≤ 'F' then some (c.toNat - 55)
  else none

/-- The character with a number, if there is one. -/
def charOf? (n : Nat) : Option Char := if n.isValidChar then some (Char.ofNat n) else none

/-- Reads so many hexadecimal digits and gives the number that continues `value` with them. -/
def hexDigits? (spaced : Bool) : Nat → Nat → List Char → Option (Nat × List Char)
  | 0, value, cs => some (value, cs)
  | _ + 1, _, [] => none
  | n + 1, value, c :: rest => do
    let d ← hexValue? c
    hexDigits? spaced n (16 * value + d) (visible spaced rest)

/-- Reads characters up to the closing brace and gives them, those that do not count left out. -/
def braced? (spaced : Bool) : Nat → List Char → List Char → Option (List Char × List Char)
  | 0, _, _ => none
  | _ + 1, _, [] => none
  | n + 1, taken, c :: rest =>
    if c = '\x7d' then some (taken.reverse, rest)
    else braced? spaced n (c :: taken) (visible spaced rest)

/-- The number of some hexadecimal digits. -/
def ofHexDigits? (cs : List Char) : Option Nat :=
  if cs.isEmpty then none
  else cs.foldlM (fun n c => (hexValue? c).map fun d => 16 * n + d) 0

/-- Reads a character given by its number: in braces, or by a fixed number of digits. -/
def hexEscape? (spaced : Bool) (width : Nat) (cs : List Char) : Option (Item × List Char) := do
  match visible spaced cs with
  | '\x7b' :: rest =>
    let (digits, rest) ← braced? spaced (rest.length + 1) [] (visible spaced rest)
    let c ← charOf? (← ofHexDigits? digits)
    return (.char c false, rest)
  | cs =>
    let (n, rest) ← hexDigits? spaced width 0 cs
    let c ← charOf? n
    return (.char c (width == 2), rest)

/-- The first place where a separator stands in a text: what comes before it and what comes
after. -/
def splitAt? (separator : List Char) : List Char → List Char → Option (List Char × List Char)
  | _, [] => none
  | before, c :: rest =>
    if separator.isPrefixOf (c :: rest) then
      some (before.reverse, (c :: rest).drop separator.length)
    else splitAt? separator (c :: before) rest

/-- The property that is named between braces, perhaps with a value behind a separator. The flag
says whether the separator asks for the characters that have another value. -/
def PropertyName.ofChars (cs : List Char) : PropertyName × Bool :=
  let valued := fun separator => (splitAt? separator [] cs).map fun (name, value) =>
    PropertyName.valued (String.ofList name) (String.ofList value)
  match valued ['!', '='] with
  | some property => (property, true)
  | none => (((valued [':']).or (valued ['='])).getD (.plain (String.ofList cs)), false)

/-- Reads the name of a property: one letter, or a name in braces. -/
def propertyEscape? (spaced negated : Bool) (cs : List Char) : Option (Item × List Char) :=
  match visible spaced cs with
  | [] => none
  | '\\' :: _ => none
  | '\x7b' :: rest => do
    let (name, rest) ← braced? spaced (rest.length + 1) [] (visible spaced rest)
    let (property, differs) := PropertyName.ofChars name
    return (.set (.property property (negated != differs)), rest)
  | c :: rest => some (.set (.property (.plain (String.singleton c)) negated), rest)

/-- The edges of words by their names. -/
def wordEdges : List (String × Anchor) :=
  [("start", .word .start), ("end", .word .stop), ("start-half", .word .noneBefore),
    ("end-half", .word .noneAfter)]

/-- Is the character part of the name of an edge? -/
def isEdgeLetter (c : Char) : Bool := c.isAlpha || c == '-'

/-- Reads an edge of words that may be named in braces. Braces that do not start with a name are
left for a repetition. -/
def edgeEscape? (spaced : Bool) (cs : List Char) : Option (Item × List Char) :=
  match cs with
  | '\x7b' :: rest =>
    match visible spaced rest with
    | [] => none
    | c :: inner =>
      if isEdgeLetter c then do
        let (name, rest) ← braced? spaced (inner.length + 2) [] (c :: inner)
        let (_, a) ← wordEdges.find? (·.1 == String.ofList name)
        return (.anchor a, rest)
      else some (.anchor (.word .edge), cs)
  | _ => some (.anchor (.word .edge), cs)

/-- The characters that a letter after a backslash stands for. -/
def controls : List (Char × Char) :=
  [('a', '\x07'), ('f', '\x0c'), ('t', '\t'), ('n', '\n'), ('r', '\r'), ('v', '\x0b')]

/-- The conditions that a letter or an angle bracket after a backslash stands for. -/
def anchors : List (Char × Anchor) :=
  [('A', .textStart), ('z', .textEnd), ('B', .word .noEdge), ('<', .word .start),
    ('>', .word .stop)]

/-- The sets that a letter after a backslash stands for. -/
def shorthands : List (Char × Shorthand × Bool) :=
  [('d', .digit, false), ('s', .space, false), ('w', .word, false), ('D', .digit, true),
    ('S', .space, true), ('W', .word, true)]

/-- Reads what follows a backslash. There are no references to groups. -/
def escape? (spaced : Bool) : List Char → Option (Item × List Char)
  | [] => none
  | 'x' :: rest => hexEscape? spaced 2 rest
  | 'u' :: rest => hexEscape? spaced 4 rest
  | 'U' :: rest => hexEscape? spaced 8 rest
  | 'p' :: rest => propertyEscape? spaced false rest
  | 'P' :: rest => propertyEscape? spaced true rest
  | 'b' :: rest => edgeEscape? spaced rest
  | c :: rest =>
    if isEscapable c then some (.char c false, rest)
    else
      match controls.find? (·.1 == c), anchors.find? (·.1 == c), shorthands.find? (·.1 == c) with
      | some (_, d), _, _ => some (.char d false, rest)
      | _, some (_, a), _ => some (.anchor a, rest)
      | _, _, some (_, s, negated) => some (.set (.shorthand s negated), rest)
      | _, _, _ => none

end Pattern

end RecordFormula
