/-!
# Patterns

The tree of a regular expression as it is written, before its flags are applied.

* `Pattern` — the trees;
* `Pattern.Anchor`, `Pattern.Class` — the conditions on places and the sets of characters that a
  pattern spells;
* `Pattern.Flag`, `Pattern.FlagChange` — the flags, and turning them on and off;
* `Pattern.depth` — how deep a tree is.
-/

namespace RecordFormula

namespace Pattern

/-- A setting that changes what a pattern means. -/
inductive Flag where
  /-- Upper and lower case are the same. -/
  | ignoreCase
  /-- The anchors `^` and `$` also match at the ends of lines. -/
  | multiLine
  /-- The dot also matches the end of a line. -/
  | dotAll
  /-- Repetitions are lazy, and those marked lazy are greedy. -/
  | swapGreed
  /-- Characters are those of all scripts. -/
  | allScripts
  /-- A carriage return, alone or before a line feed, also ends a line. -/
  | carriageReturn
  /-- Blanks and comments in the pattern do not count. -/
  | spaced
deriving DecidableEq, Repr

/-- The letter of a flag. -/
def Flag.ofLetter? : Char → Option Flag
  | 'i' => some .ignoreCase
  | 'm' => some .multiLine
  | 's' => some .dotAll
  | 'U' => some .swapGreed
  | 'u' => some .allScripts
  | 'R' => some .carriageReturn
  | 'x' => some .spaced
  | _ => none

/-- Flags that are turned on, or off. -/
abbrev FlagChange := List (Flag × Bool)

/-- What a change makes of a flag that has the given state. -/
def FlagChange.apply (change : FlagChange) (flag : Flag) (state : Bool) : Bool :=
  match change.find? (·.1 == flag) with
  | some (_, on) => on
  | none => state

/-- How a place lies to a word. -/
inductive WordEdge where
  /-- The start or the end of a word. -/
  | edge
  /-- Neither the start nor the end of a word. -/
  | noEdge
  /-- The start of a word. -/
  | start
  /-- The end of a word. -/
  | stop
  /-- No word before. -/
  | noneBefore
  /-- No word after. -/
  | noneAfter
deriving DecidableEq, Repr

/-- A condition on a place between characters. -/
inductive Anchor where
  /-- The start of the text or, with the flag, of a line. -/
  | lineStart
  /-- The end of the text or, with the flag, of a line. -/
  | lineEnd
  /-- The start of the text. -/
  | textStart
  /-- The end of the text. -/
  | textEnd
  /-- A place that lies so to a word. -/
  | word (e : WordEdge)
deriving DecidableEq, Repr

/-- A class that one letter stands for. -/
inductive Shorthand where
  /-- A digit. -/
  | digit
  /-- A blank. -/
  | space
  /-- A character of a word. -/
  | word
deriving DecidableEq, Repr

/-- How two sets are combined. -/
inductive SetOperation where
  /-- What is in both. -/
  | intersection
  /-- What is in the first but not in the second. -/
  | difference
  /-- What is in exactly one. -/
  | exclusion
deriving DecidableEq, Repr

/-- A property of characters, by name or by name and value. -/
inductive PropertyName where
  /-- A name. -/
  | plain (name : String)
  /-- A name and a value. -/
  | valued (name value : String)
deriving DecidableEq, Repr

/-- A set of characters, as it is written. -/
inductive Class where
  /-- Nothing. -/
  | empty
  /-- A character. -/
  | char (c : Char)
  /-- The characters from one to another. -/
  | range (first last : Char)
  /-- A class of one letter, or what is not in it. -/
  | shorthand (s : Shorthand) (negated : Bool)
  /-- A class of the basic alphabet by its name, or what is not in it. -/
  | basic (name : String) (negated : Bool)
  /-- The characters with a property, or without it. -/
  | property (name : PropertyName) (negated : Bool)
  /-- What is in one of the sets. -/
  | union (items : List Class)
  /-- A set in brackets, or what is not in it. -/
  | bracketed (negated : Bool) (inner : Class)
  /-- Two sets combined. -/
  | combined (op : SetOperation) (left right : Class)

/-- What a group is for. -/
inductive GroupKind where
  /-- What it matches is kept, under its number and perhaps a name. -/
  | capture (index : Nat) (name : Option String)
  /-- It only holds its content together, with some flags changed. -/
  | plain (change : FlagChange)

end Pattern

/-- A regular expression, as it is written. -/
inductive Pattern where
  /-- The empty expression. -/
  | empty
  /-- A change of flags, up to the end of the group. -/
  | flags (change : Pattern.FlagChange)
  /-- A character; the flag says whether two hexadecimal digits give it as a byte. -/
  | char (c : Char) (isByte : Bool)
  /-- Any character, or any but the end of a line. -/
  | dot
  /-- A condition on the place. -/
  | anchor (a : Pattern.Anchor)
  /-- A character of a set. -/
  | set (s : Pattern.Class)
  /-- So many times the same, as often as possible or as rarely as possible. -/
  | repeated (least : Nat) (most : Option Nat) (greedy : Bool) (item : Pattern)
  /-- A group. -/
  | group (kind : Pattern.GroupKind) (content : Pattern)
  /-- One after the other. -/
  | sequence (items : List Pattern)
  /-- One of several, the first that leads to a match. -/
  | choice (items : List Pattern)

namespace Pattern

mutual

/-- How deep a set is nested. -/
def Class.depth : Class → Nat
  | .union items => 1 + depthOfAll items
  | .bracketed _ inner => 1 + inner.depth
  | .combined _ left right => 1 + max left.depth right.depth
  | _ => 0

/-- How deep the deepest of some sets is nested. -/
def Class.depthOfAll : List Class → Nat
  | [] => 0
  | s :: rest => max s.depth (depthOfAll rest)

end

mutual

/-- How deep a pattern is nested. -/
def depth : Pattern → Nat
  | .set s => s.depth
  | .repeated _ _ _ item => 1 + item.depth
  | .group _ content => 1 + content.depth
  | .sequence items => 1 + depthOfAll items
  | .choice items => 1 + depthOfAll items
  | _ => 0

/-- How deep the deepest of some patterns is nested. -/
def depthOfAll : List Pattern → Nat
  | [] => 0
  | p :: rest => max p.depth (depthOfAll rest)

end

/-- The sequence of some patterns; one alone is itself. -/
def ofSequence : List Pattern → Pattern
  | [] => .empty
  | [p] => p
  | items => .sequence items

/-- The choice between some patterns; one alone is itself. -/
def ofChoices : List Pattern → Pattern
  | [p] => p
  | items => .choice items

/-- The union of some sets; one alone is itself. -/
def Class.ofItems : List Class → Class
  | [] => .empty
  | [s] => s
  | items => .union items

end Pattern

end RecordFormula
