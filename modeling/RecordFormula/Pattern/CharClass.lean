import RecordFormula.CharSet.Folding
import RecordFormula.CharSet.Named
import RecordFormula.Pattern.Basic

/-!
# Classes of characters

What the sets of a pattern hold, under the flags that are on.

* `Pattern.Mode` — the states of all flags;
* `Pattern.basicSets` — the sets of the basic alphabet that have a name;
* `Pattern.Class.members?` — the characters of a set.
-/

namespace RecordFormula

namespace Pattern

/-- The states of all flags. -/
abbrev Mode := Flag → Bool

/-- At the start, characters are those of all scripts and no other flag is on. -/
def Mode.initial : Mode := fun flag => flag == .allScripts

/-- The states after a change. -/
def Mode.change (mode : Mode) (change : FlagChange) : Mode := fun flag =>
  change.apply flag (mode flag)

/-! ## The basic alphabet -/

/-- The digits. -/
def basicDigits : CharSet := .between '0' '9'

/-- The letters of both cases. -/
def basicLetters : CharSet := (CharSet.between 'a' 'z').union (.between 'A' 'Z')

/-- The blanks. -/
def basicBlanks : CharSet := (CharSet.between '\t' '\r').union (.singleton ' ')

/-- The letters and the digits. -/
def basicAlphanumerics : CharSet := basicLetters.union basicDigits

/-- The characters of words. -/
def basicWords : CharSet := basicAlphanumerics.union (.singleton '_')

/-- The visible characters. -/
def basicVisible : CharSet := .between '!' '~'

/-- The sets of the basic alphabet by their names. -/
def basicSets : List (List String × CharSet) :=
  [(["alnum"], basicAlphanumerics), (["alpha"], basicLetters), (["ascii"], .basic),
    (["blank"], .ofChars ['\t', ' ']),
    (["cntrl"], (CharSet.between '\x00' '\x1f').union (.singleton '\x7f')),
    (["digit"], basicDigits), (["graph"], basicVisible), (["lower"], .between 'a' 'z'),
    (["print"], .between ' ' '~'), (["punct"], basicVisible.diff basicAlphanumerics),
    (["space"], basicBlanks), (["upper"], .between 'A' 'Z'), (["word"], basicWords),
    (["xdigit"], .unionAll [basicDigits, .between 'a' 'f', .between 'A' 'F'])]

/-! ## Sets -/

/-- A set with all case variants of its members, if case is to be ignored. -/
def closed (mode : Mode) (s : CharSet) : CharSet :=
  if !mode .ignoreCase then s
  else if mode .allScripts then s.closeCase
  else s.closeBasicCase

/-- A set or what is not in it. The complement would hold characters beyond the basic alphabet, so
it exists only among those of all scripts. -/
def negate? (mode : Mode) (negated : Bool) (s : CharSet) : Option CharSet :=
  if !negated then some s
  else if mode .allScripts then some s.complement
  else none

/-- Can the character stand in a set? Without the characters of all scripts it has to be basic. -/
def isAllowed (mode : Mode) (c : Char) : Bool := mode .allScripts || c.toNat < 128

/-- The members of a class of one letter. -/
def Shorthand.members (mode : Mode) : Shorthand → CharSet
  | .digit => if mode .allScripts then .digit else basicDigits
  | .space => if mode .allScripts then .whiteSpace else basicBlanks
  | .word => if mode .allScripts then .word else basicWords

/-- The characters with a property. -/
def PropertyName.members? : PropertyName → Option CharSet
  | .plain name => CharSet.ofName? name
  | .valued name value => CharSet.ofValue? name value

/-- Two sets combined. -/
def SetOperation.combine (s t : CharSet) : SetOperation → CharSet
  | .intersection => s.inter t
  | .difference => s.diff t
  | .exclusion => s.symmDiff t

mutual

/-- The characters of a set, unless it asks for something that the flags exclude. Case is ignored
before a set is negated or combined. -/
def Class.members? (mode : Mode) : Class → Option CharSet
  | .empty => some .empty
  | .char c => if isAllowed mode c then some (.singleton c) else none
  | .range first last =>
    if isAllowed mode first ∧ isAllowed mode last then some (.between first last) else none
  | .shorthand s negated => negate? mode negated (s.members mode)
  | .basic name negated =>
    (CharSet.named? basicSets name).bind fun s => negate? mode negated (closed mode s)
  | .property name negated =>
    if mode .allScripts then
      name.members?.bind fun s => negate? mode negated (closed mode s)
    else none
  | .union items => (membersOfAll? mode items).map CharSet.unionAll
  | .bracketed negated inner =>
    (inner.members? mode).bind fun s => negate? mode negated (closed mode s)
  | .combined op left right => do
    let s ← left.members? mode
    let t ← right.members? mode
    return op.combine (closed mode s) (closed mode t)

/-- The characters of each of some sets. -/
def Class.membersOfAll? (mode : Mode) : List Class → Option (List CharSet)
  | [] => some []
  | c :: rest => do
    let s ← c.members? mode
    let sets ← Class.membersOfAll? mode rest
    return s :: sets

end

end Pattern

end RecordFormula
