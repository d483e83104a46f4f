import RecordFormula.CharSet.Basic
import RecordFormula.Text.Casing

/-!
# Sets of characters in which case does not count

The case variants of a character are those of `Casing.variants` that Unicode 16.0 has.

* `CharSet.variants` — the code points that equal a given one when case is ignored;
* `CharSet.closeCase` — a set with all case variants of its members.
-/

namespace RecordFormula

namespace CharSet

/-- The code points that equal `n` one for one when case is ignored, `n` among them. -/
def variants (n : Nat) : List Nat :=
  if (Category.revised? n).isSome then [n]
  else (Casing.variants n).filter fun m => (Category.revised? m).isNone

/-- The code points of a span. -/
def pointsOfSpan (s : Span) : List Nat :=
  (List.range ((s.last - s.first) / s.step + 1)).map fun i => s.first + s.step * i

/-- The code points that have case variants, some of them several times. -/
def casedPoints : List Nat :=
  ((Casing.lowerShifts ++ Casing.upperShifts).flatMap fun s =>
      pointsOfSpan ⟨s.first, s.last, s.step⟩) ++
    Casing.variantSets.flatten

/-- A set with all case variants of its members. -/
def closeCase (s : CharSet) : CharSet :=
  let added := (casedPoints.filter s.covers).flatMap variants
  s.union (ofRanges (added.mergeSort.map fun n => (n, n)))

/-- The other case of a letter of the basic alphabet. -/
def otherBasicCase (c : Char) : Char := if c.isLower then c.toUpper else c.toLower

/-- The characters of the basic alphabet. -/
def basicChars : List Char := (List.range 128).map Char.ofNat

/-- A set with the other cases of its members of the basic alphabet. -/
def closeBasicCase (s : CharSet) : CharSet :=
  s.union (ofChars (basicChars.filter fun c => s.contains (otherBasicCase c)))

end CharSet

end RecordFormula
