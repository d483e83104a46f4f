/-!
# Spans of code points

The shape of the tables of characters: the two cases of a letter mostly alternate, so a span may
hold every second code point only.

* `Span` — code points at equal distances;
* `Span.cover` — whether one of several spans holds a code point.
-/

namespace RecordFormula

/-- Code points `first, first + step, …, last`. -/
structure Span where
  /-- The first code point. -/
  first : Nat
  /-- The last code point. -/
  last : Nat
  /-- The distance between neighbours. -/
  step : Nat
deriving DecidableEq, Repr

/-- Does one of the ascending spans hold the code point? -/
def Span.cover (c : Nat) : List Span → Bool
  | [] => false
  | s :: rest =>
    if c < s.first then false
    else if c ≤ s.last && (c - s.first) % s.step == 0 then true
    else cover c rest

end RecordFormula
