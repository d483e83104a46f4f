import RecordFormula.Text.Category
import RecordFormula.Text.Span

/-!
# Sets of characters

A set of characters as the list of its ranges, in ascending order and with a gap between any two. So
two sets with the same members are equal.

* `CharSet`, `CharSet.contains` — the sets and their members;
* `CharSet.ofRanges`, `CharSet.ofSpans`, `CharSet.ofCategories` — making a set;
* `CharSet.union`, `CharSet.inter`, `CharSet.diff`, `CharSet.complement` — combining sets.
-/

namespace RecordFormula

/-- A set of characters. -/
structure CharSet where
  /-- The first and the last code point of every range. -/
  ranges : List (Nat × Nat)
deriving DecidableEq, Repr

namespace CharSet

/-- The set without members. -/
def empty : CharSet := ⟨[]⟩

/-- Is the code point in one of the ascending ranges? -/
def coveredBy (n : Nat) : List (Nat × Nat) → Bool
  | [] => false
  | (a, b) :: rest => if n < a then false else n ≤ b || coveredBy n rest

/-- Is the code point in the set? -/
def covers (s : CharSet) (n : Nat) : Bool := coveredBy n s.ranges

/-- Is the character in the set? -/
def contains (s : CharSet) (c : Char) : Bool := s.covers c.toNat

/-- Are there no members? -/
def isEmpty (s : CharSet) : Bool := s.ranges.isEmpty

/-- Are all members in the basic alphabet, which is that of the first 128 characters? -/
def isBasic (s : CharSet) : Bool := s.ranges.all fun r => r.2 < 128

/-- The member of a set that has only one. -/
def single? (s : CharSet) : Option Char :=
  match s.ranges with
  | [(first, last)] => if first = last then some (Char.ofNat first) else none
  | _ => none

/-! ## Making sets -/

/-- Ascending ranges with one more; those that touch it become one with it. -/
def insertRange (first last : Nat) : List (Nat × Nat) → List (Nat × Nat)
  | [] => [(first, last)]
  | (a, b) :: rest =>
    if last + 1 < a then (first, last) :: (a, b) :: rest
    else if b + 1 < first then (a, b) :: insertRange first last rest
    else insertRange (min a first) (max b last) rest

/-- The set of the code points in some ranges. -/
def ofRanges (ranges : List (Nat × Nat)) : CharSet :=
  ⟨ranges.foldr (fun r rest => insertRange r.1 r.2 rest) []⟩

/-- The set of a character. -/
def singleton (c : Char) : CharSet := ⟨[(c.toNat, c.toNat)]⟩

/-- The set of some characters. -/
def ofChars (cs : List Char) : CharSet := ofRanges (cs.map fun c => (c.toNat, c.toNat))

/-- So many code points at equal distances, as ranges. -/
def everyNth (step : Nat) : Nat → Nat → List (Nat × Nat)
  | 0, _ => []
  | n + 1, first => (first, first) :: everyNth step n (first + step)

/-- The ranges of a span. -/
def rangesOfSpan (s : Span) : List (Nat × Nat) :=
  if s.step = 1 then [(s.first, s.last)]
  else everyNth s.step ((s.last - s.first) / s.step + 1) s.first

/-- The set of the code points in some spans. -/
def ofSpans (spans : List Span) : CharSet := ofRanges (spans.flatMap rangesOfSpan)

/-! ## General categories -/

/-- The code points of a stretch from the given one on that have one of the categories. -/
def rangesOfStretch (categories : List Category) (first : Nat) (s : Category.Stretch) :
    List (Nat × Nat) :=
  match categories.contains s.even, categories.contains s.odd with
  | true, true => [(first, s.last)]
  | true, false =>
    let start := first + first % 2
    if start ≤ s.last then everyNth 2 ((s.last - start) / 2 + 1) start else []
  | false, true =>
    let start := first + (first + 1) % 2
    if start ≤ s.last then everyNth 2 ((s.last - start) / 2 + 1) start else []
  | false, false => []

/-- The code points of ascending stretches from the given one on that have one of the
categories. -/
def rangesOfStretches (categories : List Category) : Nat → List Category.Stretch → List (Nat × Nat)
  | _, [] => []
  | first, s :: rest =>
    rangesOfStretch categories first s ++ rangesOfStretches categories (s.last + 1) rest

/-- The code points of ascending pages from the given one on that have one of the categories. -/
def rangesOfPages (categories : List Category) :
    Nat → List (Nat × List Category.Stretch) → List (Nat × Nat)
  | _, [] => []
  | first, (last, page) :: rest =>
    rangesOfStretches categories first page ++ rangesOfPages categories (last + 1) rest

/-- The characters that have one of the categories in Unicode 16.0. -/
def ofCategories (categories : List Category) : CharSet :=
  ofRanges (rangesOfPages categories 0 Category.pages)

/-! ## Combining sets -/

/-- What is in one of two sets. -/
def union (s t : CharSet) : CharSet :=
  ofRanges (s.ranges.merge t.ranges fun a b => a.1 ≤ b.1)

/-- What is in one of several sets. -/
def unionAll (sets : List CharSet) : CharSet := sets.foldr union empty

/-- The gaps between ascending ranges, from a code point on up to the last one. -/
def gaps : Nat → List (Nat × Nat) → List (Nat × Nat)
  | start, [] => if start ≤ 0x10FFFF then [(start, 0x10FFFF)] else []
  | start, (a, b) :: rest =>
    if start < a then (start, a - 1) :: gaps (b + 1) rest else gaps (b + 1) rest

/-- The code points that are no characters. -/
def surrogates : CharSet := ⟨[(0xD800, 0xDFFF)]⟩

/-- All characters that are not in a set. -/
def complement (s : CharSet) : CharSet := ⟨gaps 0 (surrogates.union s).ranges⟩

/-- The set of all characters. -/
def all : CharSet := empty.complement

/-- The basic alphabet. -/
def basic : CharSet := ⟨[(0, 127)]⟩

/-- What is in both of two sets. -/
def inter (s t : CharSet) : CharSet := (s.complement.union t.complement).complement

/-- What is in a set but not in another. -/
def diff (s t : CharSet) : CharSet := (s.complement.union t).complement

/-- The characters from one to another. -/
def between (first last : Char) : CharSet := (ofRanges [(first.toNat, last.toNat)]).diff surrogates

/-- What is in exactly one of two sets. -/
def symmDiff (s t : CharSet) : CharSet := (s.union t).diff (s.inter t)

/-! ## Names -/

/-- The set that a table has by a name. -/
def named? (table : List (List String × CharSet)) (name : String) : Option CharSet :=
  (table.find? (·.1.contains name)).map (·.2)

end CharSet

end RecordFormula
