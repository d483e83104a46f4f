import RecordFormula.CharSet.Basic

/-!
# The bytes of sets of characters

The characters of a range are spelled in UTF-8 by sequences of bytes. Such sequences are given by a
range of bytes for every place; a few of them spell the characters of a range and nothing else.

* `CharSet.byteSequences` — the sequences of ranges of bytes that spell the members of a set.
-/

namespace RecordFormula

namespace CharSet

/-- The bytes from the first to the last one. -/
abbrev ByteRange := Nat × Nat

/-- The bytes that spell a character. -/
def bytesOf (n : Nat) : List Nat := (String.utf8EncodeChar (Char.ofNat n)).map UInt8.toNat

/-- The last code points that are spelled by one, two, three and four bytes. -/
def lengthLimits : List Nat := [0x7F, 0x7FF, 0xFFFF, 0x10FFFF]

/-- A range cut behind each of the ascending limits. -/
def cutBehind (first last : Nat) : List Nat → List (Nat × Nat)
  | [] => [(first, last)]
  | limit :: rest =>
    if last ≤ limit then [(first, last)]
    else if first ≤ limit then (first, limit) :: cutBehind (limit + 1) last rest
    else cutBehind first last rest

/-- How many code points share all bytes but the last one, the last two and the last three. -/
def blockSizes : List Nat := [0x40, 0x1000, 0x40000]

/-- A range cut at the ends of the blocks that it does not fill, from small blocks to large ones. -/
def cutAtBlocks (first last : Nat) : List Nat → List (Nat × Nat)
  | [] => [(first, last)]
  | size :: rest =>
    if first / size = last / size then [(first, last)]
    else
      let start := (first + size - 1) / size * size
      let stop := (last + 1) / size * size
      let head := if first < start then [(first, start - 1)] else []
      let middle := if start < stop then cutAtBlocks start (stop - 1) rest else []
      let tail := if stop ≤ last then [(stop, last)] else []
      head ++ middle ++ tail

/-- The sequences that spell the characters of a range, in ascending order. The first byte alone
spells a character of the basic alphabet, which needs no blocks. -/
def sequencesOfRange (range : Nat × Nat) : List (List ByteRange) :=
  (cutBehind range.1 range.2 lengthLimits).flatMap fun (first, last) =>
    let pieces := if last < 0x80 then [(first, last)] else cutAtBlocks first last blockSizes
    pieces.map fun (first, last) => (bytesOf first).zip (bytesOf last)

/-- The sequences that spell the members of a set, in ascending order. -/
def byteSequences (s : CharSet) : List (List ByteRange) := s.ranges.flatMap sequencesOfRange

end CharSet

end RecordFormula
