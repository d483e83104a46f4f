/-!
# Blanks

The white space of all scripts, and trimming it off the ends of a text. The zero-width space, the
byte-order mark and the information separators are not blank.

* `isBlank` — the blank characters;
* `trimStart`, `trim` — a text without the blanks at its start, or at both ends.
-/

namespace RecordFormula

/-- Is the character white space? -/
def isBlank (c : Char) : Bool :=
  let n := c.toNat
  (0x9 ≤ n && n ≤ 0xD) || n == 0x20 || n == 0x85 || n == 0xA0 || n == 0x1680 ||
    (0x2000 ≤ n && n ≤ 0x200A) || n == 0x2028 || n == 0x2029 || n == 0x202F || n == 0x205F ||
    n == 0x3000

namespace Text

/-- The characters from the first that is not blank. -/
def trimStart (cs : List Char) : List Char := cs.dropWhile isBlank

/-- The characters up to the last that is not blank. -/
def trimEnd (cs : List Char) : List Char := (trimStart cs.reverse).reverse

/-- A text without the blanks at its two ends. -/
def trim (s : String) : String := String.ofList (trimEnd (trimStart s.toList))

/-- Does a text hold nothing but blanks? -/
def isBlankText (s : String) : Bool := s.toList.all isBlank

end Text

end RecordFormula
