/-!
# General categories

Every code point has exactly one *general category*. The table `pages` partitions the code
points in ascending order; a stretch names the category of its even and of its odd code points,
because the two cases of a letter mostly alternate. It is that of Unicode 16.0, which patterns
follow; the texts of formulas follow Unicode 17.0, and `revisions` lists what is different there.

* `Category` — the thirty categories;
* `Category.of` — the category of a character in Unicode 17.0;
* `Category.settled` — its category in Unicode 16.0.
-/

namespace RecordFormula

/-- The general category of a code point. -/
inductive Category where
  /-- An uppercase letter -/
  | lu
  /-- A lowercase letter -/
  | ll
  /-- A titlecase digraph -/
  | lt
  /-- A modifier letter -/
  | lm
  /-- A letter without case -/
  | lo
  /-- A mark without width of its own -/
  | mn
  /-- A mark with width of its own -/
  | mc
  /-- An enclosing mark -/
  | me
  /-- A decimal digit -/
  | nd
  /-- A number written as a letter -/
  | nl
  /-- Another numeric sign -/
  | no
  /-- A connecting punctuation mark -/
  | pc
  /-- A dash -/
  | pd
  /-- An opening bracket -/
  | ps
  /-- A closing bracket -/
  | pe
  /-- An initial quotation mark -/
  | pi
  /-- A final quotation mark -/
  | pf
  /-- Another punctuation mark -/
  | po
  /-- A mathematical sign -/
  | sm
  /-- A currency sign -/
  | sc
  /-- A modifier sign -/
  | sk
  /-- Another sign -/
  | so
  /-- A space -/
  | zs
  /-- The line separator -/
  | zl
  /-- The paragraph separator -/
  | zp
  /-- A control character -/
  | cc
  /-- A format character -/
  | cf
  /-- A surrogate -/
  | cs
  /-- A private-use character -/
  | co
  /-- An unassigned code point -/
  | cn
deriving DecidableEq, Repr

namespace Category

/-- Code points up to `last` (from the end of the previous stretch), by parity. -/
structure Stretch where
  /-- The last code point of the stretch. -/
  last : Nat
  /-- The category of its even code points. -/
  even : Category
  /-- The category of its odd code points. -/
  odd : Category

/-- The stretches from code point 0x0 up to 0x902. -/
def from0000 : List Stretch := [
  ⟨0x1F, .cc, .cc⟩, ⟨0x21, .zs, .po⟩, ⟨0x23, .po, .po⟩, ⟨0x25, .sc, .po⟩, ⟨0x27, .po, .po⟩,
  ⟨0x29, .ps, .pe⟩, ⟨0x2C, .po, .sm⟩, ⟨0x2E, .po, .pd⟩, ⟨0x30, .nd, .po⟩, ⟨0x39, .nd, .nd⟩,
  ⟨0x3B, .po, .po⟩, ⟨0x3E, .sm, .sm⟩, ⟨0x40, .po, .po⟩, ⟨0x5A, .lu, .lu⟩, ⟨0x5C, .po, .ps⟩,
  ⟨0x5E, .sk, .pe⟩, ⟨0x60, .sk, .pc⟩, ⟨0x7A, .ll, .ll⟩, ⟨0x7C, .sm, .ps⟩, ⟨0x7E, .sm, .pe⟩,
  ⟨0x9F, .cc, .cc⟩, ⟨0xA1, .zs, .po⟩, ⟨0xA5, .sc, .sc⟩, ⟨0xA7, .so, .po⟩, ⟨0xA9, .sk, .so⟩,
  ⟨0xAB, .lo, .pi⟩, ⟨0xAD, .sm, .cf⟩, ⟨0xB0, .so, .sk⟩, ⟨0xB2, .no, .sm⟩, ⟨0xB4, .sk, .no⟩,
  ⟨0xB6, .po, .ll⟩, ⟨0xB8, .sk, .po⟩, ⟨0xBA, .lo, .no⟩, ⟨0xBC, .no, .pf⟩, ⟨0xBE, .no, .no⟩,
  ⟨0xC0, .lu, .po⟩, ⟨0xD6, .lu, .lu⟩, ⟨0xD8, .lu, .sm⟩, ⟨0xDE, .lu, .lu⟩, ⟨0xF6, .ll, .ll⟩,
  ⟨0xF8, .ll, .sm⟩, ⟨0xFF, .ll, .ll⟩, ⟨0x137, .lu, .ll⟩, ⟨0x148, .ll, .lu⟩, ⟨0x178, .lu, .ll⟩,
  ⟨0x17E, .ll, .lu⟩, ⟨0x180, .ll, .ll⟩, ⟨0x182, .lu, .lu⟩, ⟨0x186, .lu, .ll⟩, ⟨0x189, .ll, .lu⟩,
  ⟨0x18B, .lu, .lu⟩, ⟨0x18D, .ll, .ll⟩, ⟨0x191, .lu, .lu⟩, ⟨0x193, .ll, .lu⟩, ⟨0x196, .lu, .ll⟩,
  ⟨0x198, .lu, .lu⟩, ⟨0x19B, .ll, .ll⟩, ⟨0x19D, .lu, .lu⟩, ⟨0x19F, .ll, .lu⟩, ⟨0x1A6, .lu, .ll⟩,
  ⟨0x1AA, .ll, .lu⟩, ⟨0x1AE, .lu, .ll⟩, ⟨0x1B1, .ll, .lu⟩, ⟨0x1B3, .lu, .lu⟩, ⟨0x1B7, .ll, .lu⟩,
  ⟨0x1B9, .lu, .ll⟩, ⟨0x1BB, .ll, .lo⟩, ⟨0x1BD, .lu, .ll⟩, ⟨0x1BF, .ll, .ll⟩, ⟨0x1C3, .lo, .lo⟩,
  ⟨0x1C5, .lu, .lt⟩, ⟨0x1C7, .ll, .lu⟩, ⟨0x1C9, .lt, .ll⟩, ⟨0x1CB, .lu, .lt⟩, ⟨0x1DC, .ll, .lu⟩,
  ⟨0x1EF, .lu, .ll⟩, ⟨0x1F1, .ll, .lu⟩, ⟨0x1F3, .lt, .ll⟩, ⟨0x1F6, .lu, .ll⟩, ⟨0x1F8, .lu, .lu⟩,
  ⟨0x233, .lu, .ll⟩, ⟨0x239, .ll, .ll⟩, ⟨0x23B, .lu, .lu⟩, ⟨0x23D, .ll, .lu⟩, ⟨0x23F, .lu, .ll⟩,
  ⟨0x243, .ll, .lu⟩, ⟨0x246, .lu, .lu⟩, ⟨0x24F, .lu, .ll⟩, ⟨0x293, .ll, .ll⟩, ⟨0x295, .lo, .ll⟩,
  ⟨0x2AF, .ll, .ll⟩, ⟨0x2C1, .lm, .lm⟩, ⟨0x2C5, .sk, .sk⟩, ⟨0x2D1, .lm, .lm⟩, ⟨0x2DF, .sk, .sk⟩,
  ⟨0x2E4, .lm, .lm⟩, ⟨0x2EB, .sk, .sk⟩, ⟨0x2EF, .lm, .sk⟩, ⟨0x2FF, .sk, .sk⟩, ⟨0x36F, .mn, .mn⟩,
  ⟨0x373, .lu, .ll⟩, ⟨0x375, .lm, .sk⟩, ⟨0x377, .lu, .ll⟩, ⟨0x379, .cn, .cn⟩, ⟨0x37B, .lm, .ll⟩,
  ⟨0x37D, .ll, .ll⟩, ⟨0x37F, .po, .lu⟩, ⟨0x383, .cn, .cn⟩, ⟨0x385, .sk, .sk⟩, ⟨0x388, .lu, .po⟩,
  ⟨0x38A, .lu, .lu⟩, ⟨0x38E, .lu, .cn⟩, ⟨0x391, .ll, .lu⟩, ⟨0x3A1, .lu, .lu⟩, ⟨0x3A3, .cn, .lu⟩,
  ⟨0x3AB, .lu, .lu⟩, ⟨0x3CE, .ll, .ll⟩, ⟨0x3D0, .ll, .lu⟩, ⟨0x3D2, .lu, .ll⟩, ⟨0x3D4, .lu, .lu⟩,
  ⟨0x3D7, .ll, .ll⟩, ⟨0x3EF, .lu, .ll⟩, ⟨0x3F3, .ll, .ll⟩, ⟨0x3F5, .lu, .ll⟩, ⟨0x3F7, .sm, .lu⟩,
  ⟨0x3F9, .ll, .lu⟩, ⟨0x3FB, .lu, .ll⟩, ⟨0x3FD, .ll, .lu⟩, ⟨0x42F, .lu, .lu⟩, ⟨0x45F, .ll, .ll⟩,
  ⟨0x481, .lu, .ll⟩, ⟨0x483, .so, .mn⟩, ⟨0x487, .mn, .mn⟩, ⟨0x489, .me, .me⟩, ⟨0x4C0, .lu, .ll⟩,
  ⟨0x4CE, .ll, .lu⟩, ⟨0x52F, .lu, .ll⟩, ⟨0x531, .cn, .lu⟩, ⟨0x556, .lu, .lu⟩, ⟨0x558, .cn, .cn⟩,
  ⟨0x55A, .po, .lm⟩, ⟨0x55F, .po, .po⟩, ⟨0x588, .ll, .ll⟩, ⟨0x58A, .pd, .po⟩, ⟨0x58C, .cn, .cn⟩,
  ⟨0x58E, .so, .so⟩, ⟨0x590, .cn, .sc⟩, ⟨0x5BD, .mn, .mn⟩, ⟨0x5BF, .pd, .mn⟩, ⟨0x5C1, .po, .mn⟩,
  ⟨0x5C4, .mn, .po⟩, ⟨0x5C7, .po, .mn⟩, ⟨0x5CF, .cn, .cn⟩, ⟨0x5EA, .lo, .lo⟩, ⟨0x5EE, .cn, .cn⟩,
  ⟨0x5F2, .lo, .lo⟩, ⟨0x5F4, .po, .po⟩, ⟨0x5FF, .cn, .cn⟩, ⟨0x605, .cf, .cf⟩, ⟨0x608, .sm, .sm⟩,
  ⟨0x60A, .po, .po⟩, ⟨0x60C, .po, .sc⟩, ⟨0x60E, .so, .po⟩, ⟨0x610, .mn, .so⟩, ⟨0x61A, .mn, .mn⟩,
  ⟨0x61D, .cf, .po⟩, ⟨0x61F, .po, .po⟩, ⟨0x63F, .lo, .lo⟩, ⟨0x641, .lm, .lo⟩, ⟨0x64A, .lo, .lo⟩,
  ⟨0x65F, .mn, .mn⟩, ⟨0x669, .nd, .nd⟩, ⟨0x66D, .po, .po⟩, ⟨0x66F, .lo, .lo⟩, ⟨0x671, .mn, .lo⟩,
  ⟨0x6D3, .lo, .lo⟩, ⟨0x6D5, .po, .lo⟩, ⟨0x6DC, .mn, .mn⟩, ⟨0x6DE, .so, .cf⟩, ⟨0x6E4, .mn, .mn⟩,
  ⟨0x6E6, .lm, .lm⟩, ⟨0x6E8, .mn, .mn⟩, ⟨0x6EA, .mn, .so⟩, ⟨0x6ED, .mn, .mn⟩, ⟨0x6EF, .lo, .lo⟩,
  ⟨0x6F9, .nd, .nd⟩, ⟨0x6FC, .lo, .lo⟩, ⟨0x6FE, .so, .so⟩, ⟨0x700, .po, .lo⟩, ⟨0x70D, .po, .po⟩,
  ⟨0x70F, .cn, .cf⟩, ⟨0x712, .lo, .mn⟩, ⟨0x72F, .lo, .lo⟩, ⟨0x74A, .mn, .mn⟩, ⟨0x74C, .cn, .cn⟩,
  ⟨0x7A5, .lo, .lo⟩, ⟨0x7B0, .mn, .mn⟩, ⟨0x7B2, .cn, .lo⟩, ⟨0x7BF, .cn, .cn⟩, ⟨0x7C9, .nd, .nd⟩,
  ⟨0x7EA, .lo, .lo⟩, ⟨0x7F3, .mn, .mn⟩, ⟨0x7F5, .lm, .lm⟩, ⟨0x7F7, .so, .po⟩, ⟨0x7F9, .po, .po⟩,
  ⟨0x7FB, .lm, .cn⟩, ⟨0x7FD, .cn, .mn⟩, ⟨0x7FF, .sc, .sc⟩, ⟨0x815, .lo, .lo⟩, ⟨0x819, .mn, .mn⟩,
  ⟨0x81B, .lm, .mn⟩, ⟨0x823, .mn, .mn⟩, ⟨0x825, .lm, .mn⟩, ⟨0x827, .mn, .mn⟩, ⟨0x829, .lm, .mn⟩,
  ⟨0x82D, .mn, .mn⟩, ⟨0x82F, .cn, .cn⟩, ⟨0x83E, .po, .po⟩, ⟨0x840, .lo, .cn⟩, ⟨0x858, .lo, .lo⟩,
  ⟨0x85B, .mn, .mn⟩, ⟨0x85D, .cn, .cn⟩, ⟨0x85F, .po, .cn⟩, ⟨0x86A, .lo, .lo⟩, ⟨0x86F, .cn, .cn⟩,
  ⟨0x887, .lo, .lo⟩, ⟨0x889, .sk, .lo⟩, ⟨0x88E, .lo, .lo⟩, ⟨0x890, .cf, .cn⟩, ⟨0x892, .cn, .cf⟩,
  ⟨0x896, .cn, .cn⟩, ⟨0x89F, .mn, .mn⟩, ⟨0x8C8, .lo, .lo⟩, ⟨0x8CA, .mn, .lm⟩, ⟨0x8E1, .mn, .mn⟩,
  ⟨0x8E3, .cf, .mn⟩, ⟨0x902, .mn, .mn⟩]

/-- The stretches from code point 0x903 up to 0xFFF. -/
def from0903 : List Stretch := [
  ⟨0x904, .lo, .mc⟩, ⟨0x939, .lo, .lo⟩, ⟨0x93C, .mn, .mc⟩, ⟨0x93E, .mc, .lo⟩, ⟨0x940, .mc, .mc⟩,
  ⟨0x948, .mn, .mn⟩, ⟨0x94C, .mc, .mc⟩, ⟨0x94E, .mc, .mn⟩, ⟨0x950, .lo, .mc⟩, ⟨0x957, .mn, .mn⟩,
  ⟨0x961, .lo, .lo⟩, ⟨0x963, .mn, .mn⟩, ⟨0x965, .po, .po⟩, ⟨0x96F, .nd, .nd⟩, ⟨0x971, .po, .lm⟩,
  ⟨0x980, .lo, .lo⟩, ⟨0x982, .mc, .mn⟩, ⟨0x984, .cn, .mc⟩, ⟨0x98C, .lo, .lo⟩, ⟨0x98E, .cn, .cn⟩,
  ⟨0x990, .lo, .lo⟩, ⟨0x992, .cn, .cn⟩, ⟨0x9A8, .lo, .lo⟩, ⟨0x9AA, .lo, .cn⟩, ⟨0x9B0, .lo, .lo⟩,
  ⟨0x9B3, .lo, .cn⟩, ⟨0x9B5, .cn, .cn⟩, ⟨0x9B9, .lo, .lo⟩, ⟨0x9BB, .cn, .cn⟩, ⟨0x9BD, .mn, .lo⟩,
  ⟨0x9C0, .mc, .mc⟩, ⟨0x9C4, .mn, .mn⟩, ⟨0x9C6, .cn, .cn⟩, ⟨0x9C8, .mc, .mc⟩, ⟨0x9CA, .cn, .cn⟩,
  ⟨0x9CC, .mc, .mc⟩, ⟨0x9CE, .lo, .mn⟩, ⟨0x9D6, .cn, .cn⟩, ⟨0x9D8, .cn, .mc⟩, ⟨0x9DB, .cn, .cn⟩,
  ⟨0x9DD, .lo, .lo⟩, ⟨0x9DF, .cn, .lo⟩, ⟨0x9E1, .lo, .lo⟩, ⟨0x9E3, .mn, .mn⟩, ⟨0x9E5, .cn, .cn⟩,
  ⟨0x9EF, .nd, .nd⟩, ⟨0x9F1, .lo, .lo⟩, ⟨0x9F3, .sc, .sc⟩, ⟨0x9F9, .no, .no⟩, ⟨0x9FB, .so, .sc⟩,
  ⟨0x9FD, .lo, .po⟩, ⟨0x9FF, .mn, .cn⟩, ⟨0xA01, .cn, .mn⟩, ⟨0xA03, .mn, .mc⟩, ⟨0xA05, .cn, .lo⟩,
  ⟨0xA0A, .lo, .lo⟩, ⟨0xA0E, .cn, .cn⟩, ⟨0xA10, .lo, .lo⟩, ⟨0xA12, .cn, .cn⟩, ⟨0xA28, .lo, .lo⟩,
  ⟨0xA2A, .lo, .cn⟩, ⟨0xA30, .lo, .lo⟩, ⟨0xA32, .lo, .cn⟩, ⟨0xA35, .cn, .lo⟩, ⟨0xA38, .lo, .cn⟩,
  ⟨0xA3A, .cn, .lo⟩, ⟨0xA3D, .mn, .cn⟩, ⟨0xA40, .mc, .mc⟩, ⟨0xA42, .mn, .mn⟩, ⟨0xA46, .cn, .cn⟩,
  ⟨0xA48, .mn, .mn⟩, ⟨0xA4A, .cn, .cn⟩, ⟨0xA4D, .mn, .mn⟩, ⟨0xA50, .cn, .cn⟩, ⟨0xA52, .cn, .mn⟩,
  ⟨0xA58, .cn, .cn⟩, ⟨0xA5C, .lo, .lo⟩, ⟨0xA5F, .lo, .cn⟩, ⟨0xA65, .cn, .cn⟩, ⟨0xA6F, .nd, .nd⟩,
  ⟨0xA71, .mn, .mn⟩, ⟨0xA74, .lo, .lo⟩, ⟨0xA76, .po, .mn⟩, ⟨0xA80, .cn, .cn⟩, ⟨0xA82, .mn, .mn⟩,
  ⟨0xA84, .cn, .mc⟩, ⟨0xA8D, .lo, .lo⟩, ⟨0xA8F, .cn, .lo⟩, ⟨0xA91, .lo, .lo⟩, ⟨0xA93, .cn, .lo⟩,
  ⟨0xAA8, .lo, .lo⟩, ⟨0xAAA, .lo, .cn⟩, ⟨0xAB0, .lo, .lo⟩, ⟨0xAB2, .lo, .cn⟩, ⟨0xAB5, .cn, .lo⟩,
  ⟨0xAB9, .lo, .lo⟩, ⟨0xABB, .cn, .cn⟩, ⟨0xABD, .mn, .lo⟩, ⟨0xAC0, .mc, .mc⟩, ⟨0xAC5, .mn, .mn⟩,
  ⟨0xAC7, .cn, .mn⟩, ⟨0xAC9, .mn, .mc⟩, ⟨0xACB, .cn, .mc⟩, ⟨0xACD, .mc, .mn⟩, ⟨0xACF, .cn, .cn⟩,
  ⟨0xAD1, .lo, .cn⟩, ⟨0xADF, .cn, .cn⟩, ⟨0xAE1, .lo, .lo⟩, ⟨0xAE3, .mn, .mn⟩, ⟨0xAE5, .cn, .cn⟩,
  ⟨0xAEF, .nd, .nd⟩, ⟨0xAF1, .po, .sc⟩, ⟨0xAF8, .cn, .cn⟩, ⟨0xAFA, .mn, .lo⟩, ⟨0xAFF, .mn, .mn⟩,
  ⟨0xB01, .cn, .mn⟩, ⟨0xB03, .mc, .mc⟩, ⟨0xB05, .cn, .lo⟩, ⟨0xB0C, .lo, .lo⟩, ⟨0xB0E, .cn, .cn⟩,
  ⟨0xB10, .lo, .lo⟩, ⟨0xB12, .cn, .cn⟩, ⟨0xB28, .lo, .lo⟩, ⟨0xB2A, .lo, .cn⟩, ⟨0xB30, .lo, .lo⟩,
  ⟨0xB32, .lo, .cn⟩, ⟨0xB35, .cn, .lo⟩, ⟨0xB39, .lo, .lo⟩, ⟨0xB3B, .cn, .cn⟩, ⟨0xB3D, .mn, .lo⟩,
  ⟨0xB41, .mc, .mn⟩, ⟨0xB44, .mn, .mn⟩, ⟨0xB46, .cn, .cn⟩, ⟨0xB48, .mc, .mc⟩, ⟨0xB4A, .cn, .cn⟩,
  ⟨0xB4C, .mc, .mc⟩, ⟨0xB4E, .cn, .mn⟩, ⟨0xB54, .cn, .cn⟩, ⟨0xB56, .mn, .mn⟩, ⟨0xB58, .cn, .mc⟩,
  ⟨0xB5B, .cn, .cn⟩, ⟨0xB5D, .lo, .lo⟩, ⟨0xB5F, .cn, .lo⟩, ⟨0xB61, .lo, .lo⟩, ⟨0xB63, .mn, .mn⟩,
  ⟨0xB65, .cn, .cn⟩, ⟨0xB6F, .nd, .nd⟩, ⟨0xB71, .so, .lo⟩, ⟨0xB77, .no, .no⟩, ⟨0xB81, .cn, .cn⟩,
  ⟨0xB83, .mn, .lo⟩, ⟨0xB85, .cn, .lo⟩, ⟨0xB8A, .lo, .lo⟩, ⟨0xB8D, .cn, .cn⟩, ⟨0xB90, .lo, .lo⟩,
  ⟨0xB92, .lo, .cn⟩, ⟨0xB95, .lo, .lo⟩, ⟨0xB98, .cn, .cn⟩, ⟨0xB9A, .lo, .lo⟩, ⟨0xB9E, .lo, .cn⟩,
  ⟨0xBA0, .cn, .lo⟩, ⟨0xBA2, .cn, .cn⟩, ⟨0xBA4, .lo, .lo⟩, ⟨0xBA7, .cn, .cn⟩, ⟨0xBAA, .lo, .lo⟩,
  ⟨0xBAD, .cn, .cn⟩, ⟨0xBB9, .lo, .lo⟩, ⟨0xBBD, .cn, .cn⟩, ⟨0xBBF, .mc, .mc⟩, ⟨0xBC1, .mn, .mc⟩,
  ⟨0xBC3, .mc, .cn⟩, ⟨0xBC5, .cn, .cn⟩, ⟨0xBC8, .mc, .mc⟩, ⟨0xBCA, .mc, .cn⟩, ⟨0xBCC, .mc, .mc⟩,
  ⟨0xBCE, .cn, .mn⟩, ⟨0xBD1, .lo, .cn⟩, ⟨0xBD6, .cn, .cn⟩, ⟨0xBD8, .cn, .mc⟩, ⟨0xBE5, .cn, .cn⟩,
  ⟨0xBEF, .nd, .nd⟩, ⟨0xBF2, .no, .no⟩, ⟨0xBF8, .so, .so⟩, ⟨0xBFA, .so, .sc⟩, ⟨0xBFF, .cn, .cn⟩,
  ⟨0xC01, .mn, .mc⟩, ⟨0xC03, .mc, .mc⟩, ⟨0xC05, .mn, .lo⟩, ⟨0xC0C, .lo, .lo⟩, ⟨0xC0E, .lo, .cn⟩,
  ⟨0xC10, .lo, .lo⟩, ⟨0xC12, .lo, .cn⟩, ⟨0xC28, .lo, .lo⟩, ⟨0xC2A, .lo, .cn⟩, ⟨0xC39, .lo, .lo⟩,
  ⟨0xC3B, .cn, .cn⟩, ⟨0xC3E, .mn, .lo⟩, ⟨0xC40, .mn, .mn⟩, ⟨0xC44, .mc, .mc⟩, ⟨0xC46, .mn, .cn⟩,
  ⟨0xC48, .mn, .mn⟩, ⟨0xC4A, .mn, .cn⟩, ⟨0xC4D, .mn, .mn⟩, ⟨0xC54, .cn, .cn⟩, ⟨0xC56, .mn, .mn⟩,
  ⟨0xC58, .lo, .cn⟩, ⟨0xC5A, .lo, .lo⟩, ⟨0xC5C, .cn, .cn⟩, ⟨0xC5E, .cn, .lo⟩, ⟨0xC60, .lo, .cn⟩,
  ⟨0xC62, .mn, .lo⟩, ⟨0xC64, .cn, .mn⟩, ⟨0xC66, .nd, .cn⟩, ⟨0xC6F, .nd, .nd⟩, ⟨0xC76, .cn, .cn⟩,
  ⟨0xC78, .no, .po⟩, ⟨0xC7E, .no, .no⟩, ⟨0xC80, .lo, .so⟩, ⟨0xC82, .mc, .mn⟩, ⟨0xC84, .po, .mc⟩,
  ⟨0xC8C, .lo, .lo⟩, ⟨0xC8E, .lo, .cn⟩, ⟨0xC90, .lo, .lo⟩, ⟨0xC92, .lo, .cn⟩, ⟨0xCA8, .lo, .lo⟩,
  ⟨0xCAA, .lo, .cn⟩, ⟨0xCB3, .lo, .lo⟩, ⟨0xCB5, .cn, .lo⟩, ⟨0xCB9, .lo, .lo⟩, ⟨0xCBB, .cn, .cn⟩,
  ⟨0xCBD, .mn, .lo⟩, ⟨0xCC0, .mc, .mn⟩, ⟨0xCC4, .mc, .mc⟩, ⟨0xCC6, .mn, .cn⟩, ⟨0xCC8, .mc, .mc⟩,
  ⟨0xCCA, .mc, .cn⟩, ⟨0xCCC, .mn, .mc⟩, ⟨0xCCE, .cn, .mn⟩, ⟨0xCD4, .cn, .cn⟩, ⟨0xCD6, .mc, .mc⟩,
  ⟨0xCDC, .cn, .cn⟩, ⟨0xCDE, .lo, .lo⟩, ⟨0xCE0, .lo, .cn⟩, ⟨0xCE2, .mn, .lo⟩, ⟨0xCE4, .cn, .mn⟩,
  ⟨0xCE6, .nd, .cn⟩, ⟨0xCEF, .nd, .nd⟩, ⟨0xCF1, .cn, .lo⟩, ⟨0xCF3, .lo, .mc⟩, ⟨0xCFF, .cn, .cn⟩,
  ⟨0xD01, .mn, .mn⟩, ⟨0xD03, .mc, .mc⟩, ⟨0xD0C, .lo, .lo⟩, ⟨0xD0E, .lo, .cn⟩, ⟨0xD10, .lo, .lo⟩,
  ⟨0xD12, .lo, .cn⟩, ⟨0xD3A, .lo, .lo⟩, ⟨0xD3C, .mn, .mn⟩, ⟨0xD3E, .mc, .lo⟩, ⟨0xD40, .mc, .mc⟩,
  ⟨0xD44, .mn, .mn⟩, ⟨0xD46, .mc, .cn⟩, ⟨0xD48, .mc, .mc⟩, ⟨0xD4A, .mc, .cn⟩, ⟨0xD4C, .mc, .mc⟩,
  ⟨0xD4E, .lo, .mn⟩, ⟨0xD50, .cn, .so⟩, ⟨0xD53, .cn, .cn⟩, ⟨0xD56, .lo, .lo⟩, ⟨0xD58, .no, .mc⟩,
  ⟨0xD5E, .no, .no⟩, ⟨0xD61, .lo, .lo⟩, ⟨0xD63, .mn, .mn⟩, ⟨0xD65, .cn, .cn⟩, ⟨0xD6F, .nd, .nd⟩,
  ⟨0xD78, .no, .no⟩, ⟨0xD7A, .lo, .so⟩, ⟨0xD7F, .lo, .lo⟩, ⟨0xD81, .cn, .mn⟩, ⟨0xD83, .mc, .mc⟩,
  ⟨0xD85, .cn, .lo⟩, ⟨0xD96, .lo, .lo⟩, ⟨0xD99, .cn, .cn⟩, ⟨0xDB1, .lo, .lo⟩, ⟨0xDB3, .cn, .lo⟩,
  ⟨0xDBB, .lo, .lo⟩, ⟨0xDBE, .cn, .lo⟩, ⟨0xDC0, .lo, .cn⟩, ⟨0xDC6, .lo, .lo⟩, ⟨0xDC9, .cn, .cn⟩,
  ⟨0xDCB, .mn, .cn⟩, ⟨0xDCE, .cn, .cn⟩, ⟨0xDD1, .mc, .mc⟩, ⟨0xDD4, .mn, .mn⟩, ⟨0xDD7, .mn, .cn⟩,
  ⟨0xDDF, .mc, .mc⟩, ⟨0xDE5, .cn, .cn⟩, ⟨0xDEF, .nd, .nd⟩, ⟨0xDF1, .cn, .cn⟩, ⟨0xDF3, .mc, .mc⟩,
  ⟨0xDF5, .po, .cn⟩, ⟨0xE00, .cn, .cn⟩, ⟨0xE30, .lo, .lo⟩, ⟨0xE32, .lo, .mn⟩, ⟨0xE34, .mn, .lo⟩,
  ⟨0xE3A, .mn, .mn⟩, ⟨0xE3E, .cn, .cn⟩, ⟨0xE40, .lo, .sc⟩, ⟨0xE45, .lo, .lo⟩, ⟨0xE47, .lm, .mn⟩,
  ⟨0xE4E, .mn, .mn⟩, ⟨0xE50, .nd, .po⟩, ⟨0xE59, .nd, .nd⟩, ⟨0xE5B, .po, .po⟩, ⟨0xE80, .cn, .cn⟩,
  ⟨0xE82, .lo, .lo⟩, ⟨0xE86, .lo, .cn⟩, ⟨0xE8A, .lo, .lo⟩, ⟨0xE8C, .lo, .cn⟩, ⟨0xEA3, .lo, .lo⟩,
  ⟨0xEA7, .cn, .lo⟩, ⟨0xEB0, .lo, .lo⟩, ⟨0xEB2, .lo, .mn⟩, ⟨0xEB4, .mn, .lo⟩, ⟨0xEBC, .mn, .mn⟩,
  ⟨0xEBE, .cn, .lo⟩, ⟨0xEC0, .lo, .cn⟩, ⟨0xEC4, .lo, .lo⟩, ⟨0xEC7, .lm, .cn⟩, ⟨0xECE, .mn, .mn⟩,
  ⟨0xED0, .nd, .cn⟩, ⟨0xED9, .nd, .nd⟩, ⟨0xEDB, .cn, .cn⟩, ⟨0xEDF, .lo, .lo⟩, ⟨0xEFF, .cn, .cn⟩,
  ⟨0xF01, .lo, .so⟩, ⟨0xF03, .so, .so⟩, ⟨0xF12, .po, .po⟩, ⟨0xF15, .po, .so⟩, ⟨0xF17, .so, .so⟩,
  ⟨0xF19, .mn, .mn⟩, ⟨0xF1F, .so, .so⟩, ⟨0xF29, .nd, .nd⟩, ⟨0xF33, .no, .no⟩, ⟨0xF39, .so, .mn⟩,
  ⟨0xF3D, .ps, .pe⟩, ⟨0xF3F, .mc, .mc⟩, ⟨0xF47, .lo, .lo⟩, ⟨0xF49, .cn, .lo⟩, ⟨0xF6C, .lo, .lo⟩,
  ⟨0xF70, .cn, .cn⟩, ⟨0xF7E, .mn, .mn⟩, ⟨0xF80, .mn, .mc⟩, ⟨0xF84, .mn, .mn⟩, ⟨0xF86, .mn, .po⟩,
  ⟨0xF88, .lo, .mn⟩, ⟨0xF8C, .lo, .lo⟩, ⟨0xF97, .mn, .mn⟩, ⟨0xF99, .cn, .mn⟩, ⟨0xFBC, .mn, .mn⟩,
  ⟨0xFBE, .so, .cn⟩, ⟨0xFC5, .so, .so⟩, ⟨0xFC7, .mn, .so⟩, ⟨0xFCC, .so, .so⟩, ⟨0xFCE, .so, .cn⟩,
  ⟨0xFD0, .po, .so⟩, ⟨0xFD4, .po, .po⟩, ⟨0xFD8, .so, .so⟩, ⟨0xFDA, .po, .po⟩, ⟨0xFFF, .cn, .cn⟩]

/-- The stretches from code point 0x1000 up to 0x1FFF. -/
def from1000 : List Stretch := [
  ⟨0x102A, .lo, .lo⟩, ⟨0x102C, .mc, .mc⟩, ⟨0x1030, .mn, .mn⟩, ⟨0x1032, .mn, .mc⟩,
  ⟨0x1037, .mn, .mn⟩, ⟨0x1039, .mc, .mn⟩, ⟨0x103B, .mn, .mc⟩, ⟨0x103D, .mc, .mn⟩,
  ⟨0x103F, .mn, .lo⟩, ⟨0x1049, .nd, .nd⟩, ⟨0x104F, .po, .po⟩, ⟨0x1055, .lo, .lo⟩,
  ⟨0x1057, .mc, .mc⟩, ⟨0x1059, .mn, .mn⟩, ⟨0x105D, .lo, .lo⟩, ⟨0x1060, .mn, .mn⟩,
  ⟨0x1062, .mc, .lo⟩, ⟨0x1064, .mc, .mc⟩, ⟨0x1066, .lo, .lo⟩, ⟨0x106D, .mc, .mc⟩,
  ⟨0x1070, .lo, .lo⟩, ⟨0x1074, .mn, .mn⟩, ⟨0x1081, .lo, .lo⟩, ⟨0x1083, .mn, .mc⟩,
  ⟨0x1085, .mc, .mn⟩, ⟨0x1087, .mn, .mc⟩, ⟨0x108C, .mc, .mc⟩, ⟨0x108E, .lo, .mn⟩,
  ⟨0x1090, .nd, .mc⟩, ⟨0x1099, .nd, .nd⟩, ⟨0x109C, .mc, .mc⟩, ⟨0x109E, .so, .mn⟩,
  ⟨0x10A0, .lu, .so⟩, ⟨0x10C5, .lu, .lu⟩, ⟨0x10C8, .cn, .lu⟩, ⟨0x10CC, .cn, .cn⟩,
  ⟨0x10CE, .cn, .lu⟩, ⟨0x10D0, .ll, .cn⟩, ⟨0x10FA, .ll, .ll⟩, ⟨0x10FC, .lm, .po⟩,
  ⟨0x10FF, .ll, .ll⟩, ⟨0x1248, .lo, .lo⟩, ⟨0x124A, .lo, .cn⟩, ⟨0x124D, .lo, .lo⟩,
  ⟨0x124F, .cn, .cn⟩, ⟨0x1256, .lo, .lo⟩, ⟨0x125A, .lo, .cn⟩, ⟨0x125D, .lo, .lo⟩,
  ⟨0x125F, .cn, .cn⟩, ⟨0x1288, .lo, .lo⟩, ⟨0x128A, .lo, .cn⟩, ⟨0x128D, .lo, .lo⟩,
  ⟨0x128F, .cn, .cn⟩, ⟨0x12B0, .lo, .lo⟩, ⟨0x12B2, .lo, .cn⟩, ⟨0x12B5, .lo, .lo⟩,
  ⟨0x12B7, .cn, .cn⟩, ⟨0x12BE, .lo, .lo⟩, ⟨0x12C2, .lo, .cn⟩, ⟨0x12C5, .lo, .lo⟩,
  ⟨0x12C7, .cn, .cn⟩, ⟨0x12D6, .lo, .lo⟩, ⟨0x12D8, .lo, .cn⟩, ⟨0x1310, .lo, .lo⟩,
  ⟨0x1312, .lo, .cn⟩, ⟨0x1315, .lo, .lo⟩, ⟨0x1317, .cn, .cn⟩, ⟨0x135A, .lo, .lo⟩,
  ⟨0x135C, .cn, .cn⟩, ⟨0x135F, .mn, .mn⟩, ⟨0x1368, .po, .po⟩, ⟨0x137C, .no, .no⟩,
  ⟨0x137F, .cn, .cn⟩, ⟨0x138F, .lo, .lo⟩, ⟨0x1399, .so, .so⟩, ⟨0x139F, .cn, .cn⟩,
  ⟨0x13F5, .lu, .lu⟩, ⟨0x13F7, .cn, .cn⟩, ⟨0x13FD, .ll, .ll⟩, ⟨0x13FF, .cn, .cn⟩,
  ⟨0x1401, .pd, .lo⟩, ⟨0x166C, .lo, .lo⟩, ⟨0x166E, .po, .so⟩, ⟨0x167F, .lo, .lo⟩,
  ⟨0x1681, .zs, .lo⟩, ⟨0x169A, .lo, .lo⟩, ⟨0x169C, .pe, .ps⟩, ⟨0x169F, .cn, .cn⟩,
  ⟨0x16EA, .lo, .lo⟩, ⟨0x16ED, .po, .po⟩, ⟨0x16F0, .nl, .nl⟩, ⟨0x16F8, .lo, .lo⟩,
  ⟨0x16FF, .cn, .cn⟩, ⟨0x1711, .lo, .lo⟩, ⟨0x1714, .mn, .mn⟩, ⟨0x1716, .cn, .mc⟩,
  ⟨0x171E, .cn, .cn⟩, ⟨0x1731, .lo, .lo⟩, ⟨0x1733, .mn, .mn⟩, ⟨0x1735, .mc, .po⟩,
  ⟨0x1737, .po, .cn⟩, ⟨0x173F, .cn, .cn⟩, ⟨0x1751, .lo, .lo⟩, ⟨0x1753, .mn, .mn⟩,
  ⟨0x175F, .cn, .cn⟩, ⟨0x176C, .lo, .lo⟩, ⟨0x176E, .lo, .cn⟩, ⟨0x1770, .lo, .lo⟩,
  ⟨0x1772, .mn, .cn⟩, ⟨0x1774, .cn, .mn⟩, ⟨0x177F, .cn, .cn⟩, ⟨0x17B3, .lo, .lo⟩,
  ⟨0x17B5, .mn, .mn⟩, ⟨0x17B7, .mc, .mn⟩, ⟨0x17BD, .mn, .mn⟩, ⟨0x17C5, .mc, .mc⟩,
  ⟨0x17C7, .mn, .mc⟩, ⟨0x17C9, .mc, .mn⟩, ⟨0x17D3, .mn, .mn⟩, ⟨0x17D6, .po, .po⟩,
  ⟨0x17D8, .po, .lm⟩, ⟨0x17DA, .po, .po⟩, ⟨0x17DC, .lo, .sc⟩, ⟨0x17DE, .cn, .mn⟩,
  ⟨0x17E0, .nd, .cn⟩, ⟨0x17E9, .nd, .nd⟩, ⟨0x17EF, .cn, .cn⟩, ⟨0x17F9, .no, .no⟩,
  ⟨0x17FF, .cn, .cn⟩, ⟨0x1805, .po, .po⟩, ⟨0x1807, .pd, .po⟩, ⟨0x180A, .po, .po⟩,
  ⟨0x180D, .mn, .mn⟩, ⟨0x180F, .cf, .mn⟩, ⟨0x1819, .nd, .nd⟩, ⟨0x181F, .cn, .cn⟩,
  ⟨0x1842, .lo, .lo⟩, ⟨0x1844, .lo, .lm⟩, ⟨0x1878, .lo, .lo⟩, ⟨0x187F, .cn, .cn⟩,
  ⟨0x1884, .lo, .lo⟩, ⟨0x1886, .mn, .mn⟩, ⟨0x18A8, .lo, .lo⟩, ⟨0x18AA, .lo, .mn⟩,
  ⟨0x18AF, .cn, .cn⟩, ⟨0x18F5, .lo, .lo⟩, ⟨0x18FF, .cn, .cn⟩, ⟨0x191E, .lo, .lo⟩,
  ⟨0x1920, .mn, .cn⟩, ⟨0x1922, .mn, .mn⟩, ⟨0x1926, .mc, .mc⟩, ⟨0x1928, .mn, .mn⟩,
  ⟨0x192B, .mc, .mc⟩, ⟨0x192F, .cn, .cn⟩, ⟨0x1931, .mc, .mc⟩, ⟨0x1933, .mn, .mc⟩,
  ⟨0x1938, .mc, .mc⟩, ⟨0x193B, .mn, .mn⟩, ⟨0x193F, .cn, .cn⟩, ⟨0x1941, .so, .cn⟩,
  ⟨0x1943, .cn, .cn⟩, ⟨0x1945, .po, .po⟩, ⟨0x194F, .nd, .nd⟩, ⟨0x196D, .lo, .lo⟩,
  ⟨0x196F, .cn, .cn⟩, ⟨0x1974, .lo, .lo⟩, ⟨0x197F, .cn, .cn⟩, ⟨0x19AB, .lo, .lo⟩,
  ⟨0x19AF, .cn, .cn⟩, ⟨0x19C9, .lo, .lo⟩, ⟨0x19CF, .cn, .cn⟩, ⟨0x19D9, .nd, .nd⟩,
  ⟨0x19DB, .no, .cn⟩, ⟨0x19DD, .cn, .cn⟩, ⟨0x19FF, .so, .so⟩, ⟨0x1A16, .lo, .lo⟩,
  ⟨0x1A18, .mn, .mn⟩, ⟨0x1A1A, .mc, .mc⟩, ⟨0x1A1C, .cn, .mn⟩, ⟨0x1A1E, .po, .cn⟩,
  ⟨0x1A20, .lo, .po⟩, ⟨0x1A54, .lo, .lo⟩, ⟨0x1A58, .mn, .mc⟩, ⟨0x1A5E, .mn, .mn⟩,
  ⟨0x1A60, .mn, .cn⟩, ⟨0x1A63, .mn, .mc⟩, ⟨0x1A65, .mc, .mn⟩, ⟨0x1A6C, .mn, .mn⟩,
  ⟨0x1A72, .mc, .mc⟩, ⟨0x1A7C, .mn, .mn⟩, ⟨0x1A7E, .cn, .cn⟩, ⟨0x1A80, .nd, .mn⟩,
  ⟨0x1A89, .nd, .nd⟩, ⟨0x1A8F, .cn, .cn⟩, ⟨0x1A99, .nd, .nd⟩, ⟨0x1A9F, .cn, .cn⟩,
  ⟨0x1AA6, .po, .po⟩, ⟨0x1AA8, .po, .lm⟩, ⟨0x1AAD, .po, .po⟩, ⟨0x1AAF, .cn, .cn⟩,
  ⟨0x1ABD, .mn, .mn⟩, ⟨0x1ABF, .me, .mn⟩, ⟨0x1ACE, .mn, .mn⟩, ⟨0x1AFF, .cn, .cn⟩,
  ⟨0x1B03, .mn, .mn⟩, ⟨0x1B05, .mc, .lo⟩, ⟨0x1B33, .lo, .lo⟩, ⟨0x1B36, .mn, .mc⟩,
  ⟨0x1B3A, .mn, .mn⟩, ⟨0x1B3D, .mn, .mc⟩, ⟨0x1B41, .mc, .mc⟩, ⟨0x1B43, .mn, .mc⟩,
  ⟨0x1B45, .mc, .lo⟩, ⟨0x1B4C, .lo, .lo⟩, ⟨0x1B4E, .po, .cn⟩, ⟨0x1B50, .nd, .po⟩,
  ⟨0x1B59, .nd, .nd⟩, ⟨0x1B60, .po, .po⟩, ⟨0x1B6A, .so, .so⟩, ⟨0x1B73, .mn, .mn⟩,
  ⟨0x1B7C, .so, .so⟩, ⟨0x1B7F, .po, .po⟩, ⟨0x1B81, .mn, .mn⟩, ⟨0x1B83, .mc, .lo⟩,
  ⟨0x1BA0, .lo, .lo⟩, ⟨0x1BA2, .mn, .mc⟩, ⟨0x1BA5, .mn, .mn⟩, ⟨0x1BA7, .mc, .mc⟩,
  ⟨0x1BA9, .mn, .mn⟩, ⟨0x1BAB, .mc, .mn⟩, ⟨0x1BAD, .mn, .mn⟩, ⟨0x1BAF, .lo, .lo⟩,
  ⟨0x1BB9, .nd, .nd⟩, ⟨0x1BE5, .lo, .lo⟩, ⟨0x1BE8, .mn, .mc⟩, ⟨0x1BEA, .mc, .mn⟩,
  ⟨0x1BEC, .mc, .mc⟩, ⟨0x1BEF, .mc, .mn⟩, ⟨0x1BF1, .mn, .mn⟩, ⟨0x1BF3, .mc, .mc⟩,
  ⟨0x1BFB, .cn, .cn⟩, ⟨0x1BFF, .po, .po⟩, ⟨0x1C23, .lo, .lo⟩, ⟨0x1C2B, .mc, .mc⟩,
  ⟨0x1C33, .mn, .mn⟩, ⟨0x1C35, .mc, .mc⟩, ⟨0x1C37, .mn, .mn⟩, ⟨0x1C3A, .cn, .cn⟩,
  ⟨0x1C3F, .po, .po⟩, ⟨0x1C49, .nd, .nd⟩, ⟨0x1C4C, .cn, .cn⟩, ⟨0x1C4F, .lo, .lo⟩,
  ⟨0x1C59, .nd, .nd⟩, ⟨0x1C77, .lo, .lo⟩, ⟨0x1C7D, .lm, .lm⟩, ⟨0x1C7F, .po, .po⟩,
  ⟨0x1C88, .ll, .ll⟩, ⟨0x1C8A, .ll, .lu⟩, ⟨0x1C8F, .cn, .cn⟩, ⟨0x1CBA, .lu, .lu⟩,
  ⟨0x1CBC, .cn, .cn⟩, ⟨0x1CBF, .lu, .lu⟩, ⟨0x1CC7, .po, .po⟩, ⟨0x1CCF, .cn, .cn⟩,
  ⟨0x1CD2, .mn, .mn⟩, ⟨0x1CD4, .mn, .po⟩, ⟨0x1CE0, .mn, .mn⟩, ⟨0x1CE2, .mn, .mc⟩,
  ⟨0x1CE8, .mn, .mn⟩, ⟨0x1CEC, .lo, .lo⟩, ⟨0x1CEE, .lo, .mn⟩, ⟨0x1CF3, .lo, .lo⟩,
  ⟨0x1CF5, .mn, .lo⟩, ⟨0x1CF7, .lo, .mc⟩, ⟨0x1CF9, .mn, .mn⟩, ⟨0x1CFB, .lo, .cn⟩,
  ⟨0x1CFF, .cn, .cn⟩, ⟨0x1D2B, .ll, .ll⟩, ⟨0x1D6A, .lm, .lm⟩, ⟨0x1D77, .ll, .ll⟩,
  ⟨0x1D79, .lm, .ll⟩, ⟨0x1D9A, .ll, .ll⟩, ⟨0x1DBF, .lm, .lm⟩, ⟨0x1DFF, .mn, .mn⟩,
  ⟨0x1E95, .lu, .ll⟩, ⟨0x1E9D, .ll, .ll⟩, ⟨0x1EFF, .lu, .ll⟩, ⟨0x1F07, .ll, .ll⟩,
  ⟨0x1F0F, .lu, .lu⟩, ⟨0x1F15, .ll, .ll⟩, ⟨0x1F17, .cn, .cn⟩, ⟨0x1F1D, .lu, .lu⟩,
  ⟨0x1F1F, .cn, .cn⟩, ⟨0x1F27, .ll, .ll⟩, ⟨0x1F2F, .lu, .lu⟩, ⟨0x1F37, .ll, .ll⟩,
  ⟨0x1F3F, .lu, .lu⟩, ⟨0x1F45, .ll, .ll⟩, ⟨0x1F47, .cn, .cn⟩, ⟨0x1F4D, .lu, .lu⟩,
  ⟨0x1F4F, .cn, .cn⟩, ⟨0x1F57, .ll, .ll⟩, ⟨0x1F5F, .cn, .lu⟩, ⟨0x1F67, .ll, .ll⟩,
  ⟨0x1F6F, .lu, .lu⟩, ⟨0x1F7D, .ll, .ll⟩, ⟨0x1F7F, .cn, .cn⟩, ⟨0x1F87, .ll, .ll⟩,
  ⟨0x1F8F, .lt, .lt⟩, ⟨0x1F97, .ll, .ll⟩, ⟨0x1F9F, .lt, .lt⟩, ⟨0x1FA7, .ll, .ll⟩,
  ⟨0x1FAF, .lt, .lt⟩, ⟨0x1FB4, .ll, .ll⟩, ⟨0x1FB6, .ll, .cn⟩, ⟨0x1FB8, .lu, .ll⟩,
  ⟨0x1FBB, .lu, .lu⟩, ⟨0x1FBD, .lt, .sk⟩, ⟨0x1FBF, .ll, .sk⟩, ⟨0x1FC1, .sk, .sk⟩,
  ⟨0x1FC4, .ll, .ll⟩, ⟨0x1FC6, .ll, .cn⟩, ⟨0x1FC8, .lu, .ll⟩, ⟨0x1FCB, .lu, .lu⟩,
  ⟨0x1FCD, .lt, .sk⟩, ⟨0x1FCF, .sk, .sk⟩, ⟨0x1FD3, .ll, .ll⟩, ⟨0x1FD5, .cn, .cn⟩,
  ⟨0x1FD7, .ll, .ll⟩, ⟨0x1FDB, .lu, .lu⟩, ⟨0x1FDD, .cn, .sk⟩, ⟨0x1FDF, .sk, .sk⟩,
  ⟨0x1FE7, .ll, .ll⟩, ⟨0x1FEC, .lu, .lu⟩, ⟨0x1FEF, .sk, .sk⟩, ⟨0x1FF1, .cn, .cn⟩,
  ⟨0x1FF4, .ll, .ll⟩, ⟨0x1FF6, .ll, .cn⟩, ⟨0x1FF8, .lu, .ll⟩, ⟨0x1FFB, .lu, .lu⟩,
  ⟨0x1FFD, .lt, .sk⟩, ⟨0x1FFF, .sk, .cn⟩]

/-- The stretches from code point 0x2000 up to 0xA014. -/
def from2000 : List Stretch := [
  ⟨0x200A, .zs, .zs⟩, ⟨0x200F, .cf, .cf⟩, ⟨0x2015, .pd, .pd⟩, ⟨0x2017, .po, .po⟩,
  ⟨0x2019, .pi, .pf⟩, ⟨0x201B, .ps, .pi⟩, ⟨0x201D, .pi, .pf⟩, ⟨0x201F, .ps, .pi⟩,
  ⟨0x2027, .po, .po⟩, ⟨0x2029, .zl, .zp⟩, ⟨0x202E, .cf, .cf⟩, ⟨0x2030, .po, .zs⟩,
  ⟨0x2038, .po, .po⟩, ⟨0x203A, .pf, .pi⟩, ⟨0x203E, .po, .po⟩, ⟨0x2040, .pc, .pc⟩,
  ⟨0x2043, .po, .po⟩, ⟨0x2045, .sm, .ps⟩, ⟨0x2047, .pe, .po⟩, ⟨0x2051, .po, .po⟩,
  ⟨0x2053, .sm, .po⟩, ⟨0x2055, .pc, .po⟩, ⟨0x205E, .po, .po⟩, ⟨0x2060, .cf, .zs⟩,
  ⟨0x2064, .cf, .cf⟩, ⟨0x2066, .cf, .cn⟩, ⟨0x206F, .cf, .cf⟩, ⟨0x2071, .no, .lm⟩,
  ⟨0x2073, .cn, .cn⟩, ⟨0x2079, .no, .no⟩, ⟨0x207C, .sm, .sm⟩, ⟨0x207E, .pe, .ps⟩,
  ⟨0x2080, .no, .lm⟩, ⟨0x2089, .no, .no⟩, ⟨0x208C, .sm, .sm⟩, ⟨0x208E, .pe, .ps⟩,
  ⟨0x2090, .lm, .cn⟩, ⟨0x209C, .lm, .lm⟩, ⟨0x209F, .cn, .cn⟩, ⟨0x20C0, .sc, .sc⟩,
  ⟨0x20CF, .cn, .cn⟩, ⟨0x20DC, .mn, .mn⟩, ⟨0x20E0, .me, .me⟩, ⟨0x20E2, .me, .mn⟩,
  ⟨0x20E4, .me, .me⟩, ⟨0x20F0, .mn, .mn⟩, ⟨0x20FF, .cn, .cn⟩, ⟨0x2101, .so, .so⟩,
  ⟨0x2103, .lu, .so⟩, ⟨0x2106, .so, .so⟩, ⟨0x2108, .so, .lu⟩, ⟨0x210A, .ll, .so⟩,
  ⟨0x210D, .lu, .lu⟩, ⟨0x210F, .ll, .ll⟩, ⟨0x2112, .lu, .lu⟩, ⟨0x2114, .so, .ll⟩,
  ⟨0x2116, .so, .lu⟩, ⟨0x2118, .sm, .so⟩, ⟨0x211D, .lu, .lu⟩, ⟨0x2123, .so, .so⟩,
  ⟨0x212A, .lu, .so⟩, ⟨0x212D, .lu, .lu⟩, ⟨0x212F, .so, .ll⟩, ⟨0x2133, .lu, .lu⟩,
  ⟨0x2135, .ll, .lo⟩, ⟨0x2138, .lo, .lo⟩, ⟨0x213A, .so, .ll⟩, ⟨0x213C, .ll, .so⟩,
  ⟨0x213E, .lu, .ll⟩, ⟨0x2140, .sm, .lu⟩, ⟨0x2144, .sm, .sm⟩, ⟨0x2146, .ll, .lu⟩,
  ⟨0x2149, .ll, .ll⟩, ⟨0x214C, .so, .sm⟩, ⟨0x214F, .ll, .so⟩, ⟨0x215F, .no, .no⟩,
  ⟨0x2182, .nl, .nl⟩, ⟨0x2184, .ll, .lu⟩, ⟨0x2188, .nl, .nl⟩, ⟨0x218A, .so, .no⟩,
  ⟨0x218C, .cn, .so⟩, ⟨0x218F, .cn, .cn⟩, ⟨0x2194, .sm, .sm⟩, ⟨0x2199, .so, .so⟩,
  ⟨0x219B, .sm, .sm⟩, ⟨0x219F, .so, .so⟩, ⟨0x21A1, .sm, .so⟩, ⟨0x21A4, .so, .sm⟩,
  ⟨0x21A7, .sm, .so⟩, ⟨0x21AD, .so, .so⟩, ⟨0x21AF, .sm, .so⟩, ⟨0x21CD, .so, .so⟩,
  ⟨0x21CF, .sm, .sm⟩, ⟨0x21D1, .so, .so⟩, ⟨0x21D5, .sm, .so⟩, ⟨0x21F3, .so, .so⟩,
  ⟨0x22FF, .sm, .sm⟩, ⟨0x2307, .so, .so⟩, ⟨0x230B, .ps, .pe⟩, ⟨0x231F, .so, .so⟩,
  ⟨0x2321, .sm, .sm⟩, ⟨0x2328, .so, .so⟩, ⟨0x232A, .pe, .ps⟩, ⟨0x237B, .so, .so⟩,
  ⟨0x237D, .sm, .so⟩, ⟨0x239A, .so, .so⟩, ⟨0x23B3, .sm, .sm⟩, ⟨0x23DB, .so, .so⟩,
  ⟨0x23E1, .sm, .sm⟩, ⟨0x2429, .so, .so⟩, ⟨0x243F, .cn, .cn⟩, ⟨0x244A, .so, .so⟩,
  ⟨0x245F, .cn, .cn⟩, ⟨0x249B, .no, .no⟩, ⟨0x24E9, .so, .so⟩, ⟨0x24FF, .no, .no⟩,
  ⟨0x25B6, .so, .so⟩, ⟨0x25B8, .so, .sm⟩, ⟨0x25C0, .so, .so⟩, ⟨0x25C2, .so, .sm⟩,
  ⟨0x25F7, .so, .so⟩, ⟨0x25FF, .sm, .sm⟩, ⟨0x266E, .so, .so⟩, ⟨0x2670, .so, .sm⟩,
  ⟨0x2767, .so, .so⟩, ⟨0x2775, .ps, .pe⟩, ⟨0x2793, .no, .no⟩, ⟨0x27BF, .so, .so⟩,
  ⟨0x27C4, .sm, .sm⟩, ⟨0x27C6, .pe, .ps⟩, ⟨0x27E5, .sm, .sm⟩, ⟨0x27EF, .ps, .pe⟩,
  ⟨0x27FF, .sm, .sm⟩, ⟨0x28FF, .so, .so⟩, ⟨0x2982, .sm, .sm⟩, ⟨0x2998, .pe, .ps⟩,
  ⟨0x29D7, .sm, .sm⟩, ⟨0x29DB, .ps, .pe⟩, ⟨0x29FB, .sm, .sm⟩, ⟨0x29FD, .ps, .pe⟩,
  ⟨0x2AFF, .sm, .sm⟩, ⟨0x2B2F, .so, .so⟩, ⟨0x2B44, .sm, .sm⟩, ⟨0x2B46, .so, .so⟩,
  ⟨0x2B4C, .sm, .sm⟩, ⟨0x2B73, .so, .so⟩, ⟨0x2B75, .cn, .cn⟩, ⟨0x2B95, .so, .so⟩,
  ⟨0x2B97, .cn, .so⟩, ⟨0x2BFF, .so, .so⟩, ⟨0x2C2F, .lu, .lu⟩, ⟨0x2C5F, .ll, .ll⟩,
  ⟨0x2C62, .lu, .ll⟩, ⟨0x2C64, .lu, .lu⟩, ⟨0x2C66, .ll, .ll⟩, ⟨0x2C6D, .ll, .lu⟩,
  ⟨0x2C70, .lu, .lu⟩, ⟨0x2C73, .lu, .ll⟩, ⟨0x2C76, .ll, .lu⟩, ⟨0x2C7B, .ll, .ll⟩,
  ⟨0x2C7D, .lm, .lm⟩, ⟨0x2C80, .lu, .lu⟩, ⟨0x2CE3, .lu, .ll⟩, ⟨0x2CE5, .ll, .so⟩,
  ⟨0x2CEA, .so, .so⟩, ⟨0x2CEE, .ll, .lu⟩, ⟨0x2CF1, .mn, .mn⟩, ⟨0x2CF3, .lu, .ll⟩,
  ⟨0x2CF8, .cn, .cn⟩, ⟨0x2CFC, .po, .po⟩, ⟨0x2CFE, .po, .no⟩, ⟨0x2D00, .ll, .po⟩,
  ⟨0x2D25, .ll, .ll⟩, ⟨0x2D28, .cn, .ll⟩, ⟨0x2D2C, .cn, .cn⟩, ⟨0x2D2E, .cn, .ll⟩,
  ⟨0x2D30, .lo, .cn⟩, ⟨0x2D67, .lo, .lo⟩, ⟨0x2D6E, .cn, .cn⟩, ⟨0x2D70, .po, .lm⟩,
  ⟨0x2D7E, .cn, .cn⟩, ⟨0x2D80, .lo, .mn⟩, ⟨0x2D96, .lo, .lo⟩, ⟨0x2D9F, .cn, .cn⟩,
  ⟨0x2DA6, .lo, .lo⟩, ⟨0x2DA8, .lo, .cn⟩, ⟨0x2DAE, .lo, .lo⟩, ⟨0x2DB0, .lo, .cn⟩,
  ⟨0x2DB6, .lo, .lo⟩, ⟨0x2DB8, .lo, .cn⟩, ⟨0x2DBE, .lo, .lo⟩, ⟨0x2DC0, .lo, .cn⟩,
  ⟨0x2DC6, .lo, .lo⟩, ⟨0x2DC8, .lo, .cn⟩, ⟨0x2DCE, .lo, .lo⟩, ⟨0x2DD0, .lo, .cn⟩,
  ⟨0x2DD6, .lo, .lo⟩, ⟨0x2DD8, .lo, .cn⟩, ⟨0x2DDE, .lo, .lo⟩, ⟨0x2DE0, .mn, .cn⟩,
  ⟨0x2DFF, .mn, .mn⟩, ⟨0x2E01, .po, .po⟩, ⟨0x2E05, .pi, .pf⟩, ⟨0x2E08, .po, .po⟩,
  ⟨0x2E0A, .pf, .pi⟩, ⟨0x2E0C, .pi, .po⟩, ⟨0x2E0E, .po, .pf⟩, ⟨0x2E16, .po, .po⟩,
  ⟨0x2E18, .po, .pd⟩, ⟨0x2E1B, .pd, .po⟩, ⟨0x2E1D, .pi, .pf⟩, ⟨0x2E1F, .po, .po⟩,
  ⟨0x2E21, .pi, .pf⟩, ⟨0x2E29, .ps, .pe⟩, ⟨0x2E2E, .po, .po⟩, ⟨0x2E30, .po, .lm⟩,
  ⟨0x2E39, .po, .po⟩, ⟨0x2E3B, .pd, .pd⟩, ⟨0x2E3F, .po, .po⟩, ⟨0x2E41, .pd, .po⟩,
  ⟨0x2E43, .ps, .po⟩, ⟨0x2E4F, .po, .po⟩, ⟨0x2E51, .so, .so⟩, ⟨0x2E54, .po, .po⟩,
  ⟨0x2E5C, .pe, .ps⟩, ⟨0x2E5E, .cn, .pd⟩, ⟨0x2E7F, .cn, .cn⟩, ⟨0x2E99, .so, .so⟩,
  ⟨0x2E9B, .cn, .so⟩, ⟨0x2EF3, .so, .so⟩, ⟨0x2EFF, .cn, .cn⟩, ⟨0x2FD5, .so, .so⟩,
  ⟨0x2FEF, .cn, .cn⟩, ⟨0x2FFF, .so, .so⟩, ⟨0x3001, .zs, .po⟩, ⟨0x3003, .po, .po⟩,
  ⟨0x3005, .so, .lm⟩, ⟨0x3007, .lo, .nl⟩, ⟨0x3011, .ps, .pe⟩, ⟨0x3013, .so, .so⟩,
  ⟨0x301B, .ps, .pe⟩, ⟨0x301D, .pd, .ps⟩, ⟨0x301F, .pe, .pe⟩, ⟨0x3021, .so, .nl⟩,
  ⟨0x3029, .nl, .nl⟩, ⟨0x302D, .mn, .mn⟩, ⟨0x302F, .mc, .mc⟩, ⟨0x3031, .pd, .lm⟩,
  ⟨0x3035, .lm, .lm⟩, ⟨0x3037, .so, .so⟩, ⟨0x303A, .nl, .nl⟩, ⟨0x303C, .lo, .lm⟩,
  ⟨0x303E, .so, .po⟩, ⟨0x3040, .cn, .so⟩, ⟨0x3096, .lo, .lo⟩, ⟨0x3098, .cn, .cn⟩,
  ⟨0x309A, .mn, .mn⟩, ⟨0x309C, .sk, .sk⟩, ⟨0x309E, .lm, .lm⟩, ⟨0x30A1, .pd, .lo⟩,
  ⟨0x30FA, .lo, .lo⟩, ⟨0x30FC, .lm, .po⟩, ⟨0x30FE, .lm, .lm⟩, ⟨0x3100, .cn, .lo⟩,
  ⟨0x3104, .cn, .cn⟩, ⟨0x312F, .lo, .lo⟩, ⟨0x3131, .cn, .lo⟩, ⟨0x318E, .lo, .lo⟩,
  ⟨0x3190, .so, .cn⟩, ⟨0x3192, .no, .so⟩, ⟨0x3195, .no, .no⟩, ⟨0x319F, .so, .so⟩,
  ⟨0x31BF, .lo, .lo⟩, ⟨0x31E5, .so, .so⟩, ⟨0x31EE, .cn, .cn⟩, ⟨0x31F0, .lo, .so⟩,
  ⟨0x31FF, .lo, .lo⟩, ⟨0x321E, .so, .so⟩, ⟨0x3220, .no, .cn⟩, ⟨0x3229, .no, .no⟩,
  ⟨0x3247, .so, .so⟩, ⟨0x324F, .no, .no⟩, ⟨0x3251, .so, .no⟩, ⟨0x325F, .no, .no⟩,
  ⟨0x327F, .so, .so⟩, ⟨0x3289, .no, .no⟩, ⟨0x32B0, .so, .so⟩, ⟨0x32BF, .no, .no⟩,
  ⟨0x33FF, .so, .so⟩, ⟨0x4DBF, .lo, .lo⟩, ⟨0x4DFF, .so, .so⟩, ⟨0xA014, .lo, .lo⟩]

/-- The stretches from code point 0xA015 up to 0xFFFF. -/
def fromA015 : List Stretch := [
  ⟨0xA016, .lo, .lm⟩, ⟨0xA48C, .lo, .lo⟩, ⟨0xA48F, .cn, .cn⟩, ⟨0xA4C6, .so, .so⟩,
  ⟨0xA4CF, .cn, .cn⟩, ⟨0xA4F7, .lo, .lo⟩, ⟨0xA4FD, .lm, .lm⟩, ⟨0xA4FF, .po, .po⟩,
  ⟨0xA60B, .lo, .lo⟩, ⟨0xA60D, .lm, .po⟩, ⟨0xA60F, .po, .po⟩, ⟨0xA61F, .lo, .lo⟩,
  ⟨0xA629, .nd, .nd⟩, ⟨0xA62B, .lo, .lo⟩, ⟨0xA63F, .cn, .cn⟩, ⟨0xA66D, .lu, .ll⟩,
  ⟨0xA66F, .lo, .mn⟩, ⟨0xA672, .me, .me⟩, ⟨0xA674, .mn, .po⟩, ⟨0xA67D, .mn, .mn⟩,
  ⟨0xA67F, .po, .lm⟩, ⟨0xA69B, .lu, .ll⟩, ⟨0xA69D, .lm, .lm⟩, ⟨0xA69F, .mn, .mn⟩,
  ⟨0xA6E5, .lo, .lo⟩, ⟨0xA6EF, .nl, .nl⟩, ⟨0xA6F1, .mn, .mn⟩, ⟨0xA6F7, .po, .po⟩,
  ⟨0xA6FF, .cn, .cn⟩, ⟨0xA716, .sk, .sk⟩, ⟨0xA71F, .lm, .lm⟩, ⟨0xA721, .sk, .sk⟩,
  ⟨0xA72F, .lu, .ll⟩, ⟨0xA731, .ll, .ll⟩, ⟨0xA76F, .lu, .ll⟩, ⟨0xA771, .lm, .ll⟩,
  ⟨0xA778, .ll, .ll⟩, ⟨0xA77D, .ll, .lu⟩, ⟨0xA787, .lu, .ll⟩, ⟨0xA789, .lm, .sk⟩,
  ⟨0xA78B, .sk, .lu⟩, ⟨0xA78E, .ll, .lu⟩, ⟨0xA790, .lu, .lo⟩, ⟨0xA793, .lu, .ll⟩,
  ⟨0xA795, .ll, .ll⟩, ⟨0xA7AA, .lu, .ll⟩, ⟨0xA7AE, .lu, .lu⟩, ⟨0xA7B0, .lu, .ll⟩,
  ⟨0xA7B4, .lu, .lu⟩, ⟨0xA7C4, .lu, .ll⟩, ⟨0xA7C7, .lu, .lu⟩, ⟨0xA7CB, .ll, .lu⟩,
  ⟨0xA7CD, .lu, .ll⟩, ⟨0xA7CF, .cn, .cn⟩, ⟨0xA7D1, .lu, .ll⟩, ⟨0xA7D5, .cn, .ll⟩,
  ⟨0xA7DC, .lu, .ll⟩, ⟨0xA7F1, .cn, .cn⟩, ⟨0xA7F4, .lm, .lm⟩, ⟨0xA7F6, .ll, .lu⟩,
  ⟨0xA7F8, .lm, .lo⟩, ⟨0xA7FA, .ll, .lm⟩, ⟨0xA801, .lo, .lo⟩, ⟨0xA803, .mn, .lo⟩,
  ⟨0xA805, .lo, .lo⟩, ⟨0xA807, .mn, .lo⟩, ⟨0xA80A, .lo, .lo⟩, ⟨0xA80C, .lo, .mn⟩,
  ⟨0xA822, .lo, .lo⟩, ⟨0xA824, .mc, .mc⟩, ⟨0xA826, .mn, .mn⟩, ⟨0xA828, .so, .mc⟩,
  ⟨0xA82B, .so, .so⟩, ⟨0xA82D, .mn, .cn⟩, ⟨0xA82F, .cn, .cn⟩, ⟨0xA835, .no, .no⟩,
  ⟨0xA837, .so, .so⟩, ⟨0xA839, .sc, .so⟩, ⟨0xA83F, .cn, .cn⟩, ⟨0xA873, .lo, .lo⟩,
  ⟨0xA877, .po, .po⟩, ⟨0xA87F, .cn, .cn⟩, ⟨0xA881, .mc, .mc⟩, ⟨0xA8B3, .lo, .lo⟩,
  ⟨0xA8C3, .mc, .mc⟩, ⟨0xA8C5, .mn, .mn⟩, ⟨0xA8CD, .cn, .cn⟩, ⟨0xA8CF, .po, .po⟩,
  ⟨0xA8D9, .nd, .nd⟩, ⟨0xA8DF, .cn, .cn⟩, ⟨0xA8F1, .mn, .mn⟩, ⟨0xA8F7, .lo, .lo⟩,
  ⟨0xA8FA, .po, .po⟩, ⟨0xA8FD, .po, .lo⟩, ⟨0xA8FF, .lo, .mn⟩, ⟨0xA909, .nd, .nd⟩,
  ⟨0xA925, .lo, .lo⟩, ⟨0xA92D, .mn, .mn⟩, ⟨0xA92F, .po, .po⟩, ⟨0xA946, .lo, .lo⟩,
  ⟨0xA951, .mn, .mn⟩, ⟨0xA953, .mc, .mc⟩, ⟨0xA95E, .cn, .cn⟩, ⟨0xA960, .lo, .po⟩,
  ⟨0xA97C, .lo, .lo⟩, ⟨0xA97F, .cn, .cn⟩, ⟨0xA982, .mn, .mn⟩, ⟨0xA984, .lo, .mc⟩,
  ⟨0xA9B2, .lo, .lo⟩, ⟨0xA9B4, .mc, .mn⟩, ⟨0xA9B6, .mn, .mc⟩, ⟨0xA9B9, .mn, .mn⟩,
  ⟨0xA9BB, .mc, .mc⟩, ⟨0xA9BD, .mn, .mn⟩, ⟨0xA9C0, .mc, .mc⟩, ⟨0xA9CD, .po, .po⟩,
  ⟨0xA9CF, .cn, .lm⟩, ⟨0xA9D9, .nd, .nd⟩, ⟨0xA9DD, .cn, .cn⟩, ⟨0xA9DF, .po, .po⟩,
  ⟨0xA9E4, .lo, .lo⟩, ⟨0xA9E6, .lm, .mn⟩, ⟨0xA9EF, .lo, .lo⟩, ⟨0xA9F9, .nd, .nd⟩,
  ⟨0xA9FE, .lo, .lo⟩, ⟨0xAA00, .lo, .cn⟩, ⟨0xAA28, .lo, .lo⟩, ⟨0xAA2E, .mn, .mn⟩,
  ⟨0xAA30, .mc, .mc⟩, ⟨0xAA32, .mn, .mn⟩, ⟨0xAA34, .mc, .mc⟩, ⟨0xAA36, .mn, .mn⟩,
  ⟨0xAA3F, .cn, .cn⟩, ⟨0xAA42, .lo, .lo⟩, ⟨0xAA44, .lo, .mn⟩, ⟨0xAA4B, .lo, .lo⟩,
  ⟨0xAA4D, .mn, .mc⟩, ⟨0xAA4F, .cn, .cn⟩, ⟨0xAA59, .nd, .nd⟩, ⟨0xAA5B, .cn, .cn⟩,
  ⟨0xAA5F, .po, .po⟩, ⟨0xAA6F, .lo, .lo⟩, ⟨0xAA71, .lm, .lo⟩, ⟨0xAA76, .lo, .lo⟩,
  ⟨0xAA79, .so, .so⟩, ⟨0xAA7B, .lo, .mc⟩, ⟨0xAA7D, .mn, .mc⟩, ⟨0xAAAF, .lo, .lo⟩,
  ⟨0xAAB2, .mn, .lo⟩, ⟨0xAAB4, .mn, .mn⟩, ⟨0xAAB6, .lo, .lo⟩, ⟨0xAAB8, .mn, .mn⟩,
  ⟨0xAABD, .lo, .lo⟩, ⟨0xAABF, .mn, .mn⟩, ⟨0xAAC2, .lo, .mn⟩, ⟨0xAADA, .cn, .cn⟩,
  ⟨0xAADC, .lo, .lo⟩, ⟨0xAADE, .po, .lm⟩, ⟨0xAAE0, .lo, .po⟩, ⟨0xAAEA, .lo, .lo⟩,
  ⟨0xAAEC, .mn, .mc⟩, ⟨0xAAEE, .mc, .mn⟩, ⟨0xAAF0, .po, .mc⟩, ⟨0xAAF2, .lo, .po⟩,
  ⟨0xAAF4, .lm, .lm⟩, ⟨0xAAF6, .mn, .mc⟩, ⟨0xAB00, .cn, .cn⟩, ⟨0xAB06, .lo, .lo⟩,
  ⟨0xAB08, .cn, .cn⟩, ⟨0xAB0E, .lo, .lo⟩, ⟨0xAB10, .cn, .cn⟩, ⟨0xAB16, .lo, .lo⟩,
  ⟨0xAB1F, .cn, .cn⟩, ⟨0xAB26, .lo, .lo⟩, ⟨0xAB28, .lo, .cn⟩, ⟨0xAB2E, .lo, .lo⟩,
  ⟨0xAB30, .ll, .cn⟩, ⟨0xAB5A, .ll, .ll⟩, ⟨0xAB5C, .lm, .sk⟩, ⟨0xAB5F, .lm, .lm⟩,
  ⟨0xAB68, .ll, .ll⟩, ⟨0xAB6A, .sk, .lm⟩, ⟨0xAB6C, .cn, .sk⟩, ⟨0xAB6F, .cn, .cn⟩,
  ⟨0xABBF, .ll, .ll⟩, ⟨0xABE2, .lo, .lo⟩, ⟨0xABE4, .mc, .mc⟩, ⟨0xABE6, .mc, .mn⟩,
  ⟨0xABE9, .mn, .mc⟩, ⟨0xABEC, .mc, .po⟩, ⟨0xABEE, .cn, .mn⟩, ⟨0xABF0, .nd, .cn⟩,
  ⟨0xABF9, .nd, .nd⟩, ⟨0xABFF, .cn, .cn⟩, ⟨0xD7A3, .lo, .lo⟩, ⟨0xD7AF, .cn, .cn⟩,
  ⟨0xD7C6, .lo, .lo⟩, ⟨0xD7CA, .cn, .cn⟩, ⟨0xD7FB, .lo, .lo⟩, ⟨0xD7FF, .cn, .cn⟩,
  ⟨0xDFFF, .cs, .cs⟩, ⟨0xF8FF, .co, .co⟩, ⟨0xFA6D, .lo, .lo⟩, ⟨0xFA6F, .cn, .cn⟩,
  ⟨0xFAD9, .lo, .lo⟩, ⟨0xFAFF, .cn, .cn⟩, ⟨0xFB06, .ll, .ll⟩, ⟨0xFB12, .cn, .cn⟩,
  ⟨0xFB17, .ll, .ll⟩, ⟨0xFB1C, .cn, .cn⟩, ⟨0xFB1F, .mn, .lo⟩, ⟨0xFB28, .lo, .lo⟩,
  ⟨0xFB2A, .lo, .sm⟩, ⟨0xFB36, .lo, .lo⟩, ⟨0xFB38, .lo, .cn⟩, ⟨0xFB3C, .lo, .lo⟩,
  ⟨0xFB40, .lo, .cn⟩, ⟨0xFB43, .cn, .lo⟩, ⟨0xFB46, .lo, .cn⟩, ⟨0xFBB1, .lo, .lo⟩,
  ⟨0xFBC2, .sk, .sk⟩, ⟨0xFBD2, .cn, .cn⟩, ⟨0xFD3D, .lo, .lo⟩, ⟨0xFD3F, .pe, .ps⟩,
  ⟨0xFD4F, .so, .so⟩, ⟨0xFD8F, .lo, .lo⟩, ⟨0xFD91, .cn, .cn⟩, ⟨0xFDC7, .lo, .lo⟩,
  ⟨0xFDCE, .cn, .cn⟩, ⟨0xFDD0, .cn, .so⟩, ⟨0xFDEF, .cn, .cn⟩, ⟨0xFDFB, .lo, .lo⟩,
  ⟨0xFDFD, .sc, .so⟩, ⟨0xFDFF, .so, .so⟩, ⟨0xFE0F, .mn, .mn⟩, ⟨0xFE16, .po, .po⟩,
  ⟨0xFE18, .pe, .ps⟩, ⟨0xFE1A, .cn, .po⟩, ⟨0xFE1F, .cn, .cn⟩, ⟨0xFE2F, .mn, .mn⟩,
  ⟨0xFE31, .po, .pd⟩, ⟨0xFE33, .pd, .pc⟩, ⟨0xFE35, .pc, .ps⟩, ⟨0xFE44, .pe, .ps⟩,
  ⟨0xFE46, .po, .po⟩, ⟨0xFE48, .pe, .ps⟩, ⟨0xFE4C, .po, .po⟩, ⟨0xFE4F, .pc, .pc⟩,
  ⟨0xFE52, .po, .po⟩, ⟨0xFE54, .po, .cn⟩, ⟨0xFE57, .po, .po⟩, ⟨0xFE59, .pd, .ps⟩,
  ⟨0xFE5E, .pe, .ps⟩, ⟨0xFE61, .po, .po⟩, ⟨0xFE64, .sm, .pd⟩, ⟨0xFE66, .sm, .sm⟩,
  ⟨0xFE68, .po, .cn⟩, ⟨0xFE6A, .po, .sc⟩, ⟨0xFE6C, .cn, .po⟩, ⟨0xFE6F, .cn, .cn⟩,
  ⟨0xFE74, .lo, .lo⟩, ⟨0xFE76, .lo, .cn⟩, ⟨0xFEFC, .lo, .lo⟩, ⟨0xFEFE, .cn, .cn⟩,
  ⟨0xFF00, .cn, .cf⟩, ⟨0xFF03, .po, .po⟩, ⟨0xFF05, .sc, .po⟩, ⟨0xFF07, .po, .po⟩,
  ⟨0xFF09, .ps, .pe⟩, ⟨0xFF0C, .po, .sm⟩, ⟨0xFF0E, .po, .pd⟩, ⟨0xFF10, .nd, .po⟩,
  ⟨0xFF19, .nd, .nd⟩, ⟨0xFF1B, .po, .po⟩, ⟨0xFF1E, .sm, .sm⟩, ⟨0xFF20, .po, .po⟩,
  ⟨0xFF3A, .lu, .lu⟩, ⟨0xFF3C, .po, .ps⟩, ⟨0xFF3E, .sk, .pe⟩, ⟨0xFF40, .sk, .pc⟩,
  ⟨0xFF5A, .ll, .ll⟩, ⟨0xFF5C, .sm, .ps⟩, ⟨0xFF5E, .sm, .pe⟩, ⟨0xFF60, .pe, .ps⟩,
  ⟨0xFF62, .ps, .po⟩, ⟨0xFF64, .po, .pe⟩, ⟨0xFF66, .lo, .po⟩, ⟨0xFF6F, .lo, .lo⟩,
  ⟨0xFF71, .lm, .lo⟩, ⟨0xFF9D, .lo, .lo⟩, ⟨0xFF9F, .lm, .lm⟩, ⟨0xFFBE, .lo, .lo⟩,
  ⟨0xFFC1, .cn, .cn⟩, ⟨0xFFC7, .lo, .lo⟩, ⟨0xFFC9, .cn, .cn⟩, ⟨0xFFCF, .lo, .lo⟩,
  ⟨0xFFD1, .cn, .cn⟩, ⟨0xFFD7, .lo, .lo⟩, ⟨0xFFD9, .cn, .cn⟩, ⟨0xFFDC, .lo, .lo⟩,
  ⟨0xFFDF, .cn, .cn⟩, ⟨0xFFE1, .sc, .sc⟩, ⟨0xFFE3, .sm, .sk⟩, ⟨0xFFE5, .so, .sc⟩,
  ⟨0xFFE7, .sc, .cn⟩, ⟨0xFFE9, .so, .sm⟩, ⟨0xFFEC, .sm, .sm⟩, ⟨0xFFEE, .so, .so⟩,
  ⟨0xFFF8, .cn, .cn⟩, ⟨0xFFFB, .cf, .cf⟩, ⟨0xFFFD, .so, .so⟩, ⟨0xFFFF, .cn, .cn⟩]

/-- The stretches from code point 0x10000 up to 0x10FFF. -/
def from10000 : List Stretch := [
  ⟨0x1000B, .lo, .lo⟩, ⟨0x1000D, .cn, .lo⟩, ⟨0x10026, .lo, .lo⟩, ⟨0x10028, .lo, .cn⟩,
  ⟨0x1003A, .lo, .lo⟩, ⟨0x1003C, .lo, .cn⟩, ⟨0x1003F, .cn, .lo⟩, ⟨0x1004D, .lo, .lo⟩,
  ⟨0x1004F, .cn, .cn⟩, ⟨0x1005D, .lo, .lo⟩, ⟨0x1007F, .cn, .cn⟩, ⟨0x100FA, .lo, .lo⟩,
  ⟨0x100FF, .cn, .cn⟩, ⟨0x10102, .po, .po⟩, ⟨0x10106, .cn, .cn⟩, ⟨0x10133, .no, .no⟩,
  ⟨0x10136, .cn, .cn⟩, ⟨0x1013F, .so, .so⟩, ⟨0x10174, .nl, .nl⟩, ⟨0x10178, .no, .no⟩,
  ⟨0x10189, .so, .so⟩, ⟨0x1018B, .no, .no⟩, ⟨0x1018E, .so, .so⟩, ⟨0x10190, .so, .cn⟩,
  ⟨0x1019C, .so, .so⟩, ⟨0x1019F, .cn, .cn⟩, ⟨0x101A1, .so, .cn⟩, ⟨0x101CF, .cn, .cn⟩,
  ⟨0x101FC, .so, .so⟩, ⟨0x101FE, .cn, .mn⟩, ⟨0x1027F, .cn, .cn⟩, ⟨0x1029C, .lo, .lo⟩,
  ⟨0x1029F, .cn, .cn⟩, ⟨0x102D0, .lo, .lo⟩, ⟨0x102DF, .cn, .cn⟩, ⟨0x102E1, .mn, .no⟩,
  ⟨0x102FB, .no, .no⟩, ⟨0x102FF, .cn, .cn⟩, ⟨0x1031F, .lo, .lo⟩, ⟨0x10323, .no, .no⟩,
  ⟨0x1032C, .cn, .cn⟩, ⟨0x10340, .lo, .lo⟩, ⟨0x10342, .lo, .nl⟩, ⟨0x10349, .lo, .lo⟩,
  ⟨0x1034B, .nl, .cn⟩, ⟨0x1034F, .cn, .cn⟩, ⟨0x10375, .lo, .lo⟩, ⟨0x1037A, .mn, .mn⟩,
  ⟨0x1037F, .cn, .cn⟩, ⟨0x1039D, .lo, .lo⟩, ⟨0x1039F, .cn, .po⟩, ⟨0x103C3, .lo, .lo⟩,
  ⟨0x103C7, .cn, .cn⟩, ⟨0x103CF, .lo, .lo⟩, ⟨0x103D1, .po, .nl⟩, ⟨0x103D5, .nl, .nl⟩,
  ⟨0x103FF, .cn, .cn⟩, ⟨0x10427, .lu, .lu⟩, ⟨0x1044F, .ll, .ll⟩, ⟨0x1049D, .lo, .lo⟩,
  ⟨0x1049F, .cn, .cn⟩, ⟨0x104A9, .nd, .nd⟩, ⟨0x104AF, .cn, .cn⟩, ⟨0x104D3, .lu, .lu⟩,
  ⟨0x104D7, .cn, .cn⟩, ⟨0x104FB, .ll, .ll⟩, ⟨0x104FF, .cn, .cn⟩, ⟨0x10527, .lo, .lo⟩,
  ⟨0x1052F, .cn, .cn⟩, ⟨0x10563, .lo, .lo⟩, ⟨0x1056E, .cn, .cn⟩, ⟨0x10570, .lu, .po⟩,
  ⟨0x1057A, .lu, .lu⟩, ⟨0x1057C, .lu, .cn⟩, ⟨0x1058A, .lu, .lu⟩, ⟨0x1058C, .lu, .cn⟩,
  ⟨0x10592, .lu, .lu⟩, ⟨0x10594, .lu, .cn⟩, ⟨0x10596, .cn, .lu⟩, ⟨0x105A1, .ll, .ll⟩,
  ⟨0x105A3, .cn, .ll⟩, ⟨0x105B1, .ll, .ll⟩, ⟨0x105B3, .cn, .ll⟩, ⟨0x105B9, .ll, .ll⟩,
  ⟨0x105BB, .cn, .ll⟩, ⟨0x105BD, .ll, .cn⟩, ⟨0x105BF, .cn, .cn⟩, ⟨0x105F3, .lo, .lo⟩,
  ⟨0x105FF, .cn, .cn⟩, ⟨0x10736, .lo, .lo⟩, ⟨0x1073F, .cn, .cn⟩, ⟨0x10755, .lo, .lo⟩,
  ⟨0x1075F, .cn, .cn⟩, ⟨0x10767, .lo, .lo⟩, ⟨0x1077F, .cn, .cn⟩, ⟨0x10785, .lm, .lm⟩,
  ⟨0x10787, .cn, .lm⟩, ⟨0x107B0, .lm, .lm⟩, ⟨0x107B2, .lm, .cn⟩, ⟨0x107BA, .lm, .lm⟩,
  ⟨0x107FF, .cn, .cn⟩, ⟨0x10805, .lo, .lo⟩, ⟨0x10807, .cn, .cn⟩, ⟨0x1080A, .lo, .cn⟩,
  ⟨0x10835, .lo, .lo⟩, ⟨0x10837, .cn, .lo⟩, ⟨0x10839, .lo, .cn⟩, ⟨0x1083B, .cn, .cn⟩,
  ⟨0x1083D, .lo, .cn⟩, ⟨0x1083F, .cn, .lo⟩, ⟨0x10855, .lo, .lo⟩, ⟨0x10857, .cn, .po⟩,
  ⟨0x1085F, .no, .no⟩, ⟨0x10876, .lo, .lo⟩, ⟨0x10878, .so, .so⟩, ⟨0x1087F, .no, .no⟩,
  ⟨0x1089E, .lo, .lo⟩, ⟨0x108A6, .cn, .cn⟩, ⟨0x108AF, .no, .no⟩, ⟨0x108DF, .cn, .cn⟩,
  ⟨0x108F2, .lo, .lo⟩, ⟨0x108F4, .lo, .cn⟩, ⟨0x108F6, .cn, .lo⟩, ⟨0x108FA, .cn, .cn⟩,
  ⟨0x108FF, .no, .no⟩, ⟨0x10915, .lo, .lo⟩, ⟨0x1091B, .no, .no⟩, ⟨0x1091E, .cn, .cn⟩,
  ⟨0x10920, .lo, .po⟩, ⟨0x10939, .lo, .lo⟩, ⟨0x1093E, .cn, .cn⟩, ⟨0x10940, .cn, .po⟩,
  ⟨0x1097F, .cn, .cn⟩, ⟨0x109B7, .lo, .lo⟩, ⟨0x109BB, .cn, .cn⟩, ⟨0x109BD, .no, .no⟩,
  ⟨0x109BF, .lo, .lo⟩, ⟨0x109CF, .no, .no⟩, ⟨0x109D1, .cn, .cn⟩, ⟨0x109FF, .no, .no⟩,
  ⟨0x10A01, .lo, .mn⟩, ⟨0x10A03, .mn, .mn⟩, ⟨0x10A05, .cn, .mn⟩, ⟨0x10A07, .mn, .cn⟩,
  ⟨0x10A0B, .cn, .cn⟩, ⟨0x10A0F, .mn, .mn⟩, ⟨0x10A13, .lo, .lo⟩, ⟨0x10A15, .cn, .lo⟩,
  ⟨0x10A17, .lo, .lo⟩, ⟨0x10A19, .cn, .lo⟩, ⟨0x10A35, .lo, .lo⟩, ⟨0x10A37, .cn, .cn⟩,
  ⟨0x10A3A, .mn, .mn⟩, ⟨0x10A3E, .cn, .cn⟩, ⟨0x10A40, .no, .mn⟩, ⟨0x10A48, .no, .no⟩,
  ⟨0x10A4F, .cn, .cn⟩, ⟨0x10A58, .po, .po⟩, ⟨0x10A5F, .cn, .cn⟩, ⟨0x10A7C, .lo, .lo⟩,
  ⟨0x10A7E, .no, .no⟩, ⟨0x10A80, .lo, .po⟩, ⟨0x10A9C, .lo, .lo⟩, ⟨0x10A9F, .no, .no⟩,
  ⟨0x10ABF, .cn, .cn⟩, ⟨0x10AC7, .lo, .lo⟩, ⟨0x10AC9, .so, .lo⟩, ⟨0x10AE4, .lo, .lo⟩,
  ⟨0x10AE6, .mn, .mn⟩, ⟨0x10AEA, .cn, .cn⟩, ⟨0x10AEF, .no, .no⟩, ⟨0x10AF6, .po, .po⟩,
  ⟨0x10AFF, .cn, .cn⟩, ⟨0x10B35, .lo, .lo⟩, ⟨0x10B38, .cn, .cn⟩, ⟨0x10B3F, .po, .po⟩,
  ⟨0x10B55, .lo, .lo⟩, ⟨0x10B57, .cn, .cn⟩, ⟨0x10B5F, .no, .no⟩, ⟨0x10B72, .lo, .lo⟩,
  ⟨0x10B77, .cn, .cn⟩, ⟨0x10B7F, .no, .no⟩, ⟨0x10B91, .lo, .lo⟩, ⟨0x10B98, .cn, .cn⟩,
  ⟨0x10B9C, .po, .po⟩, ⟨0x10BA8, .cn, .cn⟩, ⟨0x10BAF, .no, .no⟩, ⟨0x10BFF, .cn, .cn⟩,
  ⟨0x10C48, .lo, .lo⟩, ⟨0x10C7F, .cn, .cn⟩, ⟨0x10CB2, .lu, .lu⟩, ⟨0x10CBF, .cn, .cn⟩,
  ⟨0x10CF2, .ll, .ll⟩, ⟨0x10CF9, .cn, .cn⟩, ⟨0x10CFF, .no, .no⟩, ⟨0x10D23, .lo, .lo⟩,
  ⟨0x10D27, .mn, .mn⟩, ⟨0x10D2F, .cn, .cn⟩, ⟨0x10D39, .nd, .nd⟩, ⟨0x10D3F, .cn, .cn⟩,
  ⟨0x10D49, .nd, .nd⟩, ⟨0x10D4D, .lo, .lo⟩, ⟨0x10D4F, .lm, .lo⟩, ⟨0x10D65, .lu, .lu⟩,
  ⟨0x10D68, .cn, .cn⟩, ⟨0x10D6D, .mn, .mn⟩, ⟨0x10D6F, .pd, .lm⟩, ⟨0x10D85, .ll, .ll⟩,
  ⟨0x10D8D, .cn, .cn⟩, ⟨0x10D8F, .sm, .sm⟩, ⟨0x10E5F, .cn, .cn⟩, ⟨0x10E7E, .no, .no⟩,
  ⟨0x10E80, .lo, .cn⟩, ⟨0x10EA9, .lo, .lo⟩, ⟨0x10EAB, .cn, .mn⟩, ⟨0x10EAD, .mn, .pd⟩,
  ⟨0x10EAF, .cn, .cn⟩, ⟨0x10EB1, .lo, .lo⟩, ⟨0x10EC1, .cn, .cn⟩, ⟨0x10EC4, .lo, .lo⟩,
  ⟨0x10EFB, .cn, .cn⟩, ⟨0x10EFF, .mn, .mn⟩, ⟨0x10F1C, .lo, .lo⟩, ⟨0x10F26, .no, .no⟩,
  ⟨0x10F28, .cn, .lo⟩, ⟨0x10F2F, .cn, .cn⟩, ⟨0x10F45, .lo, .lo⟩, ⟨0x10F50, .mn, .mn⟩,
  ⟨0x10F54, .no, .no⟩, ⟨0x10F59, .po, .po⟩, ⟨0x10F6F, .cn, .cn⟩, ⟨0x10F81, .lo, .lo⟩,
  ⟨0x10F85, .mn, .mn⟩, ⟨0x10F89, .po, .po⟩, ⟨0x10FAF, .cn, .cn⟩, ⟨0x10FC4, .lo, .lo⟩,
  ⟨0x10FCB, .no, .no⟩, ⟨0x10FDF, .cn, .cn⟩, ⟨0x10FF6, .lo, .lo⟩, ⟨0x10FFF, .cn, .cn⟩]

/-- The stretches from code point 0x11000 up to 0x12000. -/
def from11000 : List Stretch := [
  ⟨0x11002, .mc, .mn⟩, ⟨0x11037, .lo, .lo⟩, ⟨0x11046, .mn, .mn⟩, ⟨0x1104D, .po, .po⟩,
  ⟨0x11051, .cn, .cn⟩, ⟨0x11065, .no, .no⟩, ⟨0x1106F, .nd, .nd⟩, ⟨0x11071, .mn, .lo⟩,
  ⟨0x11073, .lo, .mn⟩, ⟨0x11075, .mn, .lo⟩, ⟨0x1107E, .cn, .cn⟩, ⟨0x11081, .mn, .mn⟩,
  ⟨0x11083, .mc, .lo⟩, ⟨0x110AF, .lo, .lo⟩, ⟨0x110B2, .mc, .mc⟩, ⟨0x110B6, .mn, .mn⟩,
  ⟨0x110B8, .mc, .mc⟩, ⟨0x110BA, .mn, .mn⟩, ⟨0x110BC, .po, .po⟩, ⟨0x110BE, .po, .cf⟩,
  ⟨0x110C1, .po, .po⟩, ⟨0x110C3, .mn, .cn⟩, ⟨0x110CC, .cn, .cn⟩, ⟨0x110CE, .cn, .cf⟩,
  ⟨0x110D0, .lo, .cn⟩, ⟨0x110E8, .lo, .lo⟩, ⟨0x110EF, .cn, .cn⟩, ⟨0x110F9, .nd, .nd⟩,
  ⟨0x110FF, .cn, .cn⟩, ⟨0x11102, .mn, .mn⟩, ⟨0x11126, .lo, .lo⟩, ⟨0x1112B, .mn, .mn⟩,
  ⟨0x1112D, .mc, .mn⟩, ⟨0x11134, .mn, .mn⟩, ⟨0x11136, .nd, .cn⟩, ⟨0x1113F, .nd, .nd⟩,
  ⟨0x11143, .po, .po⟩, ⟨0x11145, .lo, .mc⟩, ⟨0x11147, .mc, .lo⟩, ⟨0x1114F, .cn, .cn⟩,
  ⟨0x11172, .lo, .lo⟩, ⟨0x11174, .po, .mn⟩, ⟨0x11176, .lo, .po⟩, ⟨0x1117F, .cn, .cn⟩,
  ⟨0x11181, .mn, .mn⟩, ⟨0x11183, .mc, .lo⟩, ⟨0x111B2, .lo, .lo⟩, ⟨0x111B5, .mc, .mc⟩,
  ⟨0x111BE, .mn, .mn⟩, ⟨0x111C0, .mc, .mc⟩, ⟨0x111C4, .lo, .lo⟩, ⟨0x111C8, .po, .po⟩,
  ⟨0x111CC, .mn, .mn⟩, ⟨0x111CE, .mc, .po⟩, ⟨0x111D0, .nd, .mn⟩, ⟨0x111D9, .nd, .nd⟩,
  ⟨0x111DD, .lo, .po⟩, ⟨0x111DF, .po, .po⟩, ⟨0x111E1, .cn, .no⟩, ⟨0x111F4, .no, .no⟩,
  ⟨0x111FF, .cn, .cn⟩, ⟨0x11211, .lo, .lo⟩, ⟨0x11213, .cn, .lo⟩, ⟨0x1122B, .lo, .lo⟩,
  ⟨0x1122E, .mc, .mc⟩, ⟨0x11231, .mn, .mn⟩, ⟨0x11233, .mc, .mc⟩, ⟨0x11236, .mn, .mc⟩,
  ⟨0x11238, .po, .mn⟩, ⟨0x1123D, .po, .po⟩, ⟨0x1123F, .mn, .lo⟩, ⟨0x11241, .lo, .mn⟩,
  ⟨0x1127F, .cn, .cn⟩, ⟨0x11286, .lo, .lo⟩, ⟨0x1128A, .lo, .cn⟩, ⟨0x1128D, .lo, .lo⟩,
  ⟨0x1128F, .cn, .lo⟩, ⟨0x1129D, .lo, .lo⟩, ⟨0x1129F, .cn, .lo⟩, ⟨0x112A8, .lo, .lo⟩,
  ⟨0x112AA, .cn, .po⟩, ⟨0x112AF, .cn, .cn⟩, ⟨0x112DE, .lo, .lo⟩, ⟨0x112E0, .mc, .mn⟩,
  ⟨0x112E2, .mc, .mc⟩, ⟨0x112EA, .mn, .mn⟩, ⟨0x112EF, .cn, .cn⟩, ⟨0x112F9, .nd, .nd⟩,
  ⟨0x112FF, .cn, .cn⟩, ⟨0x11301, .mn, .mn⟩, ⟨0x11303, .mc, .mc⟩, ⟨0x11305, .cn, .lo⟩,
  ⟨0x1130C, .lo, .lo⟩, ⟨0x1130E, .cn, .cn⟩, ⟨0x11310, .lo, .lo⟩, ⟨0x11312, .cn, .cn⟩,
  ⟨0x11328, .lo, .lo⟩, ⟨0x1132A, .lo, .cn⟩, ⟨0x11330, .lo, .lo⟩, ⟨0x11332, .lo, .cn⟩,
  ⟨0x11335, .cn, .lo⟩, ⟨0x11339, .lo, .lo⟩, ⟨0x1133B, .cn, .mn⟩, ⟨0x1133D, .mn, .lo⟩,
  ⟨0x1133F, .mc, .mc⟩, ⟨0x11341, .mn, .mc⟩, ⟨0x11344, .mc, .mc⟩, ⟨0x11346, .cn, .cn⟩,
  ⟨0x11348, .mc, .mc⟩, ⟨0x1134A, .cn, .cn⟩, ⟨0x1134D, .mc, .mc⟩, ⟨0x1134F, .cn, .cn⟩,
  ⟨0x11351, .lo, .cn⟩, ⟨0x11356, .cn, .cn⟩, ⟨0x11358, .cn, .mc⟩, ⟨0x1135C, .cn, .cn⟩,
  ⟨0x11361, .lo, .lo⟩, ⟨0x11363, .mc, .mc⟩, ⟨0x11365, .cn, .cn⟩, ⟨0x1136C, .mn, .mn⟩,
  ⟨0x1136F, .cn, .cn⟩, ⟨0x11374, .mn, .mn⟩, ⟨0x1137F, .cn, .cn⟩, ⟨0x11389, .lo, .lo⟩,
  ⟨0x1138C, .cn, .lo⟩, ⟨0x11390, .lo, .cn⟩, ⟨0x113B5, .lo, .lo⟩, ⟨0x113B7, .cn, .lo⟩,
  ⟨0x113BA, .mc, .mc⟩, ⟨0x113C0, .mn, .mn⟩, ⟨0x113C3, .mc, .cn⟩, ⟨0x113C7, .cn, .mc⟩,
  ⟨0x113CA, .mc, .mc⟩, ⟨0x113CC, .mc, .cn⟩, ⟨0x113D0, .mn, .mc⟩, ⟨0x113D3, .mn, .lo⟩,
  ⟨0x113D5, .po, .po⟩, ⟨0x113D7, .cn, .po⟩, ⟨0x113D9, .po, .cn⟩, ⟨0x113E0, .cn, .cn⟩,
  ⟨0x113E2, .mn, .mn⟩, ⟨0x113FF, .cn, .cn⟩, ⟨0x11434, .lo, .lo⟩, ⟨0x11437, .mc, .mc⟩,
  ⟨0x1143F, .mn, .mn⟩, ⟨0x11441, .mc, .mc⟩, ⟨0x11444, .mn, .mn⟩, ⟨0x11446, .mn, .mc⟩,
  ⟨0x1144A, .lo, .lo⟩, ⟨0x1144F, .po, .po⟩, ⟨0x11459, .nd, .nd⟩, ⟨0x1145B, .po, .po⟩,
  ⟨0x1145D, .cn, .po⟩, ⟨0x1145F, .mn, .lo⟩, ⟨0x11461, .lo, .lo⟩, ⟨0x1147F, .cn, .cn⟩,
  ⟨0x114AF, .lo, .lo⟩, ⟨0x114B2, .mc, .mc⟩, ⟨0x114B8, .mn, .mn⟩, ⟨0x114BB, .mn, .mc⟩,
  ⟨0x114BE, .mc, .mc⟩, ⟨0x114C0, .mn, .mn⟩, ⟨0x114C2, .mn, .mc⟩, ⟨0x114C4, .lo, .mn⟩,
  ⟨0x114C7, .po, .lo⟩, ⟨0x114CF, .cn, .cn⟩, ⟨0x114D9, .nd, .nd⟩, ⟨0x1157F, .cn, .cn⟩,
  ⟨0x115AE, .lo, .lo⟩, ⟨0x115B1, .mc, .mc⟩, ⟨0x115B5, .mn, .mn⟩, ⟨0x115B7, .cn, .cn⟩,
  ⟨0x115BB, .mc, .mc⟩, ⟨0x115BD, .mn, .mn⟩, ⟨0x115BF, .mc, .mn⟩, ⟨0x115C1, .mn, .po⟩,
  ⟨0x115D7, .po, .po⟩, ⟨0x115DB, .lo, .lo⟩, ⟨0x115DD, .mn, .mn⟩, ⟨0x115FF, .cn, .cn⟩,
  ⟨0x1162F, .lo, .lo⟩, ⟨0x11632, .mc, .mc⟩, ⟨0x1163A, .mn, .mn⟩, ⟨0x1163C, .mc, .mc⟩,
  ⟨0x1163F, .mc, .mn⟩, ⟨0x11641, .mn, .po⟩, ⟨0x11643, .po, .po⟩, ⟨0x11645, .lo, .cn⟩,
  ⟨0x1164F, .cn, .cn⟩, ⟨0x11659, .nd, .nd⟩, ⟨0x1165F, .cn, .cn⟩, ⟨0x1166C, .po, .po⟩,
  ⟨0x1167F, .cn, .cn⟩, ⟨0x116AA, .lo, .lo⟩, ⟨0x116AE, .mc, .mn⟩, ⟨0x116B0, .mn, .mc⟩,
  ⟨0x116B5, .mn, .mn⟩, ⟨0x116B7, .mc, .mn⟩, ⟨0x116B9, .lo, .po⟩, ⟨0x116BF, .cn, .cn⟩,
  ⟨0x116C9, .nd, .nd⟩, ⟨0x116CF, .cn, .cn⟩, ⟨0x116E3, .nd, .nd⟩, ⟨0x116FF, .cn, .cn⟩,
  ⟨0x1171A, .lo, .lo⟩, ⟨0x1171C, .cn, .cn⟩, ⟨0x11720, .mc, .mn⟩, ⟨0x11722, .mn, .mc⟩,
  ⟨0x11725, .mn, .mn⟩, ⟨0x11727, .mc, .mn⟩, ⟨0x1172B, .mn, .mn⟩, ⟨0x1172F, .cn, .cn⟩,
  ⟨0x11739, .nd, .nd⟩, ⟨0x1173B, .no, .no⟩, ⟨0x1173E, .po, .po⟩, ⟨0x11740, .lo, .so⟩,
  ⟨0x11746, .lo, .lo⟩, ⟨0x117FF, .cn, .cn⟩, ⟨0x1182B, .lo, .lo⟩, ⟨0x1182E, .mc, .mc⟩,
  ⟨0x11837, .mn, .mn⟩, ⟨0x11839, .mc, .mn⟩, ⟨0x1183B, .mn, .po⟩, ⟨0x1189F, .cn, .cn⟩,
  ⟨0x118BF, .lu, .lu⟩, ⟨0x118DF, .ll, .ll⟩, ⟨0x118E9, .nd, .nd⟩, ⟨0x118F2, .no, .no⟩,
  ⟨0x118FE, .cn, .cn⟩, ⟨0x11906, .lo, .lo⟩, ⟨0x11908, .cn, .cn⟩, ⟨0x1190A, .cn, .lo⟩,
  ⟨0x1190C, .lo, .cn⟩, ⟨0x11913, .lo, .lo⟩, ⟨0x11915, .cn, .lo⟩, ⟨0x11918, .lo, .cn⟩,
  ⟨0x1192F, .lo, .lo⟩, ⟨0x11935, .mc, .mc⟩, ⟨0x11937, .cn, .mc⟩, ⟨0x11939, .mc, .cn⟩,
  ⟨0x1193B, .cn, .mn⟩, ⟨0x1193E, .mn, .mc⟩, ⟨0x11942, .mc, .lo⟩, ⟨0x11944, .po, .mn⟩,
  ⟨0x11946, .po, .po⟩, ⟨0x1194F, .cn, .cn⟩, ⟨0x11959, .nd, .nd⟩, ⟨0x1199F, .cn, .cn⟩,
  ⟨0x119A7, .lo, .lo⟩, ⟨0x119A9, .cn, .cn⟩, ⟨0x119D0, .lo, .lo⟩, ⟨0x119D3, .mc, .mc⟩,
  ⟨0x119D7, .mn, .mn⟩, ⟨0x119D9, .cn, .cn⟩, ⟨0x119DB, .mn, .mn⟩, ⟨0x119DF, .mc, .mc⟩,
  ⟨0x119E1, .mn, .lo⟩, ⟨0x119E3, .po, .lo⟩, ⟨0x119E5, .mc, .cn⟩, ⟨0x119FF, .cn, .cn⟩,
  ⟨0x11A01, .lo, .mn⟩, ⟨0x11A0A, .mn, .mn⟩, ⟨0x11A32, .lo, .lo⟩, ⟨0x11A38, .mn, .mn⟩,
  ⟨0x11A3A, .lo, .mc⟩, ⟨0x11A3E, .mn, .mn⟩, ⟨0x11A46, .po, .po⟩, ⟨0x11A48, .cn, .mn⟩,
  ⟨0x11A4F, .cn, .cn⟩, ⟨0x11A51, .lo, .mn⟩, ⟨0x11A56, .mn, .mn⟩, ⟨0x11A58, .mc, .mc⟩,
  ⟨0x11A5B, .mn, .mn⟩, ⟨0x11A89, .lo, .lo⟩, ⟨0x11A96, .mn, .mn⟩, ⟨0x11A98, .mn, .mc⟩,
  ⟨0x11A9A, .po, .mn⟩, ⟨0x11A9C, .po, .po⟩, ⟨0x11A9E, .po, .lo⟩, ⟨0x11AA2, .po, .po⟩,
  ⟨0x11AAF, .cn, .cn⟩, ⟨0x11AF8, .lo, .lo⟩, ⟨0x11AFF, .cn, .cn⟩, ⟨0x11B09, .po, .po⟩,
  ⟨0x11BBF, .cn, .cn⟩, ⟨0x11BE0, .lo, .lo⟩, ⟨0x11BE2, .cn, .po⟩, ⟨0x11BEF, .cn, .cn⟩,
  ⟨0x11BF9, .nd, .nd⟩, ⟨0x11BFF, .cn, .cn⟩, ⟨0x11C08, .lo, .lo⟩, ⟨0x11C0A, .lo, .cn⟩,
  ⟨0x11C2E, .lo, .lo⟩, ⟨0x11C30, .mn, .mc⟩, ⟨0x11C36, .mn, .mn⟩, ⟨0x11C38, .mn, .cn⟩,
  ⟨0x11C3D, .mn, .mn⟩, ⟨0x11C3F, .mc, .mn⟩, ⟨0x11C41, .lo, .po⟩, ⟨0x11C45, .po, .po⟩,
  ⟨0x11C4F, .cn, .cn⟩, ⟨0x11C59, .nd, .nd⟩, ⟨0x11C6C, .no, .no⟩, ⟨0x11C6F, .cn, .cn⟩,
  ⟨0x11C71, .po, .po⟩, ⟨0x11C8F, .lo, .lo⟩, ⟨0x11C91, .cn, .cn⟩, ⟨0x11CA7, .mn, .mn⟩,
  ⟨0x11CA9, .cn, .mc⟩, ⟨0x11CB0, .mn, .mn⟩, ⟨0x11CB2, .mn, .mc⟩, ⟨0x11CB5, .mc, .mn⟩,
  ⟨0x11CB7, .mn, .cn⟩, ⟨0x11CFF, .cn, .cn⟩, ⟨0x11D06, .lo, .lo⟩, ⟨0x11D08, .lo, .cn⟩,
  ⟨0x11D0B, .cn, .lo⟩, ⟨0x11D30, .lo, .lo⟩, ⟨0x11D36, .mn, .mn⟩, ⟨0x11D39, .cn, .cn⟩,
  ⟨0x11D3C, .mn, .cn⟩, ⟨0x11D3F, .cn, .mn⟩, ⟨0x11D45, .mn, .mn⟩, ⟨0x11D47, .lo, .mn⟩,
  ⟨0x11D4F, .cn, .cn⟩, ⟨0x11D59, .nd, .nd⟩, ⟨0x11D5F, .cn, .cn⟩, ⟨0x11D65, .lo, .lo⟩,
  ⟨0x11D67, .cn, .lo⟩, ⟨0x11D6A, .lo, .cn⟩, ⟨0x11D89, .lo, .lo⟩, ⟨0x11D8E, .mc, .mc⟩,
  ⟨0x11D90, .mn, .cn⟩, ⟨0x11D92, .cn, .mn⟩, ⟨0x11D94, .mc, .mc⟩, ⟨0x11D97, .mc, .mn⟩,
  ⟨0x11D99, .lo, .cn⟩, ⟨0x11D9F, .cn, .cn⟩, ⟨0x11DA9, .nd, .nd⟩, ⟨0x11EDF, .cn, .cn⟩,
  ⟨0x11EF2, .lo, .lo⟩, ⟨0x11EF4, .mn, .mn⟩, ⟨0x11EF6, .mc, .mc⟩, ⟨0x11EF8, .po, .po⟩,
  ⟨0x11EFF, .cn, .cn⟩, ⟨0x11F01, .mn, .mn⟩, ⟨0x11F04, .lo, .mc⟩, ⟨0x11F10, .lo, .lo⟩,
  ⟨0x11F12, .lo, .cn⟩, ⟨0x11F33, .lo, .lo⟩, ⟨0x11F35, .mc, .mc⟩, ⟨0x11F3A, .mn, .mn⟩,
  ⟨0x11F3D, .cn, .cn⟩, ⟨0x11F3F, .mc, .mc⟩, ⟨0x11F42, .mn, .mc⟩, ⟨0x11F4F, .po, .po⟩,
  ⟨0x11F59, .nd, .nd⟩, ⟨0x11F5B, .mn, .cn⟩, ⟨0x11FAF, .cn, .cn⟩, ⟨0x11FB1, .lo, .cn⟩,
  ⟨0x11FBF, .cn, .cn⟩, ⟨0x11FD4, .no, .no⟩, ⟨0x11FDC, .so, .so⟩, ⟨0x11FE0, .sc, .sc⟩,
  ⟨0x11FF1, .so, .so⟩, ⟨0x11FFE, .cn, .cn⟩, ⟨0x12000, .lo, .po⟩]

/-- The stretches from code point 0x12001 up to 0x1DFFF. -/
def from12001 : List Stretch := [
  ⟨0x12399, .lo, .lo⟩, ⟨0x123FF, .cn, .cn⟩, ⟨0x1246E, .nl, .nl⟩, ⟨0x12470, .po, .cn⟩,
  ⟨0x12474, .po, .po⟩, ⟨0x1247F, .cn, .cn⟩, ⟨0x12543, .lo, .lo⟩, ⟨0x12F8F, .cn, .cn⟩,
  ⟨0x12FF0, .lo, .lo⟩, ⟨0x12FF2, .po, .po⟩, ⟨0x12FFF, .cn, .cn⟩, ⟨0x1342F, .lo, .lo⟩,
  ⟨0x1343F, .cf, .cf⟩, ⟨0x13441, .mn, .lo⟩, ⟨0x13446, .lo, .lo⟩, ⟨0x13455, .mn, .mn⟩,
  ⟨0x1345F, .cn, .cn⟩, ⟨0x143FA, .lo, .lo⟩, ⟨0x143FF, .cn, .cn⟩, ⟨0x14646, .lo, .lo⟩,
  ⟨0x160FF, .cn, .cn⟩, ⟨0x1611D, .lo, .lo⟩, ⟨0x16129, .mn, .mn⟩, ⟨0x1612C, .mc, .mc⟩,
  ⟨0x1612F, .mn, .mn⟩, ⟨0x16139, .nd, .nd⟩, ⟨0x167FF, .cn, .cn⟩, ⟨0x16A38, .lo, .lo⟩,
  ⟨0x16A3F, .cn, .cn⟩, ⟨0x16A5E, .lo, .lo⟩, ⟨0x16A60, .nd, .cn⟩, ⟨0x16A69, .nd, .nd⟩,
  ⟨0x16A6D, .cn, .cn⟩, ⟨0x16A6F, .po, .po⟩, ⟨0x16ABE, .lo, .lo⟩, ⟨0x16AC0, .nd, .cn⟩,
  ⟨0x16AC9, .nd, .nd⟩, ⟨0x16ACF, .cn, .cn⟩, ⟨0x16AED, .lo, .lo⟩, ⟨0x16AEF, .cn, .cn⟩,
  ⟨0x16AF4, .mn, .mn⟩, ⟨0x16AF6, .cn, .po⟩, ⟨0x16AFF, .cn, .cn⟩, ⟨0x16B2F, .lo, .lo⟩,
  ⟨0x16B36, .mn, .mn⟩, ⟨0x16B3B, .po, .po⟩, ⟨0x16B3F, .so, .so⟩, ⟨0x16B43, .lm, .lm⟩,
  ⟨0x16B45, .po, .so⟩, ⟨0x16B4F, .cn, .cn⟩, ⟨0x16B59, .nd, .nd⟩, ⟨0x16B5B, .cn, .no⟩,
  ⟨0x16B61, .no, .no⟩, ⟨0x16B63, .cn, .lo⟩, ⟨0x16B77, .lo, .lo⟩, ⟨0x16B7C, .cn, .cn⟩,
  ⟨0x16B8F, .lo, .lo⟩, ⟨0x16D3F, .cn, .cn⟩, ⟨0x16D42, .lm, .lm⟩, ⟨0x16D6A, .lo, .lo⟩,
  ⟨0x16D6C, .lm, .lm⟩, ⟨0x16D6F, .po, .po⟩, ⟨0x16D79, .nd, .nd⟩, ⟨0x16E3F, .cn, .cn⟩,
  ⟨0x16E5F, .lu, .lu⟩, ⟨0x16E7F, .ll, .ll⟩, ⟨0x16E96, .no, .no⟩, ⟨0x16E9A, .po, .po⟩,
  ⟨0x16EFF, .cn, .cn⟩, ⟨0x16F4A, .lo, .lo⟩, ⟨0x16F4E, .cn, .cn⟩, ⟨0x16F50, .lo, .mn⟩,
  ⟨0x16F87, .mc, .mc⟩, ⟨0x16F8E, .cn, .cn⟩, ⟨0x16F92, .mn, .mn⟩, ⟨0x16F9F, .lm, .lm⟩,
  ⟨0x16FDF, .cn, .cn⟩, ⟨0x16FE1, .lm, .lm⟩, ⟨0x16FE3, .po, .lm⟩, ⟨0x16FE5, .mn, .cn⟩,
  ⟨0x16FEF, .cn, .cn⟩, ⟨0x16FF1, .mc, .mc⟩, ⟨0x16FFF, .cn, .cn⟩, ⟨0x187F7, .lo, .lo⟩,
  ⟨0x187FF, .cn, .cn⟩, ⟨0x18CD5, .lo, .lo⟩, ⟨0x18CFE, .cn, .cn⟩, ⟨0x18D08, .lo, .lo⟩,
  ⟨0x1AFEF, .cn, .cn⟩, ⟨0x1AFF3, .lm, .lm⟩, ⟨0x1AFF5, .cn, .lm⟩, ⟨0x1AFFB, .lm, .lm⟩,
  ⟨0x1AFFD, .cn, .lm⟩, ⟨0x1AFFF, .lm, .cn⟩, ⟨0x1B122, .lo, .lo⟩, ⟨0x1B131, .cn, .cn⟩,
  ⟨0x1B133, .lo, .cn⟩, ⟨0x1B14F, .cn, .cn⟩, ⟨0x1B152, .lo, .lo⟩, ⟨0x1B154, .cn, .cn⟩,
  ⟨0x1B156, .cn, .lo⟩, ⟨0x1B163, .cn, .cn⟩, ⟨0x1B167, .lo, .lo⟩, ⟨0x1B16F, .cn, .cn⟩,
  ⟨0x1B2FB, .lo, .lo⟩, ⟨0x1BBFF, .cn, .cn⟩, ⟨0x1BC6A, .lo, .lo⟩, ⟨0x1BC6F, .cn, .cn⟩,
  ⟨0x1BC7C, .lo, .lo⟩, ⟨0x1BC7F, .cn, .cn⟩, ⟨0x1BC88, .lo, .lo⟩, ⟨0x1BC8F, .cn, .cn⟩,
  ⟨0x1BC99, .lo, .lo⟩, ⟨0x1BC9B, .cn, .cn⟩, ⟨0x1BC9D, .so, .mn⟩, ⟨0x1BC9F, .mn, .po⟩,
  ⟨0x1BCA3, .cf, .cf⟩, ⟨0x1CBFF, .cn, .cn⟩, ⟨0x1CCEF, .so, .so⟩, ⟨0x1CCF9, .nd, .nd⟩,
  ⟨0x1CCFF, .cn, .cn⟩, ⟨0x1CEB3, .so, .so⟩, ⟨0x1CEFF, .cn, .cn⟩, ⟨0x1CF2D, .mn, .mn⟩,
  ⟨0x1CF2F, .cn, .cn⟩, ⟨0x1CF46, .mn, .mn⟩, ⟨0x1CF4F, .cn, .cn⟩, ⟨0x1CFC3, .so, .so⟩,
  ⟨0x1CFFF, .cn, .cn⟩, ⟨0x1D0F5, .so, .so⟩, ⟨0x1D0FF, .cn, .cn⟩, ⟨0x1D126, .so, .so⟩,
  ⟨0x1D128, .cn, .cn⟩, ⟨0x1D164, .so, .so⟩, ⟨0x1D166, .mc, .mc⟩, ⟨0x1D169, .mn, .mn⟩,
  ⟨0x1D16C, .so, .so⟩, ⟨0x1D172, .mc, .mc⟩, ⟨0x1D17A, .cf, .cf⟩, ⟨0x1D182, .mn, .mn⟩,
  ⟨0x1D184, .so, .so⟩, ⟨0x1D18B, .mn, .mn⟩, ⟨0x1D1A9, .so, .so⟩, ⟨0x1D1AD, .mn, .mn⟩,
  ⟨0x1D1EA, .so, .so⟩, ⟨0x1D1FF, .cn, .cn⟩, ⟨0x1D241, .so, .so⟩, ⟨0x1D244, .mn, .mn⟩,
  ⟨0x1D246, .cn, .so⟩, ⟨0x1D2BF, .cn, .cn⟩, ⟨0x1D2D3, .no, .no⟩, ⟨0x1D2DF, .cn, .cn⟩,
  ⟨0x1D2F3, .no, .no⟩, ⟨0x1D2FF, .cn, .cn⟩, ⟨0x1D356, .so, .so⟩, ⟨0x1D35F, .cn, .cn⟩,
  ⟨0x1D378, .no, .no⟩, ⟨0x1D3FF, .cn, .cn⟩, ⟨0x1D419, .lu, .lu⟩, ⟨0x1D433, .ll, .ll⟩,
  ⟨0x1D44D, .lu, .lu⟩, ⟨0x1D454, .ll, .ll⟩, ⟨0x1D456, .ll, .cn⟩, ⟨0x1D467, .ll, .ll⟩,
  ⟨0x1D481, .lu, .lu⟩, ⟨0x1D49B, .ll, .ll⟩, ⟨0x1D49E, .lu, .cn⟩, ⟨0x1D4A0, .cn, .lu⟩,
  ⟨0x1D4A3, .lu, .cn⟩, ⟨0x1D4A5, .cn, .lu⟩, ⟨0x1D4A7, .lu, .cn⟩, ⟨0x1D4A9, .cn, .lu⟩,
  ⟨0x1D4AC, .lu, .lu⟩, ⟨0x1D4AE, .lu, .cn⟩, ⟨0x1D4B5, .lu, .lu⟩, ⟨0x1D4B9, .ll, .ll⟩,
  ⟨0x1D4BD, .cn, .ll⟩, ⟨0x1D4C3, .ll, .ll⟩, ⟨0x1D4C5, .cn, .ll⟩, ⟨0x1D4CF, .ll, .ll⟩,
  ⟨0x1D4E9, .lu, .lu⟩, ⟨0x1D503, .ll, .ll⟩, ⟨0x1D505, .lu, .lu⟩, ⟨0x1D507, .cn, .lu⟩,
  ⟨0x1D50A, .lu, .lu⟩, ⟨0x1D50C, .cn, .cn⟩, ⟨0x1D514, .lu, .lu⟩, ⟨0x1D516, .lu, .cn⟩,
  ⟨0x1D51C, .lu, .lu⟩, ⟨0x1D51E, .ll, .cn⟩, ⟨0x1D537, .ll, .ll⟩, ⟨0x1D539, .lu, .lu⟩,
  ⟨0x1D53B, .cn, .lu⟩, ⟨0x1D53E, .lu, .lu⟩, ⟨0x1D540, .lu, .cn⟩, ⟨0x1D544, .lu, .lu⟩,
  ⟨0x1D547, .lu, .cn⟩, ⟨0x1D549, .cn, .cn⟩, ⟨0x1D550, .lu, .lu⟩, ⟨0x1D552, .ll, .cn⟩,
  ⟨0x1D56B, .ll, .ll⟩, ⟨0x1D585, .lu, .lu⟩, ⟨0x1D59F, .ll, .ll⟩, ⟨0x1D5B9, .lu, .lu⟩,
  ⟨0x1D5D3, .ll, .ll⟩, ⟨0x1D5ED, .lu, .lu⟩, ⟨0x1D607, .ll, .ll⟩, ⟨0x1D621, .lu, .lu⟩,
  ⟨0x1D63B, .ll, .ll⟩, ⟨0x1D655, .lu, .lu⟩, ⟨0x1D66F, .ll, .ll⟩, ⟨0x1D689, .lu, .lu⟩,
  ⟨0x1D6A5, .ll, .ll⟩, ⟨0x1D6A7, .cn, .cn⟩, ⟨0x1D6C0, .lu, .lu⟩, ⟨0x1D6C2, .ll, .sm⟩,
  ⟨0x1D6DA, .ll, .ll⟩, ⟨0x1D6DC, .ll, .sm⟩, ⟨0x1D6E1, .ll, .ll⟩, ⟨0x1D6FA, .lu, .lu⟩,
  ⟨0x1D6FC, .ll, .sm⟩, ⟨0x1D714, .ll, .ll⟩, ⟨0x1D716, .ll, .sm⟩, ⟨0x1D71B, .ll, .ll⟩,
  ⟨0x1D734, .lu, .lu⟩, ⟨0x1D736, .ll, .sm⟩, ⟨0x1D74E, .ll, .ll⟩, ⟨0x1D750, .ll, .sm⟩,
  ⟨0x1D755, .ll, .ll⟩, ⟨0x1D76E, .lu, .lu⟩, ⟨0x1D770, .ll, .sm⟩, ⟨0x1D788, .ll, .ll⟩,
  ⟨0x1D78A, .ll, .sm⟩, ⟨0x1D78F, .ll, .ll⟩, ⟨0x1D7A8, .lu, .lu⟩, ⟨0x1D7AA, .ll, .sm⟩,
  ⟨0x1D7C2, .ll, .ll⟩, ⟨0x1D7C4, .ll, .sm⟩, ⟨0x1D7C9, .ll, .ll⟩, ⟨0x1D7CB, .lu, .ll⟩,
  ⟨0x1D7CD, .cn, .cn⟩, ⟨0x1D7FF, .nd, .nd⟩, ⟨0x1D9FF, .so, .so⟩, ⟨0x1DA36, .mn, .mn⟩,
  ⟨0x1DA3A, .so, .so⟩, ⟨0x1DA6C, .mn, .mn⟩, ⟨0x1DA74, .so, .so⟩, ⟨0x1DA76, .so, .mn⟩,
  ⟨0x1DA83, .so, .so⟩, ⟨0x1DA85, .mn, .so⟩, ⟨0x1DA87, .so, .po⟩, ⟨0x1DA8B, .po, .po⟩,
  ⟨0x1DA9A, .cn, .cn⟩, ⟨0x1DA9F, .mn, .mn⟩, ⟨0x1DAA1, .cn, .mn⟩, ⟨0x1DAAF, .mn, .mn⟩,
  ⟨0x1DEFF, .cn, .cn⟩, ⟨0x1DF09, .ll, .ll⟩, ⟨0x1DF0B, .lo, .ll⟩, ⟨0x1DF1E, .ll, .ll⟩,
  ⟨0x1DF24, .cn, .cn⟩, ⟨0x1DF2A, .ll, .ll⟩, ⟨0x1DFFF, .cn, .cn⟩]

/-- The stretches from code point 0x1E000 up to 0x10FFFF. -/
def from1E000 : List Stretch := [
  ⟨0x1E006, .mn, .mn⟩, ⟨0x1E008, .mn, .cn⟩, ⟨0x1E018, .mn, .mn⟩, ⟨0x1E01A, .cn, .cn⟩,
  ⟨0x1E021, .mn, .mn⟩, ⟨0x1E023, .cn, .mn⟩, ⟨0x1E026, .mn, .cn⟩, ⟨0x1E02A, .mn, .mn⟩,
  ⟨0x1E02F, .cn, .cn⟩, ⟨0x1E06D, .lm, .lm⟩, ⟨0x1E08E, .cn, .cn⟩, ⟨0x1E090, .cn, .mn⟩,
  ⟨0x1E0FF, .cn, .cn⟩, ⟨0x1E12C, .lo, .lo⟩, ⟨0x1E12F, .cn, .cn⟩, ⟨0x1E136, .mn, .mn⟩,
  ⟨0x1E13D, .lm, .lm⟩, ⟨0x1E13F, .cn, .cn⟩, ⟨0x1E149, .nd, .nd⟩, ⟨0x1E14D, .cn, .cn⟩,
  ⟨0x1E14F, .lo, .so⟩, ⟨0x1E28F, .cn, .cn⟩, ⟨0x1E2AD, .lo, .lo⟩, ⟨0x1E2AF, .mn, .cn⟩,
  ⟨0x1E2BF, .cn, .cn⟩, ⟨0x1E2EB, .lo, .lo⟩, ⟨0x1E2EF, .mn, .mn⟩, ⟨0x1E2F9, .nd, .nd⟩,
  ⟨0x1E2FE, .cn, .cn⟩, ⟨0x1E300, .cn, .sc⟩, ⟨0x1E4CF, .cn, .cn⟩, ⟨0x1E4EA, .lo, .lo⟩,
  ⟨0x1E4EC, .mn, .lm⟩, ⟨0x1E4EF, .mn, .mn⟩, ⟨0x1E4F9, .nd, .nd⟩, ⟨0x1E5CF, .cn, .cn⟩,
  ⟨0x1E5ED, .lo, .lo⟩, ⟨0x1E5EF, .mn, .mn⟩, ⟨0x1E5F1, .lo, .nd⟩, ⟨0x1E5FA, .nd, .nd⟩,
  ⟨0x1E5FE, .cn, .cn⟩, ⟨0x1E600, .cn, .po⟩, ⟨0x1E7DF, .cn, .cn⟩, ⟨0x1E7E6, .lo, .lo⟩,
  ⟨0x1E7E8, .lo, .cn⟩, ⟨0x1E7EB, .lo, .lo⟩, ⟨0x1E7ED, .cn, .lo⟩, ⟨0x1E7F0, .lo, .cn⟩,
  ⟨0x1E7FE, .lo, .lo⟩, ⟨0x1E800, .lo, .cn⟩, ⟨0x1E8C4, .lo, .lo⟩, ⟨0x1E8C6, .cn, .cn⟩,
  ⟨0x1E8CF, .no, .no⟩, ⟨0x1E8D6, .mn, .mn⟩, ⟨0x1E8FF, .cn, .cn⟩, ⟨0x1E921, .lu, .lu⟩,
  ⟨0x1E943, .ll, .ll⟩, ⟨0x1E94A, .mn, .mn⟩, ⟨0x1E94C, .cn, .lm⟩, ⟨0x1E94F, .cn, .cn⟩,
  ⟨0x1E959, .nd, .nd⟩, ⟨0x1E95D, .cn, .cn⟩, ⟨0x1E95F, .po, .po⟩, ⟨0x1EC70, .cn, .cn⟩,
  ⟨0x1ECAB, .no, .no⟩, ⟨0x1ECAD, .so, .no⟩, ⟨0x1ECAF, .no, .no⟩, ⟨0x1ECB1, .sc, .no⟩,
  ⟨0x1ECB4, .no, .no⟩, ⟨0x1ED00, .cn, .cn⟩, ⟨0x1ED2D, .no, .no⟩, ⟨0x1ED2F, .so, .no⟩,
  ⟨0x1ED3D, .no, .no⟩, ⟨0x1EDFF, .cn, .cn⟩, ⟨0x1EE03, .lo, .lo⟩, ⟨0x1EE05, .cn, .lo⟩,
  ⟨0x1EE1F, .lo, .lo⟩, ⟨0x1EE21, .cn, .lo⟩, ⟨0x1EE25, .lo, .cn⟩, ⟨0x1EE29, .cn, .lo⟩,
  ⟨0x1EE32, .lo, .lo⟩, ⟨0x1EE34, .lo, .cn⟩, ⟨0x1EE37, .lo, .lo⟩, ⟨0x1EE3C, .cn, .lo⟩,
  ⟨0x1EE41, .cn, .cn⟩, ⟨0x1EE43, .lo, .cn⟩, ⟨0x1EE46, .cn, .cn⟩, ⟨0x1EE4D, .cn, .lo⟩,
  ⟨0x1EE4F, .lo, .lo⟩, ⟨0x1EE51, .cn, .lo⟩, ⟨0x1EE55, .lo, .cn⟩, ⟨0x1EE61, .cn, .lo⟩,
  ⟨0x1EE65, .lo, .cn⟩, ⟨0x1EE67, .cn, .lo⟩, ⟨0x1EE6A, .lo, .lo⟩, ⟨0x1EE6C, .lo, .cn⟩,
  ⟨0x1EE72, .lo, .lo⟩, ⟨0x1EE74, .lo, .cn⟩, ⟨0x1EE77, .lo, .lo⟩, ⟨0x1EE79, .cn, .lo⟩,
  ⟨0x1EE7C, .lo, .lo⟩, ⟨0x1EE80, .lo, .cn⟩, ⟨0x1EE89, .lo, .lo⟩, ⟨0x1EE8B, .cn, .lo⟩,
  ⟨0x1EE9B, .lo, .lo⟩, ⟨0x1EEA0, .cn, .cn⟩, ⟨0x1EEA3, .lo, .lo⟩, ⟨0x1EEA5, .cn, .lo⟩,
  ⟨0x1EEA9, .lo, .lo⟩, ⟨0x1EEAB, .cn, .lo⟩, ⟨0x1EEBB, .lo, .lo⟩, ⟨0x1EEEF, .cn, .cn⟩,
  ⟨0x1EEF1, .sm, .sm⟩, ⟨0x1EFFF, .cn, .cn⟩, ⟨0x1F02B, .so, .so⟩, ⟨0x1F02F, .cn, .cn⟩,
  ⟨0x1F093, .so, .so⟩, ⟨0x1F09F, .cn, .cn⟩, ⟨0x1F0AE, .so, .so⟩, ⟨0x1F0B0, .cn, .cn⟩,
  ⟨0x1F0BF, .so, .so⟩, ⟨0x1F0C1, .cn, .so⟩, ⟨0x1F0CF, .so, .so⟩, ⟨0x1F0D1, .cn, .so⟩,
  ⟨0x1F0F5, .so, .so⟩, ⟨0x1F0FF, .cn, .cn⟩, ⟨0x1F10C, .no, .no⟩, ⟨0x1F1AD, .so, .so⟩,
  ⟨0x1F1E5, .cn, .cn⟩, ⟨0x1F202, .so, .so⟩, ⟨0x1F20F, .cn, .cn⟩, ⟨0x1F23B, .so, .so⟩,
  ⟨0x1F23F, .cn, .cn⟩, ⟨0x1F248, .so, .so⟩, ⟨0x1F24F, .cn, .cn⟩, ⟨0x1F251, .so, .so⟩,
  ⟨0x1F25F, .cn, .cn⟩, ⟨0x1F265, .so, .so⟩, ⟨0x1F2FF, .cn, .cn⟩, ⟨0x1F3FA, .so, .so⟩,
  ⟨0x1F3FF, .sk, .sk⟩, ⟨0x1F6D7, .so, .so⟩, ⟨0x1F6DB, .cn, .cn⟩, ⟨0x1F6EC, .so, .so⟩,
  ⟨0x1F6EF, .cn, .cn⟩, ⟨0x1F6FC, .so, .so⟩, ⟨0x1F6FF, .cn, .cn⟩, ⟨0x1F776, .so, .so⟩,
  ⟨0x1F77A, .cn, .cn⟩, ⟨0x1F7D9, .so, .so⟩, ⟨0x1F7DF, .cn, .cn⟩, ⟨0x1F7EB, .so, .so⟩,
  ⟨0x1F7EF, .cn, .cn⟩, ⟨0x1F7F1, .so, .cn⟩, ⟨0x1F7FF, .cn, .cn⟩, ⟨0x1F80B, .so, .so⟩,
  ⟨0x1F80F, .cn, .cn⟩, ⟨0x1F847, .so, .so⟩, ⟨0x1F84F, .cn, .cn⟩, ⟨0x1F859, .so, .so⟩,
  ⟨0x1F85F, .cn, .cn⟩, ⟨0x1F887, .so, .so⟩, ⟨0x1F88F, .cn, .cn⟩, ⟨0x1F8AD, .so, .so⟩,
  ⟨0x1F8AF, .cn, .cn⟩, ⟨0x1F8BB, .so, .so⟩, ⟨0x1F8BF, .cn, .cn⟩, ⟨0x1F8C1, .so, .so⟩,
  ⟨0x1F8FF, .cn, .cn⟩, ⟨0x1FA53, .so, .so⟩, ⟨0x1FA5F, .cn, .cn⟩, ⟨0x1FA6D, .so, .so⟩,
  ⟨0x1FA6F, .cn, .cn⟩, ⟨0x1FA7C, .so, .so⟩, ⟨0x1FA7F, .cn, .cn⟩, ⟨0x1FA89, .so, .so⟩,
  ⟨0x1FA8E, .cn, .cn⟩, ⟨0x1FAC6, .so, .so⟩, ⟨0x1FACD, .cn, .cn⟩, ⟨0x1FADC, .so, .so⟩,
  ⟨0x1FADE, .cn, .cn⟩, ⟨0x1FAE9, .so, .so⟩, ⟨0x1FAEF, .cn, .cn⟩, ⟨0x1FAF8, .so, .so⟩,
  ⟨0x1FAFF, .cn, .cn⟩, ⟨0x1FB92, .so, .so⟩, ⟨0x1FB94, .so, .cn⟩, ⟨0x1FBEF, .so, .so⟩,
  ⟨0x1FBF9, .nd, .nd⟩, ⟨0x1FFFF, .cn, .cn⟩, ⟨0x2A6DF, .lo, .lo⟩, ⟨0x2A6FF, .cn, .cn⟩,
  ⟨0x2B739, .lo, .lo⟩, ⟨0x2B73F, .cn, .cn⟩, ⟨0x2B81D, .lo, .lo⟩, ⟨0x2B81F, .cn, .cn⟩,
  ⟨0x2CEA1, .lo, .lo⟩, ⟨0x2CEAF, .cn, .cn⟩, ⟨0x2EBE0, .lo, .lo⟩, ⟨0x2EBEF, .cn, .cn⟩,
  ⟨0x2EE5D, .lo, .lo⟩, ⟨0x2F7FF, .cn, .cn⟩, ⟨0x2FA1D, .lo, .lo⟩, ⟨0x2FFFF, .cn, .cn⟩,
  ⟨0x3134A, .lo, .lo⟩, ⟨0x3134F, .cn, .cn⟩, ⟨0x323AF, .lo, .lo⟩, ⟨0xE0000, .cn, .cn⟩,
  ⟨0xE0002, .cn, .cf⟩, ⟨0xE001F, .cn, .cn⟩, ⟨0xE007F, .cf, .cf⟩, ⟨0xE00FF, .cn, .cn⟩,
  ⟨0xE01EF, .mn, .mn⟩, ⟨0xEFFFF, .cn, .cn⟩, ⟨0xFFFFD, .co, .co⟩, ⟨0xFFFFF, .cn, .cn⟩,
  ⟨0x10FFFD, .co, .co⟩, ⟨0x10FFFF, .cn, .cn⟩]

/-- The partition of all code points in pages of ascending stretches, each with its last code
point. -/
def pages : List (Nat × List Stretch) := [
  (0x902, from0000), (0xFFF, from0903), (0x1FFF, from1000), (0xA014, from2000), (0xFFFF, fromA015),
  (0x10FFF, from10000), (0x12000, from11000), (0x1DFFF, from12001), (0x10FFFF, from1E000)]

/-- The category that a list of stretches gives to a code point; beyond the last stretch nothing is
assigned. -/
def lookup (c : Nat) : List Stretch → Category
  | [] => .cn
  | s :: rest =>
    if c ≤ s.last then (if c % 2 = 0 then s.even else s.odd) else lookup c rest

/-- The category of a code point in a list of pages. -/
def lookupPage (c : Nat) : List (Nat × List Stretch) → Category
  | [] => .cn
  | (last, page) :: rest => if c ≤ last then lookup c page else lookupPage c rest

/-- The general category of a character in Unicode 16.0. -/
def settled (c : Char) : Category := lookupPage c.toNat pages

/-- Code points that have another category in Unicode 17.0. -/
structure Revision where
  /-- The first code point. -/
  first : Nat
  /-- The last code point. -/
  last : Nat
  /-- Their category in Unicode 17.0. -/
  category : Category

/-- All revisions: the code points that are newly assigned, and one letter that is no longer
lowercase. -/
def revisions : List Revision := [
  ⟨0x295, 0x295, .lo⟩, ⟨0x88F, 0x88F, .lo⟩, ⟨0xC5C, 0xC5C, .lo⟩, ⟨0xCDC, 0xCDC, .lo⟩,
  ⟨0x1ACF, 0x1ADD, .mn⟩, ⟨0x1AE0, 0x1AEB, .mn⟩, ⟨0x20C1, 0x20C1, .sc⟩, ⟨0x2B96, 0x2B96, .so⟩,
  ⟨0xA7CE, 0xA7CE, .lu⟩, ⟨0xA7CF, 0xA7CF, .ll⟩, ⟨0xA7D2, 0xA7D2, .lu⟩, ⟨0xA7D4, 0xA7D4, .lu⟩,
  ⟨0xA7F1, 0xA7F1, .lm⟩, ⟨0xFBC3, 0xFBD2, .so⟩, ⟨0xFD90, 0xFD91, .so⟩, ⟨0xFDC8, 0xFDCE, .so⟩,
  ⟨0x10940, 0x10959, .lo⟩, ⟨0x10EC5, 0x10EC5, .lm⟩, ⟨0x10EC6, 0x10EC7, .lo⟩,
  ⟨0x10ED0, 0x10ED0, .po⟩, ⟨0x10ED1, 0x10ED8, .so⟩, ⟨0x10EFA, 0x10EFB, .mn⟩,
  ⟨0x11B60, 0x11B60, .mn⟩, ⟨0x11B61, 0x11B61, .mc⟩, ⟨0x11B62, 0x11B64, .mn⟩,
  ⟨0x11B65, 0x11B65, .mc⟩, ⟨0x11B66, 0x11B66, .mn⟩, ⟨0x11B67, 0x11B67, .mc⟩,
  ⟨0x11DB0, 0x11DD8, .lo⟩, ⟨0x11DD9, 0x11DD9, .lm⟩, ⟨0x11DDA, 0x11DDB, .lo⟩,
  ⟨0x11DE0, 0x11DE9, .nd⟩, ⟨0x16EA0, 0x16EB8, .lu⟩, ⟨0x16EBB, 0x16ED3, .ll⟩,
  ⟨0x16FF2, 0x16FF3, .lm⟩, ⟨0x16FF4, 0x16FF6, .nl⟩, ⟨0x187F8, 0x187FF, .lo⟩,
  ⟨0x18D09, 0x18D1E, .lo⟩, ⟨0x18D80, 0x18DF2, .lo⟩, ⟨0x1CCFA, 0x1CCFC, .so⟩,
  ⟨0x1CEBA, 0x1CED0, .so⟩, ⟨0x1CEE0, 0x1CEEF, .so⟩, ⟨0x1CEF0, 0x1CEF0, .sm⟩,
  ⟨0x1E6C0, 0x1E6DE, .lo⟩, ⟨0x1E6E0, 0x1E6E2, .lo⟩, ⟨0x1E6E3, 0x1E6E3, .mn⟩,
  ⟨0x1E6E4, 0x1E6E5, .lo⟩, ⟨0x1E6E6, 0x1E6E6, .mn⟩, ⟨0x1E6E7, 0x1E6ED, .lo⟩,
  ⟨0x1E6EE, 0x1E6EF, .mn⟩, ⟨0x1E6F0, 0x1E6F4, .lo⟩, ⟨0x1E6F5, 0x1E6F5, .mn⟩,
  ⟨0x1E6FE, 0x1E6FE, .lo⟩, ⟨0x1E6FF, 0x1E6FF, .lm⟩, ⟨0x1F6D8, 0x1F6D8, .so⟩,
  ⟨0x1F777, 0x1F77A, .so⟩, ⟨0x1F8D0, 0x1F8D8, .sm⟩, ⟨0x1FA54, 0x1FA57, .so⟩,
  ⟨0x1FA8A, 0x1FA8A, .so⟩, ⟨0x1FA8E, 0x1FA8E, .so⟩, ⟨0x1FAC8, 0x1FAC8, .so⟩,
  ⟨0x1FACD, 0x1FACD, .so⟩, ⟨0x1FAEA, 0x1FAEA, .so⟩, ⟨0x1FAEF, 0x1FAEF, .so⟩,
  ⟨0x1FBFA, 0x1FBFA, .so⟩, ⟨0x2B73A, 0x2B73F, .lo⟩, ⟨0x2CEA2, 0x2CEAD, .lo⟩,
  ⟨0x323B0, 0x33479, .lo⟩]

/-- The category that Unicode 17.0 newly gives to a code point. -/
def revised? (c : Nat) : Option Category :=
  (revisions.find? fun r => r.first ≤ c && c ≤ r.last).map (·.category)

/-- The general category of a character. -/
def of (c : Char) : Category := (revised? c.toNat).getD (settled c)

end Category

end RecordFormula
