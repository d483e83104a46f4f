import RecordFormula.CharSet.Basic

/-!
# Sets of characters by script

The writing systems of Unicode 16.0. The table lists runs of code points in ascending order; a run
may span unassigned code points, which have no script.

* `CharSet.scriptName?` — the name of a script by its name or its four-letter abbreviation;
* `CharSet.script?` — the characters of a script.

Names are in folded spelling (lowercase, no separators).
-/

namespace RecordFormula

namespace CharSet

/-- Code points `first … last`, all assigned ones of the script `name`. -/
structure ScriptRun where
  /-- The first code point. -/
  first : Nat
  /-- The last code point. -/
  last : Nat
  /-- The name of the script. -/
  name : String

/-- The runs of all scripts, in ascending order. -/
def scriptRuns : List ScriptRun := [
  ⟨0x0, 0x40, "common"⟩, ⟨0x41, 0x5A, "latin"⟩, ⟨0x5B, 0x60, "common"⟩, ⟨0x61, 0x7A, "latin"⟩,
  ⟨0x7B, 0xA9, "common"⟩, ⟨0xAA, 0xAA, "latin"⟩, ⟨0xAB, 0xB9, "common"⟩, ⟨0xBA, 0xBA, "latin"⟩,
  ⟨0xBB, 0xBF, "common"⟩, ⟨0xC0, 0xD6, "latin"⟩, ⟨0xD7, 0xD7, "common"⟩, ⟨0xD8, 0xF6, "latin"⟩,
  ⟨0xF7, 0xF7, "common"⟩, ⟨0xF8, 0x2B8, "latin"⟩, ⟨0x2B9, 0x2DF, "common"⟩, ⟨0x2E0, 0x2E4, "latin"⟩,
  ⟨0x2E5, 0x2E9, "common"⟩, ⟨0x2EA, 0x2EB, "bopomofo"⟩, ⟨0x2EC, 0x2FF, "common"⟩,
  ⟨0x300, 0x36F, "inherited"⟩, ⟨0x370, 0x373, "greek"⟩, ⟨0x374, 0x374, "common"⟩,
  ⟨0x375, 0x37D, "greek"⟩, ⟨0x37E, 0x37E, "common"⟩, ⟨0x37F, 0x384, "greek"⟩,
  ⟨0x385, 0x385, "common"⟩, ⟨0x386, 0x386, "greek"⟩, ⟨0x387, 0x387, "common"⟩,
  ⟨0x388, 0x3E1, "greek"⟩, ⟨0x3E2, 0x3EF, "coptic"⟩, ⟨0x3F0, 0x3FF, "greek"⟩,
  ⟨0x400, 0x484, "cyrillic"⟩, ⟨0x485, 0x486, "inherited"⟩, ⟨0x487, 0x52F, "cyrillic"⟩,
  ⟨0x531, 0x58F, "armenian"⟩, ⟨0x591, 0x5F4, "hebrew"⟩, ⟨0x600, 0x604, "arabic"⟩,
  ⟨0x605, 0x605, "common"⟩, ⟨0x606, 0x60B, "arabic"⟩, ⟨0x60C, 0x60C, "common"⟩,
  ⟨0x60D, 0x61A, "arabic"⟩, ⟨0x61B, 0x61B, "common"⟩, ⟨0x61C, 0x61E, "arabic"⟩,
  ⟨0x61F, 0x61F, "common"⟩, ⟨0x620, 0x63F, "arabic"⟩, ⟨0x640, 0x640, "common"⟩,
  ⟨0x641, 0x64A, "arabic"⟩, ⟨0x64B, 0x655, "inherited"⟩, ⟨0x656, 0x66F, "arabic"⟩,
  ⟨0x670, 0x670, "inherited"⟩, ⟨0x671, 0x6DC, "arabic"⟩, ⟨0x6DD, 0x6DD, "common"⟩,
  ⟨0x6DE, 0x6FF, "arabic"⟩, ⟨0x700, 0x74F, "syriac"⟩, ⟨0x750, 0x77F, "arabic"⟩,
  ⟨0x780, 0x7B1, "thaana"⟩, ⟨0x7C0, 0x7FF, "nko"⟩, ⟨0x800, 0x83E, "samaritan"⟩,
  ⟨0x840, 0x85E, "mandaic"⟩, ⟨0x860, 0x86A, "syriac"⟩, ⟨0x870, 0x8E1, "arabic"⟩,
  ⟨0x8E2, 0x8E2, "common"⟩, ⟨0x8E3, 0x8FF, "arabic"⟩, ⟨0x900, 0x950, "devanagari"⟩,
  ⟨0x951, 0x954, "inherited"⟩, ⟨0x955, 0x963, "devanagari"⟩, ⟨0x964, 0x965, "common"⟩,
  ⟨0x966, 0x97F, "devanagari"⟩, ⟨0x980, 0x9FE, "bengali"⟩, ⟨0xA01, 0xA76, "gurmukhi"⟩,
  ⟨0xA81, 0xAFF, "gujarati"⟩, ⟨0xB01, 0xB77, "oriya"⟩, ⟨0xB82, 0xBFA, "tamil"⟩,
  ⟨0xC00, 0xC7F, "telugu"⟩, ⟨0xC80, 0xCF3, "kannada"⟩, ⟨0xD00, 0xD7F, "malayalam"⟩,
  ⟨0xD81, 0xDF4, "sinhala"⟩, ⟨0xE01, 0xE3A, "thai"⟩, ⟨0xE3F, 0xE3F, "common"⟩,
  ⟨0xE40, 0xE5B, "thai"⟩, ⟨0xE81, 0xEDF, "lao"⟩, ⟨0xF00, 0xFD4, "tibetan"⟩,
  ⟨0xFD5, 0xFD8, "common"⟩, ⟨0xFD9, 0xFDA, "tibetan"⟩, ⟨0x1000, 0x109F, "myanmar"⟩,
  ⟨0x10A0, 0x10FA, "georgian"⟩, ⟨0x10FB, 0x10FB, "common"⟩, ⟨0x10FC, 0x10FF, "georgian"⟩,
  ⟨0x1100, 0x11FF, "hangul"⟩, ⟨0x1200, 0x1399, "ethiopic"⟩, ⟨0x13A0, 0x13FD, "cherokee"⟩,
  ⟨0x1400, 0x167F, "canadianaboriginal"⟩, ⟨0x1680, 0x169C, "ogham"⟩, ⟨0x16A0, 0x16EA, "runic"⟩,
  ⟨0x16EB, 0x16ED, "common"⟩, ⟨0x16EE, 0x16F8, "runic"⟩, ⟨0x1700, 0x171F, "tagalog"⟩,
  ⟨0x1720, 0x1734, "hanunoo"⟩, ⟨0x1735, 0x1736, "common"⟩, ⟨0x1740, 0x1753, "buhid"⟩,
  ⟨0x1760, 0x1773, "tagbanwa"⟩, ⟨0x1780, 0x17F9, "khmer"⟩, ⟨0x1800, 0x1801, "mongolian"⟩,
  ⟨0x1802, 0x1803, "common"⟩, ⟨0x1804, 0x1804, "mongolian"⟩, ⟨0x1805, 0x1805, "common"⟩,
  ⟨0x1806, 0x18AA, "mongolian"⟩, ⟨0x18B0, 0x18F5, "canadianaboriginal"⟩, ⟨0x1900, 0x194F, "limbu"⟩,
  ⟨0x1950, 0x1974, "taile"⟩, ⟨0x1980, 0x19DF, "newtailue"⟩, ⟨0x19E0, 0x19FF, "khmer"⟩,
  ⟨0x1A00, 0x1A1F, "buginese"⟩, ⟨0x1A20, 0x1AAD, "taitham"⟩, ⟨0x1AB0, 0x1ACE, "inherited"⟩,
  ⟨0x1B00, 0x1B7F, "balinese"⟩, ⟨0x1B80, 0x1BBF, "sundanese"⟩, ⟨0x1BC0, 0x1BFF, "batak"⟩,
  ⟨0x1C00, 0x1C4F, "lepcha"⟩, ⟨0x1C50, 0x1C7F, "olchiki"⟩, ⟨0x1C80, 0x1C8A, "cyrillic"⟩,
  ⟨0x1C90, 0x1CBF, "georgian"⟩, ⟨0x1CC0, 0x1CC7, "sundanese"⟩, ⟨0x1CD0, 0x1CD2, "inherited"⟩,
  ⟨0x1CD3, 0x1CD3, "common"⟩, ⟨0x1CD4, 0x1CE0, "inherited"⟩, ⟨0x1CE1, 0x1CE1, "common"⟩,
  ⟨0x1CE2, 0x1CE8, "inherited"⟩, ⟨0x1CE9, 0x1CEC, "common"⟩, ⟨0x1CED, 0x1CED, "inherited"⟩,
  ⟨0x1CEE, 0x1CF3, "common"⟩, ⟨0x1CF4, 0x1CF4, "inherited"⟩, ⟨0x1CF5, 0x1CF7, "common"⟩,
  ⟨0x1CF8, 0x1CF9, "inherited"⟩, ⟨0x1CFA, 0x1CFA, "common"⟩, ⟨0x1D00, 0x1D25, "latin"⟩,
  ⟨0x1D26, 0x1D2A, "greek"⟩, ⟨0x1D2B, 0x1D2B, "cyrillic"⟩, ⟨0x1D2C, 0x1D5C, "latin"⟩,
  ⟨0x1D5D, 0x1D61, "greek"⟩, ⟨0x1D62, 0x1D65, "latin"⟩, ⟨0x1D66, 0x1D6A, "greek"⟩,
  ⟨0x1D6B, 0x1D77, "latin"⟩, ⟨0x1D78, 0x1D78, "cyrillic"⟩, ⟨0x1D79, 0x1DBE, "latin"⟩,
  ⟨0x1DBF, 0x1DBF, "greek"⟩, ⟨0x1DC0, 0x1DFF, "inherited"⟩, ⟨0x1E00, 0x1EFF, "latin"⟩,
  ⟨0x1F00, 0x1FFE, "greek"⟩, ⟨0x2000, 0x200B, "common"⟩, ⟨0x200C, 0x200D, "inherited"⟩,
  ⟨0x200E, 0x2070, "common"⟩, ⟨0x2071, 0x2071, "latin"⟩, ⟨0x2074, 0x207E, "common"⟩,
  ⟨0x207F, 0x207F, "latin"⟩, ⟨0x2080, 0x208E, "common"⟩, ⟨0x2090, 0x209C, "latin"⟩,
  ⟨0x20A0, 0x20C0, "common"⟩, ⟨0x20D0, 0x20F0, "inherited"⟩, ⟨0x2100, 0x2125, "common"⟩,
  ⟨0x2126, 0x2126, "greek"⟩, ⟨0x2127, 0x2129, "common"⟩, ⟨0x212A, 0x212B, "latin"⟩,
  ⟨0x212C, 0x2131, "common"⟩, ⟨0x2132, 0x2132, "latin"⟩, ⟨0x2133, 0x214D, "common"⟩,
  ⟨0x214E, 0x214E, "latin"⟩, ⟨0x214F, 0x215F, "common"⟩, ⟨0x2160, 0x2188, "latin"⟩,
  ⟨0x2189, 0x27FF, "common"⟩, ⟨0x2800, 0x28FF, "braille"⟩, ⟨0x2900, 0x2BFF, "common"⟩,
  ⟨0x2C00, 0x2C5F, "glagolitic"⟩, ⟨0x2C60, 0x2C7F, "latin"⟩, ⟨0x2C80, 0x2CFF, "coptic"⟩,
  ⟨0x2D00, 0x2D2D, "georgian"⟩, ⟨0x2D30, 0x2D7F, "tifinagh"⟩, ⟨0x2D80, 0x2DDE, "ethiopic"⟩,
  ⟨0x2DE0, 0x2DFF, "cyrillic"⟩, ⟨0x2E00, 0x2E5D, "common"⟩, ⟨0x2E80, 0x2FD5, "han"⟩,
  ⟨0x2FF0, 0x3004, "common"⟩, ⟨0x3005, 0x3005, "han"⟩, ⟨0x3006, 0x3006, "common"⟩,
  ⟨0x3007, 0x3007, "han"⟩, ⟨0x3008, 0x3020, "common"⟩, ⟨0x3021, 0x3029, "han"⟩,
  ⟨0x302A, 0x302D, "inherited"⟩, ⟨0x302E, 0x302F, "hangul"⟩, ⟨0x3030, 0x3037, "common"⟩,
  ⟨0x3038, 0x303B, "han"⟩, ⟨0x303C, 0x303F, "common"⟩, ⟨0x3041, 0x3096, "hiragana"⟩,
  ⟨0x3099, 0x309A, "inherited"⟩, ⟨0x309B, 0x309C, "common"⟩, ⟨0x309D, 0x309F, "hiragana"⟩,
  ⟨0x30A0, 0x30A0, "common"⟩, ⟨0x30A1, 0x30FA, "katakana"⟩, ⟨0x30FB, 0x30FC, "common"⟩,
  ⟨0x30FD, 0x30FF, "katakana"⟩, ⟨0x3105, 0x312F, "bopomofo"⟩, ⟨0x3131, 0x318E, "hangul"⟩,
  ⟨0x3190, 0x319F, "common"⟩, ⟨0x31A0, 0x31BF, "bopomofo"⟩, ⟨0x31C0, 0x31EF, "common"⟩,
  ⟨0x31F0, 0x31FF, "katakana"⟩, ⟨0x3200, 0x321E, "hangul"⟩, ⟨0x3220, 0x325F, "common"⟩,
  ⟨0x3260, 0x327E, "hangul"⟩, ⟨0x327F, 0x32CF, "common"⟩, ⟨0x32D0, 0x32FE, "katakana"⟩,
  ⟨0x32FF, 0x32FF, "common"⟩, ⟨0x3300, 0x3357, "katakana"⟩, ⟨0x3358, 0x33FF, "common"⟩,
  ⟨0x3400, 0x4DBF, "han"⟩, ⟨0x4DC0, 0x4DFF, "common"⟩, ⟨0x4E00, 0x9FFF, "han"⟩,
  ⟨0xA000, 0xA4C6, "yi"⟩, ⟨0xA4D0, 0xA4FF, "lisu"⟩, ⟨0xA500, 0xA62B, "vai"⟩,
  ⟨0xA640, 0xA69F, "cyrillic"⟩, ⟨0xA6A0, 0xA6F7, "bamum"⟩, ⟨0xA700, 0xA721, "common"⟩,
  ⟨0xA722, 0xA787, "latin"⟩, ⟨0xA788, 0xA78A, "common"⟩, ⟨0xA78B, 0xA7FF, "latin"⟩,
  ⟨0xA800, 0xA82C, "sylotinagri"⟩, ⟨0xA830, 0xA839, "common"⟩, ⟨0xA840, 0xA877, "phagspa"⟩,
  ⟨0xA880, 0xA8D9, "saurashtra"⟩, ⟨0xA8E0, 0xA8FF, "devanagari"⟩, ⟨0xA900, 0xA92D, "kayahli"⟩,
  ⟨0xA92E, 0xA92E, "common"⟩, ⟨0xA92F, 0xA92F, "kayahli"⟩, ⟨0xA930, 0xA95F, "rejang"⟩,
  ⟨0xA960, 0xA97C, "hangul"⟩, ⟨0xA980, 0xA9CD, "javanese"⟩, ⟨0xA9CF, 0xA9CF, "common"⟩,
  ⟨0xA9D0, 0xA9DF, "javanese"⟩, ⟨0xA9E0, 0xA9FE, "myanmar"⟩, ⟨0xAA00, 0xAA5F, "cham"⟩,
  ⟨0xAA60, 0xAA7F, "myanmar"⟩, ⟨0xAA80, 0xAADF, "taiviet"⟩, ⟨0xAAE0, 0xAAF6, "meeteimayek"⟩,
  ⟨0xAB01, 0xAB2E, "ethiopic"⟩, ⟨0xAB30, 0xAB5A, "latin"⟩, ⟨0xAB5B, 0xAB5B, "common"⟩,
  ⟨0xAB5C, 0xAB64, "latin"⟩, ⟨0xAB65, 0xAB65, "greek"⟩, ⟨0xAB66, 0xAB69, "latin"⟩,
  ⟨0xAB6A, 0xAB6B, "common"⟩, ⟨0xAB70, 0xABBF, "cherokee"⟩, ⟨0xABC0, 0xABF9, "meeteimayek"⟩,
  ⟨0xAC00, 0xD7FB, "hangul"⟩, ⟨0xF900, 0xFAD9, "han"⟩, ⟨0xFB00, 0xFB06, "latin"⟩,
  ⟨0xFB13, 0xFB17, "armenian"⟩, ⟨0xFB1D, 0xFB4F, "hebrew"⟩, ⟨0xFB50, 0xFD3D, "arabic"⟩,
  ⟨0xFD3E, 0xFD3F, "common"⟩, ⟨0xFD40, 0xFDFF, "arabic"⟩, ⟨0xFE00, 0xFE0F, "inherited"⟩,
  ⟨0xFE10, 0xFE19, "common"⟩, ⟨0xFE20, 0xFE2D, "inherited"⟩, ⟨0xFE2E, 0xFE2F, "cyrillic"⟩,
  ⟨0xFE30, 0xFE6B, "common"⟩, ⟨0xFE70, 0xFEFC, "arabic"⟩, ⟨0xFEFF, 0xFF20, "common"⟩,
  ⟨0xFF21, 0xFF3A, "latin"⟩, ⟨0xFF3B, 0xFF40, "common"⟩, ⟨0xFF41, 0xFF5A, "latin"⟩,
  ⟨0xFF5B, 0xFF65, "common"⟩, ⟨0xFF66, 0xFF6F, "katakana"⟩, ⟨0xFF70, 0xFF70, "common"⟩,
  ⟨0xFF71, 0xFF9D, "katakana"⟩, ⟨0xFF9E, 0xFF9F, "common"⟩, ⟨0xFFA0, 0xFFDC, "hangul"⟩,
  ⟨0xFFE0, 0xFFFD, "common"⟩, ⟨0x10000, 0x100FA, "linearb"⟩, ⟨0x10100, 0x1013F, "common"⟩,
  ⟨0x10140, 0x1018E, "greek"⟩, ⟨0x10190, 0x1019C, "common"⟩, ⟨0x101A0, 0x101A0, "greek"⟩,
  ⟨0x101D0, 0x101FC, "common"⟩, ⟨0x101FD, 0x101FD, "inherited"⟩, ⟨0x10280, 0x1029C, "lycian"⟩,
  ⟨0x102A0, 0x102D0, "carian"⟩, ⟨0x102E0, 0x102E0, "inherited"⟩, ⟨0x102E1, 0x102FB, "common"⟩,
  ⟨0x10300, 0x1032F, "olditalic"⟩, ⟨0x10330, 0x1034A, "gothic"⟩, ⟨0x10350, 0x1037A, "oldpermic"⟩,
  ⟨0x10380, 0x1039F, "ugaritic"⟩, ⟨0x103A0, 0x103D5, "oldpersian"⟩, ⟨0x10400, 0x1044F, "deseret"⟩,
  ⟨0x10450, 0x1047F, "shavian"⟩, ⟨0x10480, 0x104A9, "osmanya"⟩, ⟨0x104B0, 0x104FB, "osage"⟩,
  ⟨0x10500, 0x10527, "elbasan"⟩, ⟨0x10530, 0x1056F, "caucasianalbanian"⟩,
  ⟨0x10570, 0x105BC, "vithkuqi"⟩, ⟨0x105C0, 0x105F3, "todhri"⟩, ⟨0x10600, 0x10767, "lineara"⟩,
  ⟨0x10780, 0x107BA, "latin"⟩, ⟨0x10800, 0x1083F, "cypriot"⟩, ⟨0x10840, 0x1085F, "imperialaramaic"⟩,
  ⟨0x10860, 0x1087F, "palmyrene"⟩, ⟨0x10880, 0x108AF, "nabataean"⟩, ⟨0x108E0, 0x108FF, "hatran"⟩,
  ⟨0x10900, 0x1091F, "phoenician"⟩, ⟨0x10920, 0x1093F, "lydian"⟩,
  ⟨0x10980, 0x1099F, "meroitichieroglyphs"⟩, ⟨0x109A0, 0x109FF, "meroiticcursive"⟩,
  ⟨0x10A00, 0x10A58, "kharoshthi"⟩, ⟨0x10A60, 0x10A7F, "oldsoutharabian"⟩,
  ⟨0x10A80, 0x10A9F, "oldnortharabian"⟩, ⟨0x10AC0, 0x10AF6, "manichaean"⟩,
  ⟨0x10B00, 0x10B3F, "avestan"⟩, ⟨0x10B40, 0x10B5F, "inscriptionalparthian"⟩,
  ⟨0x10B60, 0x10B7F, "inscriptionalpahlavi"⟩, ⟨0x10B80, 0x10BAF, "psalterpahlavi"⟩,
  ⟨0x10C00, 0x10C48, "oldturkic"⟩, ⟨0x10C80, 0x10CFF, "oldhungarian"⟩,
  ⟨0x10D00, 0x10D39, "hanifirohingya"⟩, ⟨0x10D40, 0x10D8F, "garay"⟩, ⟨0x10E60, 0x10E7E, "arabic"⟩,
  ⟨0x10E80, 0x10EB1, "yezidi"⟩, ⟨0x10EC2, 0x10EFF, "arabic"⟩, ⟨0x10F00, 0x10F27, "oldsogdian"⟩,
  ⟨0x10F30, 0x10F59, "sogdian"⟩, ⟨0x10F70, 0x10F89, "olduyghur"⟩, ⟨0x10FB0, 0x10FCB, "chorasmian"⟩,
  ⟨0x10FE0, 0x10FF6, "elymaic"⟩, ⟨0x11000, 0x1107F, "brahmi"⟩, ⟨0x11080, 0x110CD, "kaithi"⟩,
  ⟨0x110D0, 0x110F9, "sorasompeng"⟩, ⟨0x11100, 0x11147, "chakma"⟩, ⟨0x11150, 0x11176, "mahajani"⟩,
  ⟨0x11180, 0x111DF, "sharada"⟩, ⟨0x111E1, 0x111F4, "sinhala"⟩, ⟨0x11200, 0x11241, "khojki"⟩,
  ⟨0x11280, 0x112A9, "multani"⟩, ⟨0x112B0, 0x112F9, "khudawadi"⟩, ⟨0x11300, 0x11339, "grantha"⟩,
  ⟨0x1133B, 0x1133B, "inherited"⟩, ⟨0x1133C, 0x11374, "grantha"⟩,
  ⟨0x11380, 0x113E2, "tulutigalari"⟩, ⟨0x11400, 0x11461, "newa"⟩, ⟨0x11480, 0x114D9, "tirhuta"⟩,
  ⟨0x11580, 0x115DD, "siddham"⟩, ⟨0x11600, 0x11659, "modi"⟩, ⟨0x11660, 0x1166C, "mongolian"⟩,
  ⟨0x11680, 0x116C9, "takri"⟩, ⟨0x116D0, 0x116E3, "myanmar"⟩, ⟨0x11700, 0x11746, "ahom"⟩,
  ⟨0x11800, 0x1183B, "dogra"⟩, ⟨0x118A0, 0x118FF, "warangciti"⟩, ⟨0x11900, 0x11959, "divesakuru"⟩,
  ⟨0x119A0, 0x119E4, "nandinagari"⟩, ⟨0x11A00, 0x11A47, "zanabazarsquare"⟩,
  ⟨0x11A50, 0x11AA2, "soyombo"⟩, ⟨0x11AB0, 0x11ABF, "canadianaboriginal"⟩,
  ⟨0x11AC0, 0x11AF8, "paucinhau"⟩, ⟨0x11B00, 0x11B09, "devanagari"⟩, ⟨0x11BC0, 0x11BF9, "sunuwar"⟩,
  ⟨0x11C00, 0x11C6C, "bhaiksuki"⟩, ⟨0x11C70, 0x11CB6, "marchen"⟩,
  ⟨0x11D00, 0x11D59, "masaramgondi"⟩, ⟨0x11D60, 0x11DA9, "gunjalagondi"⟩,
  ⟨0x11EE0, 0x11EF8, "makasar"⟩, ⟨0x11F00, 0x11F5A, "kawi"⟩, ⟨0x11FB0, 0x11FB0, "lisu"⟩,
  ⟨0x11FC0, 0x11FFF, "tamil"⟩, ⟨0x12000, 0x12543, "cuneiform"⟩, ⟨0x12F90, 0x12FF2, "cyprominoan"⟩,
  ⟨0x13000, 0x143FA, "egyptianhieroglyphs"⟩, ⟨0x14400, 0x14646, "anatolianhieroglyphs"⟩,
  ⟨0x16100, 0x16139, "gurungkhema"⟩, ⟨0x16800, 0x16A38, "bamum"⟩, ⟨0x16A40, 0x16A6F, "mro"⟩,
  ⟨0x16A70, 0x16AC9, "tangsa"⟩, ⟨0x16AD0, 0x16AF5, "bassavah"⟩, ⟨0x16B00, 0x16B8F, "pahawhhmong"⟩,
  ⟨0x16D40, 0x16D79, "kiratrai"⟩, ⟨0x16E40, 0x16E9A, "medefaidrin"⟩, ⟨0x16F00, 0x16F9F, "miao"⟩,
  ⟨0x16FE0, 0x16FE0, "tangut"⟩, ⟨0x16FE1, 0x16FE1, "nushu"⟩, ⟨0x16FE2, 0x16FE3, "han"⟩,
  ⟨0x16FE4, 0x16FE4, "khitansmallscript"⟩, ⟨0x16FF0, 0x16FF1, "han"⟩, ⟨0x17000, 0x18AFF, "tangut"⟩,
  ⟨0x18B00, 0x18CFF, "khitansmallscript"⟩, ⟨0x18D00, 0x18D08, "tangut"⟩,
  ⟨0x1AFF0, 0x1B000, "katakana"⟩, ⟨0x1B001, 0x1B11F, "hiragana"⟩, ⟨0x1B120, 0x1B122, "katakana"⟩,
  ⟨0x1B132, 0x1B152, "hiragana"⟩, ⟨0x1B155, 0x1B167, "katakana"⟩, ⟨0x1B170, 0x1B2FB, "nushu"⟩,
  ⟨0x1BC00, 0x1BC9F, "duployan"⟩, ⟨0x1BCA0, 0x1CEB3, "common"⟩, ⟨0x1CF00, 0x1CF46, "inherited"⟩,
  ⟨0x1CF50, 0x1D166, "common"⟩, ⟨0x1D167, 0x1D169, "inherited"⟩, ⟨0x1D16A, 0x1D17A, "common"⟩,
  ⟨0x1D17B, 0x1D182, "inherited"⟩, ⟨0x1D183, 0x1D184, "common"⟩, ⟨0x1D185, 0x1D18B, "inherited"⟩,
  ⟨0x1D18C, 0x1D1A9, "common"⟩, ⟨0x1D1AA, 0x1D1AD, "inherited"⟩, ⟨0x1D1AE, 0x1D1EA, "common"⟩,
  ⟨0x1D200, 0x1D245, "greek"⟩, ⟨0x1D2C0, 0x1D7FF, "common"⟩, ⟨0x1D800, 0x1DAAF, "signwriting"⟩,
  ⟨0x1DF00, 0x1DF2A, "latin"⟩, ⟨0x1E000, 0x1E02A, "glagolitic"⟩, ⟨0x1E030, 0x1E08F, "cyrillic"⟩,
  ⟨0x1E100, 0x1E14F, "nyiakengpuachuehmong"⟩, ⟨0x1E290, 0x1E2AE, "toto"⟩,
  ⟨0x1E2C0, 0x1E2FF, "wancho"⟩, ⟨0x1E4D0, 0x1E4F9, "nagmundari"⟩, ⟨0x1E5D0, 0x1E5FF, "olonal"⟩,
  ⟨0x1E7E0, 0x1E7FE, "ethiopic"⟩, ⟨0x1E800, 0x1E8D6, "mendekikakui"⟩, ⟨0x1E900, 0x1E95F, "adlam"⟩,
  ⟨0x1EC71, 0x1ED3D, "common"⟩, ⟨0x1EE00, 0x1EEF1, "arabic"⟩, ⟨0x1F000, 0x1F1FF, "common"⟩,
  ⟨0x1F200, 0x1F200, "hiragana"⟩, ⟨0x1F201, 0x1FBF9, "common"⟩, ⟨0x20000, 0x323AF, "han"⟩,
  ⟨0xE0001, 0xE007F, "common"⟩, ⟨0xE0100, 0xE01EF, "inherited"⟩]

/-- The abbreviations of the scripts. -/
def scriptAbbreviations : List (String × String) := [
  ("adlm", "adlam"), ("hluw", "anatolianhieroglyphs"), ("arab", "arabic"), ("armn", "armenian"),
  ("avst", "avestan"), ("bali", "balinese"), ("bamu", "bamum"), ("bass", "bassavah"),
  ("batk", "batak"), ("beng", "bengali"), ("bhks", "bhaiksuki"), ("bopo", "bopomofo"),
  ("brah", "brahmi"), ("brai", "braille"), ("bugi", "buginese"), ("buhd", "buhid"),
  ("cans", "canadianaboriginal"), ("cari", "carian"), ("aghb", "caucasianalbanian"),
  ("cakm", "chakma"), ("cher", "cherokee"), ("chrs", "chorasmian"), ("zyyy", "common"),
  ("copt", "coptic"), ("qaac", "coptic"), ("xsux", "cuneiform"), ("cprt", "cypriot"),
  ("cpmn", "cyprominoan"), ("cyrl", "cyrillic"), ("dsrt", "deseret"), ("deva", "devanagari"),
  ("diak", "divesakuru"), ("dogr", "dogra"), ("dupl", "duployan"), ("egyp", "egyptianhieroglyphs"),
  ("elba", "elbasan"), ("elym", "elymaic"), ("ethi", "ethiopic"), ("gara", "garay"),
  ("geor", "georgian"), ("glag", "glagolitic"), ("goth", "gothic"), ("gran", "grantha"),
  ("grek", "greek"), ("gujr", "gujarati"), ("gong", "gunjalagondi"), ("guru", "gurmukhi"),
  ("gukh", "gurungkhema"), ("hani", "han"), ("hang", "hangul"), ("rohg", "hanifirohingya"),
  ("hano", "hanunoo"), ("hatr", "hatran"), ("hebr", "hebrew"), ("hira", "hiragana"),
  ("armi", "imperialaramaic"), ("qaai", "inherited"), ("zinh", "inherited"),
  ("phli", "inscriptionalpahlavi"), ("prti", "inscriptionalparthian"), ("java", "javanese"),
  ("kthi", "kaithi"), ("knda", "kannada"), ("kana", "katakana"), ("kali", "kayahli"),
  ("khar", "kharoshthi"), ("kits", "khitansmallscript"), ("khmr", "khmer"), ("khoj", "khojki"),
  ("sind", "khudawadi"), ("krai", "kiratrai"), ("laoo", "lao"), ("latn", "latin"),
  ("lepc", "lepcha"), ("limb", "limbu"), ("lina", "lineara"), ("linb", "linearb"),
  ("lyci", "lycian"), ("lydi", "lydian"), ("mahj", "mahajani"), ("maka", "makasar"),
  ("mlym", "malayalam"), ("mand", "mandaic"), ("mani", "manichaean"), ("marc", "marchen"),
  ("gonm", "masaramgondi"), ("medf", "medefaidrin"), ("mtei", "meeteimayek"),
  ("mend", "mendekikakui"), ("merc", "meroiticcursive"), ("mero", "meroitichieroglyphs"),
  ("plrd", "miao"), ("mong", "mongolian"), ("mroo", "mro"), ("mult", "multani"),
  ("mymr", "myanmar"), ("nbat", "nabataean"), ("nagm", "nagmundari"), ("nand", "nandinagari"),
  ("talu", "newtailue"), ("nkoo", "nko"), ("nshu", "nushu"), ("hmnp", "nyiakengpuachuehmong"),
  ("ogam", "ogham"), ("olck", "olchiki"), ("onao", "olonal"), ("hung", "oldhungarian"),
  ("ital", "olditalic"), ("narb", "oldnortharabian"), ("perm", "oldpermic"), ("xpeo", "oldpersian"),
  ("sogo", "oldsogdian"), ("sarb", "oldsoutharabian"), ("orkh", "oldturkic"), ("ougr", "olduyghur"),
  ("orya", "oriya"), ("osge", "osage"), ("osma", "osmanya"), ("hmng", "pahawhhmong"),
  ("palm", "palmyrene"), ("pauc", "paucinhau"), ("phag", "phagspa"), ("phnx", "phoenician"),
  ("phlp", "psalterpahlavi"), ("rjng", "rejang"), ("runr", "runic"), ("samr", "samaritan"),
  ("saur", "saurashtra"), ("shrd", "sharada"), ("shaw", "shavian"), ("sidd", "siddham"),
  ("sgnw", "signwriting"), ("sinh", "sinhala"), ("sogd", "sogdian"), ("sora", "sorasompeng"),
  ("soyo", "soyombo"), ("sund", "sundanese"), ("sunu", "sunuwar"), ("sylo", "sylotinagri"),
  ("syrc", "syriac"), ("tglg", "tagalog"), ("tagb", "tagbanwa"), ("tale", "taile"),
  ("lana", "taitham"), ("tavt", "taiviet"), ("takr", "takri"), ("taml", "tamil"),
  ("tnsa", "tangsa"), ("tang", "tangut"), ("telu", "telugu"), ("thaa", "thaana"),
  ("tibt", "tibetan"), ("tfng", "tifinagh"), ("tirh", "tirhuta"), ("todr", "todhri"),
  ("tutg", "tulutigalari"), ("ugar", "ugaritic"), ("vaii", "vai"), ("vith", "vithkuqi"),
  ("wcho", "wancho"), ("wara", "warangciti"), ("yezi", "yezidi"), ("yiii", "yi"),
  ("zanb", "zanabazarsquare")]

/-- The script that a name stands for. -/
def scriptName? (name : String) : Option String :=
  if scriptRuns.any (·.name == name) then some name
  else (scriptAbbreviations.find? (·.1 == name)).map (·.2)

/-- The characters of the script with a name from the table. -/
def ofScript (name : String) : CharSet :=
  let runs := (scriptRuns.filter (·.name == name)).map fun r => (r.first, r.last)
  (ofRanges runs).diff (ofCategories [.cn, .co])

/-- The characters of a script. -/
def script? (name : String) : Option CharSet := (scriptName? name).map ofScript

end CharSet

end RecordFormula
