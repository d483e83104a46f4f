import RecordFormula.CharSet.Property
import RecordFormula.CharSet.Script

/-!
# Sets of characters by their part in breaking text

How the rules of Unicode 16.0 that divide a text into visible characters, words and sentences class
its characters.

* `CharSet.clusterBreak?` — the classes of the rules for visible characters;
* `CharSet.wordBreak?` — those for words;
* `CharSet.sentenceBreak?` — those for sentences.

Names are in folded spelling (lowercase, no separators).
-/

namespace RecordFormula

namespace CharSet

/-! ## Characters of all rules -/

/-- The carriage return. -/
def carriageReturnSpans : List Span := [⟨0xD, 0xD, 1⟩]

/-- The line feed. -/
def lineFeedSpans : List Span := [⟨0xA, 0xA, 1⟩]

/-- The joiner without a width. -/
def joinerSpans : List Span := [⟨0x200D, 0x200D, 1⟩]

/-! ## Visible characters -/

/-- The controls that do not end a visible character by themselves. -/
def plainControlSpans : List Span := [
  ⟨0xA, 0xA, 1⟩, ⟨0xD, 0xD, 1⟩, ⟨0x600, 0x605, 1⟩, ⟨0x6DD, 0x6DD, 1⟩, ⟨0x70F, 0x70F, 1⟩,
  ⟨0x890, 0x891, 1⟩, ⟨0x8E2, 0x8E2, 1⟩, ⟨0x115F, 0x1160, 1⟩, ⟨0x200D, 0x200D, 1⟩,
  ⟨0x3164, 0x3164, 1⟩, ⟨0xFFA0, 0xFFA0, 1⟩, ⟨0x110BD, 0x110BD, 1⟩, ⟨0x110CD, 0x110CD, 1⟩]

/-- The controls before and after which a visible character ends. -/
def clusterControl : CharSet :=
  ((ofCategories [.cc, .cf, .zl, .zp]).union defaultIgnorable).diff
    (graphemeExtend.union (ofSpans plainControlSpans))

/-- The characters that join the one before them, and the skin tones. -/
def clusterExtend : CharSet := graphemeExtend.union (ofSpans emojiModifierSpans)

/-- The marks with a width of their own that do not join the one before them. -/
def separateMarkSpans : List Span := [
  ⟨0x102B, 0x102C, 1⟩, ⟨0x1038, 0x1038, 1⟩, ⟨0x1062, 0x1064, 1⟩, ⟨0x1067, 0x106D, 1⟩,
  ⟨0x1083, 0x1083, 1⟩, ⟨0x1087, 0x108C, 1⟩, ⟨0x108F, 0x108F, 1⟩, ⟨0x109A, 0x109C, 1⟩,
  ⟨0x1A61, 0x1A61, 1⟩, ⟨0x1A63, 0x1A64, 1⟩, ⟨0xAA7B, 0xAA7B, 1⟩, ⟨0xAA7D, 0xAA7D, 1⟩,
  ⟨0x11720, 0x11721, 1⟩]

/-- The letters that count as such marks. -/
def otherSpacingMarkSpans : List Span := [⟨0xE33, 0xE33, 1⟩, ⟨0xEB3, 0xEB3, 1⟩]

/-- The marks with a width of their own that join the one before them. -/
def clusterSpacingMark : CharSet :=
  ((ofCategories [.mc]).diff
    ((ofSpans Letter.otherGraphemeExtend).union (ofSpans separateMarkSpans))).union
      (ofSpans otherSpacingMarkSpans)

/-- The other characters that join the one after them. -/
def otherPrependSpans : List Span := [
  ⟨0xD4E, 0xD4E, 1⟩, ⟨0x111C2, 0x111C3, 1⟩, ⟨0x113D1, 0x113D1, 1⟩, ⟨0x1193F, 0x1193F, 1⟩,
  ⟨0x11941, 0x11941, 1⟩, ⟨0x11A3A, 0x11A3A, 1⟩, ⟨0x11A84, 0x11A89, 1⟩, ⟨0x11D46, 0x11D46, 1⟩,
  ⟨0x11F02, 0x11F02, 1⟩]

/-- The characters that join the one after them. -/
def clusterPrepend : CharSet :=
  (ofSpans prependedConcatenationMarkSpans).union (ofSpans otherPrependSpans)

/-- The leading consonants of Hangul. -/
def leadingSpans : List Span := [⟨0x1100, 0x115F, 1⟩, ⟨0xA960, 0xA97C, 1⟩]

/-- The vowels of Hangul. -/
def vowelSpans : List Span := [
  ⟨0x1160, 0x11A7, 1⟩, ⟨0xD7B0, 0xD7C6, 1⟩, ⟨0x16D63, 0x16D63, 1⟩, ⟨0x16D67, 0x16D6A, 1⟩]

/-- The trailing consonants of Hangul. -/
def trailingSpans : List Span := [⟨0x11A8, 0x11FF, 1⟩, ⟨0xD7CB, 0xD7FB, 1⟩]

/-- The syllables of Hangul without a trailing consonant. -/
def openSyllableSpans : List Span := [⟨0xAC00, 0xD788, 28⟩]

/-- The syllables of Hangul with a trailing consonant. -/
def closedSyllables : CharSet := (ofRanges [(0xAC00, 0xD7A3)]).diff (ofSpans openSyllableSpans)

/-- The classes of the rules for visible characters. -/
def clusterBreaks : List (List String × CharSet) := [
  (["cn", "control"], clusterControl), (["cr"], ofSpans carriageReturnSpans),
  (["ex", "extend"], clusterExtend), (["l"], ofSpans leadingSpans), (["lf"], ofSpans lineFeedSpans),
  (["lv"], ofSpans openSyllableSpans), (["lvt"], closedSyllables),
  (["pp", "prepend"], clusterPrepend),
  (["ri", "regionalindicator"], ofSpans regionalIndicatorSpans),
  (["sm", "spacingmark"], clusterSpacingMark), (["t"], ofSpans trailingSpans),
  (["v"], ofSpans vowelSpans), (["zwj"], ofSpans joinerSpans)]

/-- The set of a class of the rules for visible characters. -/
def clusterBreak? (name : String) : Option CharSet := named? clusterBreaks name

/-! ## Words -/

/-- The characters that belong to the one before them. -/
def wordExtend : CharSet :=
  unionAll [graphemeExtend, ofCategories [.mc], ofSpans emojiModifierSpans]

/-- The format characters that the rules for words do not look past. -/
def plainFormatSpans : List Span := [
  ⟨0x600, 0x605, 1⟩, ⟨0x6DD, 0x6DD, 1⟩, ⟨0x70F, 0x70F, 1⟩, ⟨0x890, 0x891, 1⟩, ⟨0x8E2, 0x8E2, 1⟩,
  ⟨0x200B, 0x200D, 1⟩, ⟨0x110BD, 0x110BD, 1⟩, ⟨0x110CD, 0x110CD, 1⟩, ⟨0xE0020, 0xE007F, 1⟩]

/-- The format characters that the rules for words look past. -/
def wordFormat : CharSet := (ofCategories [.cf]).diff (ofSpans plainFormatSpans)

/-- The other characters of numbers. -/
def otherNumericSpans : List Span := [
  ⟨0x600, 0x605, 1⟩, ⟨0x66B, 0x66B, 1⟩, ⟨0x6DD, 0x6DD, 1⟩, ⟨0x890, 0x891, 1⟩, ⟨0x8E2, 0x8E2, 1⟩,
  ⟨0x19DA, 0x19DA, 1⟩, ⟨0x110BD, 0x110BD, 1⟩, ⟨0x110CD, 0x110CD, 1⟩]

/-- The digits. -/
def wordNumeric : CharSet := (ofCategories [.nd]).union (ofSpans otherNumericSpans)

/-- The signs that belong to Katakana. -/
def otherKatakanaSpans : List Span := [
  ⟨0x3031, 0x3035, 1⟩, ⟨0x309B, 0x309C, 1⟩, ⟨0x30A0, 0x30A0, 1⟩, ⟨0x30FC, 0x30FC, 1⟩,
  ⟨0xFF70, 0xFF70, 1⟩]

/-- The characters of Katakana. -/
def wordKatakana : CharSet := (ofScript "katakana").union (ofSpans otherKatakanaSpans)

/-- The letters of Hebrew. -/
def wordHebrew : CharSet := (ofScript "hebrew").inter (ofCategories [.lo])

/-- The letters that make a word of their own. -/
def loneLetterSpans : List Span := [
  ⟨0xE01, 0xE30, 1⟩, ⟨0xE32, 0xE33, 1⟩, ⟨0xE40, 0xE46, 1⟩, ⟨0xE81, 0xE82, 1⟩, ⟨0xE84, 0xE84, 1⟩,
  ⟨0xE86, 0xE8A, 1⟩, ⟨0xE8C, 0xEA3, 1⟩, ⟨0xEA5, 0xEA5, 1⟩, ⟨0xEA7, 0xEB0, 1⟩, ⟨0xEB2, 0xEB3, 1⟩,
  ⟨0xEBD, 0xEBD, 1⟩, ⟨0xEC0, 0xEC4, 1⟩, ⟨0xEC6, 0xEC6, 1⟩, ⟨0xEDC, 0xEDF, 1⟩, ⟨0x1000, 0x102A, 1⟩,
  ⟨0x103F, 0x103F, 1⟩, ⟨0x1050, 0x1055, 1⟩, ⟨0x105A, 0x105D, 1⟩, ⟨0x1061, 0x1061, 1⟩,
  ⟨0x1065, 0x1066, 1⟩, ⟨0x106E, 0x1070, 1⟩, ⟨0x1075, 0x1081, 1⟩, ⟨0x108E, 0x108E, 1⟩,
  ⟨0x1780, 0x17B3, 1⟩, ⟨0x17D7, 0x17D7, 1⟩, ⟨0x17DC, 0x17DC, 1⟩, ⟨0x1950, 0x196D, 1⟩,
  ⟨0x1970, 0x1974, 1⟩, ⟨0x1980, 0x19AB, 1⟩, ⟨0x19B0, 0x19C9, 1⟩, ⟨0x1A20, 0x1A54, 1⟩,
  ⟨0x1AA7, 0x1AA7, 1⟩, ⟨0xA9E0, 0xA9E4, 1⟩, ⟨0xA9E6, 0xA9EF, 1⟩, ⟨0xA9FA, 0xA9FE, 1⟩,
  ⟨0xAA60, 0xAA76, 1⟩, ⟨0xAA7A, 0xAA7A, 1⟩, ⟨0xAA7E, 0xAAAF, 1⟩, ⟨0xAAB1, 0xAAB1, 1⟩,
  ⟨0xAAB5, 0xAAB6, 1⟩, ⟨0xAAB9, 0xAABD, 1⟩, ⟨0xAAC0, 0xAAC0, 1⟩, ⟨0xAAC2, 0xAAC2, 1⟩,
  ⟨0xAADB, 0xAADD, 1⟩, ⟨0x11700, 0x1171A, 1⟩, ⟨0x11740, 0x11746, 1⟩]

/-- The signs that count as letters. -/
def otherLetterSpans : List Span := [
  ⟨0x2C2, 0x2C5, 1⟩, ⟨0x2D2, 0x2D7, 1⟩, ⟨0x2DE, 0x2DF, 1⟩, ⟨0x2E5, 0x2EB, 1⟩, ⟨0x2ED, 0x2ED, 1⟩,
  ⟨0x2EF, 0x2FF, 1⟩, ⟨0x55A, 0x55C, 1⟩, ⟨0x55E, 0x55E, 1⟩, ⟨0x58A, 0x58A, 1⟩, ⟨0x5F3, 0x5F3, 1⟩,
  ⟨0x70F, 0x70F, 1⟩, ⟨0xA708, 0xA716, 1⟩, ⟨0xA720, 0xA721, 1⟩, ⟨0xA789, 0xA78A, 1⟩,
  ⟨0xAB5B, 0xAB5B, 1⟩]

/-- The letters of words. -/
def wordLetter : CharSet :=
  (alphabetic.diff
    (unionAll [ofSpans ideographicSpans, wordKatakana, wordHebrew, ofScript "hiragana", wordExtend,
      ofSpans loneLetterSpans])).union (ofSpans otherLetterSpans)

/-- The narrow blank that joins. -/
def narrowBlankSpans : List Span := [⟨0x202F, 0x202F, 1⟩]

/-- The characters that join letters and digits. -/
def wordConnector : CharSet := (ofCategories [.pc]).union (ofSpans narrowBlankSpans)

/-- The blanks at which no line ends. -/
def joiningBlankSpans : List Span := [⟨0xA0, 0xA0, 1⟩, ⟨0x2007, 0x2007, 1⟩, ⟨0x202F, 0x202F, 1⟩]

/-- The blanks between words. -/
def wordBlank : CharSet := (ofCategories [.zs]).diff (ofSpans joiningBlankSpans)

/-- The double quotation mark. -/
def doubleQuoteSpans : List Span := [⟨0x22, 0x22, 1⟩]

/-- The single quotation mark. -/
def singleQuoteSpans : List Span := [⟨0x27, 0x27, 1⟩]

/-- The signs between letters. -/
def midLetterSpans : List Span := [
  ⟨0x3A, 0x3A, 1⟩, ⟨0xB7, 0xB7, 1⟩, ⟨0x387, 0x387, 1⟩, ⟨0x55F, 0x55F, 1⟩, ⟨0x5F4, 0x5F4, 1⟩,
  ⟨0x2027, 0x2027, 1⟩, ⟨0xFE13, 0xFE13, 1⟩, ⟨0xFE55, 0xFE55, 1⟩, ⟨0xFF1A, 0xFF1A, 1⟩]

/-- The signs between digits. -/
def midNumberSpans : List Span := [
  ⟨0x2C, 0x2C, 1⟩, ⟨0x3B, 0x3B, 1⟩, ⟨0x37E, 0x37E, 1⟩, ⟨0x589, 0x589, 1⟩, ⟨0x60C, 0x60D, 1⟩,
  ⟨0x66C, 0x66C, 1⟩, ⟨0x7F8, 0x7F8, 1⟩, ⟨0x2044, 0x2044, 1⟩, ⟨0xFE50, 0xFE50, 1⟩,
  ⟨0xFE54, 0xFE54, 1⟩, ⟨0xFF0C, 0xFF0C, 1⟩, ⟨0xFF1B, 0xFF1B, 1⟩]

/-- The signs between letters or digits. -/
def midAnySpans : List Span := [
  ⟨0x2E, 0x2E, 1⟩, ⟨0x2018, 0x2019, 1⟩, ⟨0x2024, 0x2024, 1⟩, ⟨0xFE52, 0xFE52, 1⟩,
  ⟨0xFF07, 0xFF07, 1⟩, ⟨0xFF0E, 0xFF0E, 1⟩]

/-- The other ends of lines. -/
def newlineSpans : List Span := [⟨0xB, 0xC, 1⟩, ⟨0x85, 0x85, 1⟩, ⟨0x2028, 0x2029, 1⟩]

/-- The classes of the rules for words. -/
def wordBreaks : List (List String × CharSet) := [
  (["le", "aletter"], wordLetter), (["cr"], ofSpans carriageReturnSpans),
  (["dq", "doublequote"], ofSpans doubleQuoteSpans), (["ex", "extendnumlet"], wordConnector),
  (["extend"], wordExtend), (["fo", "format"], wordFormat), (["hl", "hebrewletter"], wordHebrew),
  (["ka", "katakana"], wordKatakana), (["lf"], ofSpans lineFeedSpans),
  (["mb", "midnumlet"], ofSpans midAnySpans), (["ml", "midletter"], ofSpans midLetterSpans),
  (["mn", "midnum"], ofSpans midNumberSpans), (["nl", "newline"], ofSpans newlineSpans),
  (["nu", "numeric"], wordNumeric), (["ri", "regionalindicator"], ofSpans regionalIndicatorSpans),
  (["sq", "singlequote"], ofSpans singleQuoteSpans), (["wsegspace"], wordBlank),
  (["zwj"], ofSpans joinerSpans)]

/-- The set of a class of the rules for words. -/
def wordBreak? (name : String) : Option CharSet := named? wordBreaks name

/-! ## Sentences -/

/-- The letters of Georgian, which count as those without a case. -/
def smallGeorgianSpans : List Span := [⟨0x10D0, 0x10FA, 1⟩, ⟨0x10FD, 0x10FF, 1⟩]

/-- The lowercase letters. -/
def sentenceLower : CharSet := lowercase.diff (graphemeExtend.union (ofSpans smallGeorgianSpans))

/-- The capital letters of Georgian. -/
def capitalGeorgianSpans : List Span := [⟨0x1C90, 0x1CBA, 1⟩, ⟨0x1CBD, 0x1CBF, 1⟩]

/-- The uppercase letters. -/
def sentenceUpper : CharSet :=
  (uppercase.union (ofCategories [.lt])).diff (ofSpans capitalGeorgianSpans)

/-- The characters that belong to the one before them. -/
def sentenceExtend : CharSet := unionAll [graphemeExtend, ofCategories [.mc], ofSpans joinerSpans]

/-- The sign that counts as a letter. -/
def gereshSpans : List Span := [⟨0x5F3, 0x5F3, 1⟩]

/-- The letters without a case. -/
def sentenceLetter : CharSet :=
  (alphabetic.diff (unionAll [sentenceLower, sentenceUpper, sentenceExtend])).union
    (ofSpans gereshSpans)

/-- The format characters that the rules for sentences do not look past. -/
def meaningfulFormatSpans : List Span := [
  ⟨0x600, 0x605, 1⟩, ⟨0x6DD, 0x6DD, 1⟩, ⟨0x890, 0x891, 1⟩, ⟨0x8E2, 0x8E2, 1⟩, ⟨0x200C, 0x200D, 1⟩,
  ⟨0x110BD, 0x110BD, 1⟩, ⟨0x110CD, 0x110CD, 1⟩, ⟨0xE0020, 0xE007F, 1⟩]

/-- The format characters that the rules for sentences look past. -/
def sentenceFormat : CharSet := (ofCategories [.cf]).diff (ofSpans meaningfulFormatSpans)

/-- The separator of thousands in Arabic. -/
def arabicSeparatorSpans : List Span := [⟨0x66C, 0x66C, 1⟩]

/-- The digits. -/
def sentenceNumeric : CharSet := wordNumeric.union (ofSpans arabicSeparatorSpans)

/-- The full stops, which may also stand in an abbreviation. -/
def fullStopSpans : List Span := [
  ⟨0x2E, 0x2E, 1⟩, ⟨0x2024, 0x2024, 1⟩, ⟨0xFE52, 0xFE52, 1⟩, ⟨0xFF0E, 0xFF0E, 1⟩]

/-- The signs that end a sentence. -/
def sentenceEnd : CharSet := (ofSpans sentenceTerminalSpans).diff (ofSpans fullStopSpans)

/-- The other quotation marks. -/
def otherCloseSpans : List Span := [
  ⟨0x22, 0x22, 1⟩, ⟨0x27, 0x27, 1⟩, ⟨0x275B, 0x2760, 1⟩, ⟨0x2E00, 0x2E01, 1⟩, ⟨0x2E06, 0x2E08, 1⟩,
  ⟨0x2E0B, 0x2E0B, 1⟩, ⟨0x1F676, 0x1F678, 1⟩]

/-- The brackets and quotation marks. -/
def sentenceClose : CharSet := (ofCategories [.ps, .pe, .pi, .pf]).union (ofSpans otherCloseSpans)

/-- The signs after which a sentence goes on. -/
def continueSpans : List Span := [
  ⟨0x2C, 0x2D, 1⟩, ⟨0x3A, 0x3B, 1⟩, ⟨0x37E, 0x37E, 1⟩, ⟨0x55D, 0x55D, 1⟩, ⟨0x60C, 0x60D, 1⟩,
  ⟨0x7F8, 0x7F8, 1⟩, ⟨0x1802, 0x1802, 1⟩, ⟨0x1808, 0x1808, 1⟩, ⟨0x2013, 0x2014, 1⟩,
  ⟨0x3001, 0x3001, 1⟩, ⟨0xFE10, 0xFE11, 1⟩, ⟨0xFE13, 0xFE14, 1⟩, ⟨0xFE31, 0xFE32, 1⟩,
  ⟨0xFE50, 0xFE51, 1⟩, ⟨0xFE54, 0xFE55, 1⟩, ⟨0xFE58, 0xFE58, 1⟩, ⟨0xFE63, 0xFE63, 1⟩,
  ⟨0xFF0C, 0xFF0D, 1⟩, ⟨0xFF1A, 0xFF1B, 1⟩, ⟨0xFF64, 0xFF64, 1⟩]

/-- The ends of paragraphs. -/
def separatorSpans : List Span := [⟨0x85, 0x85, 1⟩, ⟨0x2028, 0x2029, 1⟩]

/-- The blanks that end a line. -/
def endBlankSpans : List Span := [
  ⟨0xA, 0xA, 1⟩, ⟨0xD, 0xD, 1⟩, ⟨0x85, 0x85, 1⟩, ⟨0x2028, 0x2029, 1⟩]

/-- The other blanks. -/
def sentenceBlank : CharSet := whiteSpace.diff (ofSpans endBlankSpans)

/-- The classes of the rules for sentences. -/
def sentenceBreaks : List (List String × CharSet) := [
  (["at", "aterm"], ofSpans fullStopSpans), (["cl", "close"], sentenceClose),
  (["cr"], ofSpans carriageReturnSpans), (["ex", "extend"], sentenceExtend),
  (["fo", "format"], sentenceFormat), (["le", "oletter"], sentenceLetter),
  (["lf"], ofSpans lineFeedSpans), (["lo", "lower"], sentenceLower),
  (["nu", "numeric"], sentenceNumeric), (["sc", "scontinue"], ofSpans continueSpans),
  (["se", "sep"], ofSpans separatorSpans), (["sp"], sentenceBlank), (["st", "sterm"], sentenceEnd),
  (["up", "upper"], sentenceUpper)]

/-- The set of a class of the rules for sentences. -/
def sentenceBreak? (name : String) : Option CharSet := named? sentenceBreaks name

end CharSet

end RecordFormula
