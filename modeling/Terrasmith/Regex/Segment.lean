import Terrasmith.Regex.Property

/-!
The classes of characters by which a text is divided into user-perceived characters, words and sentences, by version
16 of the Unicode standard.
-/
namespace Terrasmith.CharSet

def cr : CharSet := .single '\r'

def lf : CharSet := .single '\n'

def zeroWidthJoiner : CharSet := .range 0x200d 0x200d

/-- The spacing marks of scripts whose syllables are taken apart. -/
def separateMark : CharSet :=
  .boundaries [
    0x102b, 0x102d, 0x1038, 0x1039, 0x1062, 0x1065, 0x1067, 0x106e, 0x1083, 0x1084, 0x1087, 0x108d, 0x108f, 0x1090,
    0x109a, 0x109d, 0x1a61, 0x1a62, 0x1a63, 0x1a65, 0xaa7b, 0xaa7c, 0xaa7d, 0xaa7e, 0x11720, 0x11722]

/-- The syllables of Hangul without a final consonant. -/
def openSyllable : CharSet := .stepped 0xac00 0xd788 28

/-- Classes of parts of user-perceived characters. -/
def graphemeBreak? : String → Option CharSet
  | "cr" => some cr
  | "lf" => some lf
  | "control" | "cn" =>
    some (.except
      (unions [lineSeparator, paragraphSeparator, control, formatControl, .inter unassigned defaultIgnorable])
      (unions [cr, lf, joiner, prepended, graphemeExtend]))
  | "extend" | "ex" => some (.union graphemeExtend emojiModifier)
  | "zwj" => some zeroWidthJoiner
  | "regionalindicator" | "ri" => some regionalIndicator
  | "prepend" | "pp" =>
    some (.union prepended (.boundaries [0xd4e, 0xd4f, 0x111c2, 0x111c4, 0x113d1, 0x113d2, 0x1193f, 0x11940,
      0x11941, 0x11942, 0x11a3a, 0x11a3b, 0x11a84, 0x11a8a, 0x11d46, 0x11d47, 0x11f02, 0x11f03]))
  | "spacingmark" | "sm" =>
    some (.except (unions [.except spacingMark graphemeExtend, .range 0xe33 0xe33, .range 0xeb3 0xeb3]) separateMark)
  | "l" => some (.union (.range 0x1100 0x115f) (.range 0xa960 0xa97c))
  | "v" => some (.boundaries [0x1160, 0x11a8, 0xd7b0, 0xd7c7, 0x16d63, 0x16d64, 0x16d67, 0x16d6b])
  | "t" => some (.union (.range 0x11a8 0x11ff) (.range 0xd7cb 0xd7fb))
  | "lv" => some openSyllable
  | "lvt" => some (.except (.range 0xac00 0xd7a3) openSyllable)
  | _ => .none

/-- The characters that go on with a word or sentence whatever it is made of. -/
def wordExtend : CharSet := unions [graphemeExtend, spacingMark, emojiModifier]

def katakana : CharSet :=
  .union ((script? "kana").getD .none)
    (.boundaries [0x3031, 0x3036, 0x309b, 0x309d, 0x30a0, 0x30a1, 0x30fc, 0x30fd, 0xff70, 0xff71])

def hebrewLetter : CharSet :=
  .inter ((script? "hebr").getD .none) (.except letter (.union casedLetter modifierLetter))

/-- Modifiers and signs that count as letters of a word. -/
def wordSign : CharSet :=
  .boundaries [
    0x2c2, 0x2c6, 0x2d2, 0x2d8, 0x2de, 0x2e0, 0x2e5, 0x2ec, 0x2ed, 0x2ee, 0x2ef, 0x300, 0x55a, 0x55d, 0x55e, 0x55f,
    0x58a, 0x58b, 0x5f3, 0x5f4, 0x70f, 0x710, 0xa708, 0xa717, 0xa720, 0xa722, 0xa789, 0xa78b, 0xab5b, 0xab5c]

/-- Signs that open a number. -/
def numberSign : CharSet := .except prepended (.range 0x70f 0x70f)

/-- Classes of parts of words. -/
def wordBreak? : String → Option CharSet
  | "cr" => some cr
  | "lf" => some lf
  | "newline" | "nl" => some (.boundaries [0xb, 0xd, 0x85, 0x86, 0x2028, 0x202a])
  | "extend" => some wordExtend
  | "zwj" => some zeroWidthJoiner
  | "regionalindicator" | "ri" => some regionalIndicator
  | "format" | "fo" => some (.except formatControl (unions [.range 0x200b 0x200d, prepended, graphemeExtend]))
  | "katakana" | "ka" => some katakana
  | "hebrewletter" | "hl" => some hebrewLetter
  | "aletter" | "le" =>
    some (.except (.union alphabetic wordSign)
      (unions [ideographic, katakana, .boundaries Text.complexContextBoundaries, (script? "hira").getD .none,
        wordExtend, hebrewLetter]))
  | "singlequote" | "sq" => some (.range 0x27 0x27)
  | "doublequote" | "dq" => some (.range 0x22 0x22)
  | "midnumlet" | "mb" =>
    some (.boundaries [0x2e, 0x2f, 0x2018, 0x201a, 0x2024, 0x2025, 0xfe52, 0xfe53, 0xff07, 0xff08, 0xff0e, 0xff0f])
  | "midletter" | "ml" =>
    some (.boundaries [0x3a, 0x3b, 0xb7, 0xb8, 0x387, 0x388, 0x55f, 0x560, 0x5f4, 0x5f5, 0x2027, 0x2028, 0xfe13,
      0xfe14, 0xfe55, 0xfe56, 0xff1a, 0xff1b])
  | "midnum" | "mn" =>
    some (.boundaries [0x2c, 0x2d, 0x3b, 0x3c, 0x37e, 0x37f, 0x589, 0x58a, 0x60c, 0x60e, 0x66c, 0x66d, 0x7f8, 0x7f9,
      0x2044, 0x2045, 0xfe10, 0xfe11, 0xfe14, 0xfe15, 0xfe50, 0xfe51, 0xfe54, 0xfe55, 0xff0c, 0xff0d, 0xff1b, 0xff1c])
  | "numeric" | "nu" => some (unions [decimal, .range 0x66b 0x66b, numberSign])
  | "extendnumlet" | "ex" => some (.union connector (.range 0x202f 0x202f))
  | "wsegspace" => some (.except space (.boundaries [0xa0, 0xa1, 0x2007, 0x2008, 0x202f, 0x2030]))
  | _ => .none

def sentenceExtend : CharSet := unions [graphemeExtend, spacingMark, zeroWidthJoiner]

/-- Lowercase characters as sentences see them, which leaves out Georgian. -/
def sentenceLower : CharSet := .except lowercase (.union graphemeExtend unicameral)

def sentenceUpper : CharSet :=
  .except (.union titlecaseLetter uppercase) (.union (.range 0x1c90 0x1cba) (.range 0x1cbd 0x1cbf))

/-- Full stops that need not end a sentence. -/
def ambiguousStop : CharSet := .boundaries [0x2e, 0x2f, 0x2024, 0x2025, 0xfe52, 0xfe53, 0xff0e, 0xff0f]

/-- Quotation marks that are not paired punctuation. -/
def plainQuote : CharSet :=
  .boundaries [0x22, 0x23, 0x27, 0x28, 0x275b, 0x2761, 0x2e00, 0x2e02, 0x2e06, 0x2e09, 0x2e0b, 0x2e0c, 0x1f676,
    0x1f679]

/-- Classes of parts of sentences. -/
def sentenceBreak? : String → Option CharSet
  | "cr" => some cr
  | "lf" => some lf
  | "sep" | "se" => some (.boundaries [0x85, 0x86, 0x2028, 0x202a])
  | "extend" | "ex" => some sentenceExtend
  | "format" | "fo" => some (.except formatControl (unions [joiner, prepended, graphemeExtend]))
  | "sp" => some (.except blank (.boundaries [10, 11, 13, 14, 0x85, 0x86, 0x2028, 0x202a]))
  | "lower" | "lo" => some sentenceLower
  | "upper" | "up" => some sentenceUpper
  | "oletter" | "le" =>
    some (.except (unions [alphabetic, .range 0x5f3 0x5f3, .range 0x70f 0x70f])
      (unions [sentenceLower, sentenceUpper, sentenceExtend]))
  | "numeric" | "nu" => some (unions [decimal, .range 0x66b 0x66c, numberSign])
  | "aterm" | "at" => some ambiguousStop
  | "scontinue" | "sc" =>
    some (.boundaries [0x2c, 0x2e, 0x3a, 0x3c, 0x37e, 0x37f, 0x55d, 0x55e, 0x60c, 0x60e, 0x7f8, 0x7f9, 0x1802,
      0x1803, 0x1808, 0x1809, 0x2013, 0x2015, 0x3001, 0x3002, 0xfe10, 0xfe12, 0xfe13, 0xfe15, 0xfe31, 0xfe33, 0xfe50,
      0xfe52, 0xfe54, 0xfe56, 0xfe58, 0xfe59, 0xfe63, 0xfe64, 0xff0c, 0xff0e, 0xff1a, 0xff1c, 0xff64, 0xff65])
  | "sterm" | "st" => some (.except sentenceTerminal ambiguousStop)
  | "close" | "cl" =>
    some (unions [openingPunctuation, closingPunctuation, initialQuote, finalQuote, plainQuote])
  | _ => .none

end Terrasmith.CharSet
