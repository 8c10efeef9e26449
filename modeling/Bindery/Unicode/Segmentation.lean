import Bindery.Unicode.Category
import Bindery.Unicode.Property
import Bindery.Unicode.Script

/-!
# Bindery — Unicode — Segmentation

Where a text can be cut into what readers take for characters, words and sentences depends on a
class that a code point has for each of the three.  Most code points have their class by a rule
from categories, scripts and properties; the exceptions are written out.
-/

namespace Bindery.Unicode

namespace Segmentation

/-- The code points with a property of the table of properties. -/
def having (text : String) : Ranges := readRanges text

/-- Some code points, one by one. -/
def those (codes : List Nat) : Ranges := Ranges.ofList (codes.map fun n => (n, n))

/-- The code points of some categories or groups. -/
def inCategories (shorts : List String) : Ranges :=
  Ranges.ofList (shorts.flatMap Category.ranges)

/-- The code points in one of some sets. -/
def anyOf (sets : List Ranges) : Ranges := Ranges.ofList sets.flatten

/-- The zero-width joiner. -/
def joiner : Ranges := [(0x200D, 0x200D)]

/-- Marks that extend what they follow. -/
def marks : Ranges := having Property.graphemeExtend

/-- Decimal digits and the two separators that stand between them. -/
def numeric : Ranges := anyOf [Category.ranges "Nd", [(0x66B, 0x66C)]]

/-- The full stops that also stand in numbers and abbreviations. -/
def fullStops : Ranges := those [0x2E, 0x2024, 0xFE52, 0xFF0E]

/-- The first code point of the Hangul syllables. -/
def hangulStart : Nat := 0xAC00

/-- How many Hangul syllables have the same leading consonant and vowel. -/
def hangulTrails : Nat := 28

/-- How many pairs of a leading consonant and a vowel there are. -/
def hangulPairs : Nat := 399

/-- The Hangul syllables without a trailing consonant, each with the last one of its pair. -/
def hangulBlocks : List (Nat × Nat) :=
  (List.range hangulPairs).map fun n =>
    let first := hangulStart + n * hangulTrails
    (first, first + hangulTrails - 1)

/-- The code points of scripts whose words are found in dictionaries. -/
def withoutSpaces : String :=
  "2rl 1m 5 f 1e 2 1 1 1 5 1 o 1 1 1 n 2 5 1 1 1 7 d 4 80 1s g 1s a 6 1cw 2c 3 1 4 2 aa u 2 5 b
  18 4 q g 1 3 2 1s 1r 1 t z e saa g a 5 2p 2r o 5 lcw r 2 f e 2 3 8"

end Segmentation

open Segmentation

/-- The classes for cutting a text into characters as readers take them. -/
inductive GraphemeBreak where
  | carriageReturn
  | lineFeed
  | control
  | extend
  | joiner
  | regionalIndicator
  | prepended
  | spacingMark
  | leading
  | vowel
  | trailing
  | openSyllable
  | closedSyllable

namespace GraphemeBreak

/-- The classes with their names. -/
def names : List (List String × GraphemeBreak) :=
  [(["CR"], carriageReturn), (["LF"], lineFeed), (["CN", "Control"], control),
    (["EX", "Extend"], extend), (["ZWJ"], joiner),
    (["RI", "Regional_Indicator"], regionalIndicator), (["PP", "Prepend"], prepended),
    (["SM", "SpacingMark"], spacingMark), (["L"], leading), (["V"], vowel), (["T"], trailing),
    (["LV"], openSyllable), (["LVT"], closedSyllable)]

/-- What extends the character before it. -/
def extending : Ranges := anyOf [marks, having Property.emojiModifier]

/-- The code points of a class. -/
def ranges : GraphemeBreak → Ranges
  | carriageReturn => those [0x0D]
  | lineFeed => those [0x0A]
  | control =>
    Ranges.diff
      (anyOf [inCategories ["Zl", "Zp", "Cc", "Cf"],
        Ranges.inter (Category.ranges "Cn") (having Property.defaultIgnorableCodePoint)])
      (anyOf [those [0x0A, 0x0D, 0x200C, 0x200D], having Property.prependedConcatenationMark,
        extending])
  | extend => extending
  | joiner => Segmentation.joiner
  | regionalIndicator => having Property.regionalIndicator
  | prepended =>
    anyOf [having Property.prependedConcatenationMark,
      [(0xD4E, 0xD4E), (0x111C2, 0x111C3), (0x1193F, 0x1193F), (0x11941, 0x11941),
        (0x11A3A, 0x11A3A), (0x11A84, 0x11A89), (0x11D46, 0x11D46), (0x11F02, 0x11F02)]]
  | spacingMark =>
    Ranges.diff (anyOf [Category.ranges "Mc", those [0xE33, 0xEB3]])
      (anyOf [extending,
        [(0x102B, 0x102C), (0x1038, 0x1038), (0x1062, 0x1064), (0x1067, 0x106D),
          (0x1083, 0x1083), (0x1087, 0x108C), (0x108F, 0x108F), (0x109A, 0x109C),
          (0x1A61, 0x1A61), (0x1A63, 0x1A64), (0xAA7B, 0xAA7B), (0xAA7D, 0xAA7D),
          (0x11720, 0x11721)]])
  | leading => [(0x1100, 0x115F), (0xA960, 0xA97C)]
  | vowel => [(0x1160, 0x11A7), (0xD7B0, 0xD7C6)]
  | trailing => [(0x11A8, 0x11FF), (0xD7CB, 0xD7FB)]
  | openSyllable => hangulBlocks.map fun b => (b.1, b.1)
  | closedSyllable => hangulBlocks.map fun b => (b.1 + 1, b.2)

end GraphemeBreak

/-- The classes for cutting a text into words. -/
inductive WordBreak where
  | carriageReturn
  | lineFeed
  | newline
  | extend
  | joiner
  | regionalIndicator
  | format
  | katakana
  | hebrewLetter
  | letter
  | singleQuote
  | doubleQuote
  | midNumberOrLetter
  | midLetter
  | midNumber
  | numeric
  | connector
  | space

namespace WordBreak

/-- The classes with their names. -/
def names : List (List String × WordBreak) :=
  [(["CR"], carriageReturn), (["LF"], lineFeed), (["NL", "Newline"], newline),
    (["Extend"], extend), (["ZWJ"], joiner), (["RI", "Regional_Indicator"], regionalIndicator),
    (["FO", "Format"], format), (["KA", "Katakana"], katakana),
    (["HL", "Hebrew_Letter"], hebrewLetter), (["LE", "ALetter"], letter),
    (["SQ", "Single_Quote"], singleQuote), (["DQ", "Double_Quote"], doubleQuote),
    (["MB", "MidNumLet"], midNumberOrLetter), (["ML", "MidLetter"], midLetter),
    (["MN", "MidNum"], midNumber), (["NU", "Numeric"], numeric),
    (["EX", "ExtendNumLet"], connector), (["WSegSpace"], space)]

/-- What extends the letter before it. -/
def extending : Ranges :=
  Ranges.diff (anyOf [marks, Category.ranges "Mc", having Property.emojiModifier])
    Segmentation.joiner

/-- The letters of the Katakana syllabary and what is written among them. -/
def syllabary : Ranges :=
  anyOf [Script.ranges "Kana",
    [(0x3031, 0x3035), (0x309B, 0x309C), (0x30A0, 0x30A0), (0x30FC, 0x30FC), (0xFF70, 0xFF70)]]

/-- The letters of the Hebrew alphabet. -/
def hebrew : Ranges := Ranges.inter (Script.ranges "Hebr") (Category.ranges "Lo")

/-- The code points of a class. -/
def ranges : WordBreak → Ranges
  | carriageReturn => those [0x0D]
  | lineFeed => those [0x0A]
  | newline => those [0x0B, 0x0C, 0x85, 0x2028, 0x2029]
  | extend => extending
  | joiner => Segmentation.joiner
  | regionalIndicator => having Property.regionalIndicator
  | format =>
    Ranges.diff (Category.ranges "Cf") (anyOf [those [0x200B, 0x200C, 0x200D], extending])
  | katakana => syllabary
  | hebrewLetter => hebrew
  | letter =>
    Ranges.diff
      (anyOf [having Property.alphabetic,
        [(0x2C2, 0x2C5), (0x2D2, 0x2D7), (0x2DE, 0x2DF), (0x2E5, 0x2EB), (0x2ED, 0x2ED),
          (0x2EF, 0x2FF), (0x55A, 0x55C), (0x55E, 0x55E), (0x58A, 0x58A), (0x5F3, 0x5F3),
          (0xA708, 0xA716), (0xA720, 0xA721), (0xA789, 0xA78A), (0xAB5B, 0xAB5B)]])
      (anyOf [having Property.ideographic, syllabary, having withoutSpaces,
        Script.ranges "Hira", extending, hebrew])
  | singleQuote => those [0x27]
  | doubleQuote => those [0x22]
  | midNumberOrLetter => anyOf [fullStops, those [0x2018, 0x2019, 0xFF07]]
  | midLetter => those [0x3A, 0xB7, 0x387, 0x55F, 0x5F4, 0x2027, 0xFE13, 0xFE55, 0xFF1A]
  | midNumber =>
    those [0x2C, 0x3B, 0x37E, 0x589, 0x60C, 0x60D, 0x66C, 0x7F8, 0x2044, 0xFE10, 0xFE14, 0xFE50,
      0xFE54, 0xFF0C, 0xFF1B]
  | numeric => Ranges.diff Segmentation.numeric (those [0x66C])
  | connector => anyOf [Category.ranges "Pc", those [0x202F]]
  | space =>
    [(0x20, 0x20), (0x1680, 0x1680), (0x2000, 0x2006), (0x2008, 0x200A), (0x205F, 0x205F),
      (0x3000, 0x3000)]

end WordBreak

/-- The classes for cutting a text into sentences. -/
inductive SentenceBreak where
  | carriageReturn
  | lineFeed
  | separator
  | extend
  | format
  | space
  | lower
  | upper
  | otherLetter
  | numeric
  | fullStop
  | continues
  | terminal
  | closing

namespace SentenceBreak

/-- The classes with their names. -/
def names : List (List String × SentenceBreak) :=
  [(["CR"], carriageReturn), (["LF"], lineFeed), (["SE", "Sep"], separator),
    (["EX", "Extend"], extend), (["FO", "Format"], format), (["SP", "Sp"], space),
    (["LO", "Lower"], lower), (["UP", "Upper"], upper), (["LE", "OLetter"], otherLetter),
    (["NU", "Numeric"], numeric), (["AT", "ATerm"], fullStop), (["SC", "SContinue"], continues),
    (["ST", "STerm"], terminal), (["CL", "Close"], closing)]

/-- What extends the letter before it. -/
def extending : Ranges := anyOf [marks, Category.ranges "Mc", Segmentation.joiner]

/-- Paragraph separators. -/
def separators : Ranges := those [0x85, 0x2028, 0x2029]

/-- The letters in lower case. -/
def lowerLetters : Ranges :=
  Ranges.diff (having Property.lowercase) (anyOf [marks, [(0x10D0, 0x10FA), (0x10FD, 0x10FF)]])

/-- The letters in upper case. -/
def upperLetters : Ranges :=
  Ranges.diff (anyOf [Category.ranges "Lt", having Property.uppercase])
    [(0x1C90, 0x1CBA), (0x1CBD, 0x1CBF)]

/-- What ends a sentence, but for the full stops. -/
def terminals : Ranges := Ranges.diff (having Property.sentenceTerminal) fullStops

/-- The code points of a class. -/
def ranges : SentenceBreak → Ranges
  | carriageReturn => those [0x0D]
  | lineFeed => those [0x0A]
  | separator => separators
  | extend => extending
  | format => Ranges.diff (Category.ranges "Cf") (anyOf [those [0x200C, 0x200D], extending])
  | space => Ranges.diff (having Property.whiteSpace) (anyOf [separators, those [0x0A, 0x0D]])
  | lower => lowerLetters
  | upper => upperLetters
  | otherLetter =>
    Ranges.diff (anyOf [having Property.alphabetic, those [0x5F3]])
      (anyOf [lowerLetters, upperLetters, extending])
  | numeric => Segmentation.numeric
  | fullStop => fullStops
  | continues =>
    those [0x2C, 0x2D, 0x3A, 0x55D, 0x60C, 0x60D, 0x7F8, 0x1802, 0x1808, 0x2013, 0x2014, 0x3001,
      0xFE10, 0xFE11, 0xFE13, 0xFE31, 0xFE32, 0xFE50, 0xFE51, 0xFE55, 0xFE58, 0xFE63, 0xFF0C,
      0xFF0D, 0xFF1A, 0xFF64]
  | terminal => terminals
  | closing =>
    Ranges.diff
      (anyOf [inCategories ["Ps", "Pe", "Pi", "Pf"],
        [(0x22, 0x22), (0x27, 0x27), (0x275B, 0x2760), (0x2E00, 0x2E01), (0x2E06, 0x2E08),
          (0x2E0B, 0x2E0B), (0x1F676, 0x1F678)]])
      (anyOf [fullStops, terminals])

end SentenceBreak

end Bindery.Unicode
