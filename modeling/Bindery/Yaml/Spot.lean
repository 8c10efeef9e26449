import Bindery.Text.Numeral

/-!
# Bindery — Yaml — Spot

The characters of a YAML text, each with the line and the column where it stands.  Every line
break but a line or paragraph separator is written `\n`, so that one character is one break, and
a byte order mark at the start is left out (`spots?`).  A character that is not printable has no
place in a text (`isPrintable`).
-/

namespace Bindery.Yaml

/-- A character and where it stands. -/
structure Spot where
  char : Char
  line : Nat
  column : Nat

/-- The line breaks: a line feed, and the line and paragraph separators. -/
def isBreak (c : Char) : Bool :=
  c = '\n' || c = '\u2028' || c = '\u2029'

/-- A space or a tab. -/
def isBlank (c : Char) : Bool :=
  c = ' ' || c = '\t'

/-- A character that may stand in a text. -/
def isPrintable (c : Char) : Bool :=
  let n := c.toNat
  n == 0x09 || n == 0x0A || n == 0x0D || (0x20 ≤ n && n ≤ 0x7E) || n == 0x85 ||
    (0xA0 ≤ n && n ≤ 0xD7FF) || (0xE000 ≤ n && n ≤ 0xFFFD) || 0x10000 ≤ n

/-- A character of a name: an ASCII letter or digit, `_` or `-`. -/
def isNameChar (c : Char) : Bool :=
  c.isAlphanum || c = '_' || c = '-'

/-- Characters with every line break that is a line feed in effect written as one. -/
def plainBreaks : List Char → List Char
  | [] => []
  | '\r' :: '\n' :: cs => '\n' :: plainBreaks cs
  | c :: cs => (if c = '\r' ∨ c = '\u0085' then '\n' else c) :: plainBreaks cs

/-- Characters with their places, from a place on. -/
def placed (line column : Nat) : List Char → List Spot
  | [] => []
  | c :: cs =>
    ⟨c, line, column⟩ :: if isBreak c then placed (line + 1) 0 cs else placed line (column + 1) cs

/-- Characters without a byte order mark in front. -/
def withoutMark : List Char → List Char
  | '\uFEFF' :: cs => cs
  | cs => cs

/-- The characters of a text with their places; none when one of them is not printable. -/
def spots? (s : String) : Option (List Spot) :=
  let cs := withoutMark s.toList
  if cs.all isPrintable then some (placed 0 0 (plainBreaks cs)) else none

/-- Whether the next character is `c`. -/
def nextIs (c : Char) : List Spot → Bool
  | [] => false
  | s :: _ => s.char = c

/-- Whether the next character is a blank or a break, or there is none. -/
def nextIsGap : List Spot → Bool
  | [] => true
  | s :: _ => isBlank s.char || isBreak s.char

/-- Whether a line starts here with a character three times, and then a gap. -/
def isMarker (c : Char) : List Spot → Bool
  | s :: t :: u :: rest =>
    s.column = 0 && s.char = c && t.char = c && u.char = c && nextIsGap rest
  | _ => false

/-- Whether a document starts or ends here: a line with `---` or `...`. -/
def isDocumentMarker (ss : List Spot) : Bool :=
  isMarker '-' ss || isMarker '.' ss

/-- The characters up to the first that is not as `p` says, and what comes from there on. -/
def span (p : Char → Bool) (ss : List Spot) : List Char × List Spot :=
  ((ss.takeWhile fun s => p s.char).map Spot.char, ss.dropWhile fun s => p s.char)

/-- What comes after blanks. -/
def skipBlanks (ss : List Spot) : List Spot :=
  ss.dropWhile fun s => isBlank s.char

/-- What comes after the rest of a line, which may only hold blanks and a comment. -/
def endLine? (ss : List Spot) : Option (List Spot) :=
  match skipBlanks ss with
  | [] => some []
  | s :: rest =>
    if s.char = '#' then
      some ((rest.dropWhile fun s => !isBreak s.char).drop 1)
    else if isBreak s.char then some rest
    else none

end Bindery.Yaml
