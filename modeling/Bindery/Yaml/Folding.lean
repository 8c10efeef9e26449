import Bindery.Yaml.Spot

/-!
# Bindery — Yaml — Folding

The text of a scalar that runs over several lines.  Blanks within a line are kept; a single line
break between two lines becomes a space, and of more than one the first is left out.  Blanks
around line breaks are dropped.  What stands between two words is kept as a `Gap` until the next
character shows that it is inside the scalar.
-/

namespace Bindery.Yaml

/-- What stands before the next character: blanks within a line, or line breaks, the first one
unless it was escaped and the others.  Both lists have the latest first. -/
inductive Gap where
  | within (blanks : List Char)
  | across (first : Option Char) (more : List Char)

namespace Gap

/-- Nothing between two characters. -/
def empty : Gap := .within []

/-- One more blank; after a line break it does not count. -/
def blank (c : Char) : Gap → Gap
  | .within blanks => .within (c :: blanks)
  | g => g

/-- One more line break. -/
def lineBreak (c : Char) : Gap → Gap
  | .within _ => .across (some c) []
  | .across first more => .across first (c :: more)

/-- Whether there is a line break in a gap. -/
def isAcross : Gap → Bool
  | .within _ => false
  | .across _ _ => true

/-- Whether nothing stands in a gap. -/
def isEmpty : Gap → Bool
  | .within [] => true
  | _ => false

/-- What a gap reads as, the latest character first. -/
def folded : Gap → List Char
  | .within blanks => blanks
  | .across (some '\n') [] => [' ']
  | .across (some '\n') more => more
  | .across (some c) more => more ++ [c]
  | .across none more => more

end Gap

/-- A scalar as far as it has been read, the latest character first, and the gap after it. -/
structure Folded where
  chars : List Char
  gap : Gap

namespace Folded

/-- A scalar of which nothing has been read. -/
def start : Folded := ⟨[], .empty⟩

/-- The characters with those of the gap. -/
def joined (f : Folded) : List Char :=
  f.gap.folded ++ f.chars

/-- One more character that is neither a blank nor a break. -/
def put (f : Folded) (c : Char) : Folded :=
  ⟨c :: f.joined, .empty⟩

/-- One more blank. -/
def blank (f : Folded) (c : Char) : Folded :=
  { f with gap := f.gap.blank c }

/-- One more line break. -/
def lineBreak (f : Folded) (c : Char) : Folded :=
  { f with gap := f.gap.lineBreak c }

/-- A line break that is escaped. -/
def escapedBreak (f : Folded) : Folded :=
  ⟨f.joined, .across none []⟩

/-- The text without the gap after it. -/
def text (f : Folded) : String :=
  String.ofList f.chars.reverse

/-- The text with the gap after it. -/
def wholeText (f : Folded) : String :=
  String.ofList f.joined.reverse

end Folded

end Bindery.Yaml
