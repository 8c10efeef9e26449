import Bindery.Yaml.Spot

/-!
# Bindery — Yaml — Block

Scalars of indented lines.  A header tells whether line breaks are folded, what becomes of the
last ones, and perhaps how far the lines are indented; otherwise the first line that is not empty
tells.  When breaks are folded, a single one between two lines becomes a space unless one of the
lines starts with a blank.
-/

namespace Bindery.Yaml

/-- What becomes of the line breaks at the end. -/
inductive Chomping where
  | strip
  | clip
  | keep

/-- The header of a block scalar. -/
structure BlockHeader where
  chomping : Chomping
  indentation : Option Nat

/-- The chomping that a sign stands for. -/
def chomping? : Char → Option Chomping
  | '+' => some .keep
  | '-' => some .strip
  | _ => none

/-- A chomping sign, if there is one, and what comes after it. -/
def takeChomping : List Spot → Option Chomping × List Spot
  | [] => (none, [])
  | s :: rest =>
    match chomping? s.char with
    | some c => (some c, rest)
    | none => (none, s :: rest)

/-- A digit that tells the indentation, if there is one, and what comes after it.  Zero is
none. -/
def takeIndentation? : List Spot → Option (Option Nat × List Spot)
  | [] => some (none, [])
  | s :: rest =>
    if s.char = '0' then none
    else if s.char.isDigit then some (some (s.char.toNat - '0'.toNat), rest)
    else some (none, s :: rest)

/-- Reads the header of a block scalar, with the rest of its line. -/
def readBlockHeader? (ss : List Spot) : Option (BlockHeader × List Spot) :=
  let (before, ss) := takeChomping ss
  (takeIndentation? ss).bind fun (indentation, ss) =>
    let (after, ss) :=
      if before.isNone && indentation.isSome then takeChomping ss else (none, ss)
    (endLine? ss).map fun ss =>
      (⟨(before.orElse fun _ => after).getD .clip, indentation⟩, ss)

/-- How far the first lines are indented, of which all but the last are empty; at least
`least`.  There may be no tab in an indentation. -/
def findIndentation? (least : Nat) : List Spot → Option Nat
  | [] => some least
  | s :: rest =>
    if s.char = ' ' then findIndentation? least rest
    else if s.char = '\t' then none
    else if isBreak s.char then findIndentation? (max least s.column) rest
    else some (max least s.column)

/-- A block scalar as far as it has been read, the latest character first.  After a line,
`lastBreak` is the break that ends it and `emptyLines` are those that follow. -/
structure Block where
  chars : List Char
  inLine : Bool
  startsBlank : Bool
  lastBreak : Option Char
  emptyLines : List Char

namespace Block

/-- A block of which nothing has been read. -/
def start : Block := ⟨[], false, false, none, []⟩

/-- The characters with the line breaks that follow, as they stand. -/
def withBreaks (b : Block) : List Char :=
  b.emptyLines ++ (b.lastBreak.toList ++ b.chars)

/-- The first character of a line. -/
def beginLine (b : Block) (folds : Bool) (c : Char) : Block :=
  let joins := folds && b.lastBreak = some '\n' && !b.startsBlank && !isBlank c
  let chars :=
    if joins then (if b.emptyLines.isEmpty then [' '] else b.emptyLines) ++ b.chars
    else b.withBreaks
  ⟨c :: chars, true, isBlank c, none, []⟩

/-- A further character of a line. -/
def put (b : Block) (c : Char) : Block :=
  { b with chars := c :: b.chars }

/-- The break that ends a line. -/
def endLine (b : Block) (c : Char) : Block :=
  { b with inLine := false, lastBreak := some c }

/-- A line with nothing in it. -/
def emptyLine (b : Block) (c : Char) : Block :=
  { b with emptyLines := c :: b.emptyLines }

/-- The text of a block. -/
def text (b : Block) (chomping : Chomping) : String :=
  let chars := match chomping with
    | .strip => b.chars
    | .clip => b.lastBreak.toList ++ b.chars
    | .keep => b.withBreaks
  String.ofList chars.reverse

/-- Reads on in a block whose lines are indented by some columns: what it is, and what comes
after it. -/
def read? (folds : Bool) (indentation : Nat) (b : Block) : List Spot → Option (Block × List Spot)
  | [] => some (b, [])
  | s :: rest =>
    if b.inLine then
      if isBreak s.char then read? folds indentation (b.endLine s.char) rest
      else read? folds indentation (b.put s.char) rest
    else if s.column < indentation && s.char = ' ' then read? folds indentation b rest
    else if s.column < indentation && s.char = '\t' then none
    else if isBreak s.char then read? folds indentation (b.emptyLine s.char) rest
    else if s.column = indentation then
      read? folds indentation (b.beginLine folds s.char) rest
    else some (b, s :: rest)

end Block

/-- Reads a block scalar after its first character, inside a collection whose lines leave
`margin` columns free. -/
def readBlock? (folds : Bool) (margin : Nat) (ss : List Spot) : Option (String × List Spot) :=
  (readBlockHeader? ss).bind fun (header, ss) =>
    let indentation? := match header.indentation with
      | some n => some (margin - 1 + n)
      | none => findIndentation? (max margin 1) ss
    indentation?.bind fun indentation =>
      (Block.start.read? folds indentation ss).map fun (b, rest) =>
        (b.text header.chomping, rest)

end Bindery.Yaml
