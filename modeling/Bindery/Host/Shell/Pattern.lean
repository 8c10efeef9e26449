/-!
# Bindery — Host — Shell — Pattern

Patterns for names: a star stands for any text, a question mark for any character, and brackets
for one of some characters.  A character that was quoted stands for itself.  `Pattern.suits`
says whether a pattern is for a whole text.
-/

namespace Bindery.Shell

/-- A character of a pattern, and whether it was quoted. -/
structure Sign where
  char : Char
  isLiteral : Bool

/-- What stands for part of a text. -/
inductive Wildcard where
  | one (c : Char)
  | anyOne
  | anyText
  | oneOf (negated : Bool) (ranges : List (Char × Char))

/-- A pattern. -/
abbrev Pattern := List Wildcard

namespace Pattern

/-- The characters of a named class. -/
def classOf? (name : String) : Option (List (Char × Char)) :=
  match name with
  | "alpha" => some [('a', 'z'), ('A', 'Z')]
  | "digit" => some [('0', '9')]
  | "alnum" => some [('a', 'z'), ('A', 'Z'), ('0', '9')]
  | "upper" => some [('A', 'Z')]
  | "lower" => some [('a', 'z')]
  | "space" => some [('\t', '\r'), (' ', ' ')]
  | "blank" => some [('\t', '\t'), (' ', ' ')]
  | "punct" => some [('!', '/'), (':', '@'), ('[', '\x60'), ('\x7b', '~')]
  | "xdigit" => some [('0', '9'), ('a', 'f'), ('A', 'F')]
  | "print" => some [(' ', '~')]
  | "graph" => some [('!', '~')]
  | "cntrl" => some [('\x00', '\x1f'), ('\x7f', '\x7f')]
  | _ => none

/-- A class in brackets within brackets, after the first two characters: its ranges and the
rest. -/
def readClass? (ss : List Sign) : Option (List (Char × Char) × List Sign) :=
  let name := ss.takeWhile fun s => s.char.isLower
  match ss.dropWhile fun s => s.char.isLower with
  | ⟨':', _⟩ :: ⟨']', _⟩ :: rest =>
    (classOf? (String.ofList (name.map Sign.char))).map fun ranges => (ranges, rest)
  | _ => none

/-- The ranges of a bracket up to the one that closes it, and the rest; `first` says whether a
closing bracket would be the first character and so stand for itself. -/
def readRanges? : Nat → Bool → List Sign → Option (List (Char × Char) × List Sign)
  | 0, _, _ => none
  | _, _, [] => none
  | fuel + 1, first, s :: rest =>
    if s.char = ']' ∧ !s.isLiteral ∧ !first then some ([], rest)
    else
      let named := match rest with
        | ⟨':', false⟩ :: more => if s.char = '[' ∧ !s.isLiteral then readClass? more else none
        | _ => none
      match named with
      | some (ranges, more) =>
        (readRanges? fuel false more).map fun (rs, rest) => (ranges ++ rs, rest)
      | none =>
        match rest with
        | ⟨'-', false⟩ :: t :: more =>
          if t.char = ']' ∧ !t.isLiteral then
            (readRanges? fuel false rest).map fun (rs, rest) => ((s.char, s.char) :: rs, rest)
          else
            (readRanges? fuel false more).map fun (rs, rest) => ((s.char, t.char) :: rs, rest)
        | _ => (readRanges? fuel false rest).map fun (rs, rest) => ((s.char, s.char) :: rs, rest)

/-- A bracket after its first character, and the rest. -/
def readBracket? (ss : List Sign) : Option (Wildcard × List Sign) :=
  let (negated, ss) := match ss with
    | ⟨'!', false⟩ :: rest => (true, rest)
    | ⟨'^', false⟩ :: rest => (true, rest)
    | ss => (false, ss)
  (readRanges? (ss.length + 1) true ss).map fun (ranges, rest) => (.oneOf negated ranges, rest)

/-- The pattern that characters are.  A bracket that is not closed stands for itself. -/
def read : Nat → List Sign → Pattern
  | 0, _ => []
  | _, [] => []
  | fuel + 1, s :: rest =>
    if s.isLiteral then .one s.char :: read fuel rest
    else if s.char = '*' then .anyText :: read fuel rest
    else if s.char = '?' then .anyOne :: read fuel rest
    else if s.char = '[' then
      match readBracket? rest with
      | some (w, rest) => w :: read fuel rest
      | none => .one '[' :: read fuel rest
    else .one s.char :: read fuel rest

/-- The pattern that characters are. -/
def ofSigns (ss : List Sign) : Pattern :=
  read ss.length ss

/-- Whether a character of a pattern can stand for others. -/
def isWild (s : Sign) : Bool :=
  !s.isLiteral && (s.char = '*' || s.char = '?' || s.char = '[')

/-- Whether a wildcard stands for a character. -/
def admits : Wildcard → Char → Bool
  | .one c, d => c = d
  | .anyOne, _ => true
  | .anyText, _ => true
  | .oneOf negated ranges, d => negated != ranges.any fun (lo, hi) => lo ≤ d && d ≤ hi

/-- Whether a pattern is for a text. -/
def suits (p : Pattern) (s : List Char) : Bool :=
  match p, s with
  | [], [] => true
  | [], _ :: _ => false
  | .anyText :: p, [] => suits p []
  | .anyText :: p, c :: s => suits p (c :: s) || suits (.anyText :: p) s
  | _ :: _, [] => false
  | w :: p, c :: s => admits w c && suits p s
termination_by p.length + s.length

/-- The text without the shortest or longest start that suits a pattern. -/
def cutFront (longest : Bool) (p : Pattern) (s : List Char) : List Char :=
  let sizes := List.range (s.length + 1)
  let sizes := if longest then sizes.reverse else sizes
  match sizes.find? fun n => suits p (s.take n) with
  | some n => s.drop n
  | none => s

/-- The text without the shortest or longest end that suits a pattern. -/
def cutBack (longest : Bool) (p : Pattern) (s : List Char) : List Char :=
  let sizes := List.range (s.length + 1)
  let sizes := if longest then sizes else sizes.reverse
  match sizes.find? fun n => suits p (s.drop n) with
  | some n => s.take n
  | none => s

end Pattern

end Bindery.Shell
