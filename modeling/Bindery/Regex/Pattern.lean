/-!
# Bindery — Regex — Pattern

Regular expressions as they are written.  `Pattern.nesting` is the greatest number of operators
that stand inside each other; a sequence and an alternation count where they have more than one
part.
-/

namespace Bindery.Regex

/-- A switch that changes how what follows it is taken. -/
inductive Flag where
  | caseInsensitive
  | multiLine
  | dotAll
  | swapGreed
  | unicode
  | crlf
  | ignoreBlanks
deriving DecidableEq, Repr

/-- The letter of a flag. -/
def Flag.ofChar? : Char → Option Flag
  | 'i' => some .caseInsensitive
  | 'm' => some .multiLine
  | 's' => some .dotAll
  | 'U' => some .swapGreed
  | 'u' => some .unicode
  | 'R' => some .crlf
  | 'x' => some .ignoreBlanks
  | _ => none

/-- Flags switched on or off, in the order in which they are written. -/
abbrev Switches := List (Flag × Bool)

/-- How a flag is switched, when it is. -/
def Switches.state? (f : Flag) (s : Switches) : Option Bool :=
  s.lookup f

/-- A character, and whether it was written as a byte of two hexadecimal digits. -/
structure Literal where
  char : Char
  isByte : Bool
deriving DecidableEq, Repr

/-- A test of the place between two characters. -/
inductive Assertion where
  | startLine
  | endLine
  | startText
  | endText
  | wordBoundary
  | notWordBoundary
  | wordStart
  | wordEnd
  | wordStartHalf
  | wordEndHalf
deriving DecidableEq, Repr

/-- A class with a letter of its own: digits, blanks or word characters. -/
inductive LetterClass where
  | digit
  | blank
  | word
deriving DecidableEq, Repr

/-- A class named between `[:` and `:]`. -/
inductive AsciiClass where
  | alnum
  | alpha
  | ascii
  | blank
  | cntrl
  | digit
  | graph
  | lower
  | print
  | punct
  | space
  | upper
  | word
  | xdigit
deriving DecidableEq, Repr

/-- The class that a name stands for. -/
def AsciiClass.ofName? : String → Option AsciiClass
  | "alnum" => some .alnum
  | "alpha" => some .alpha
  | "ascii" => some .ascii
  | "blank" => some .blank
  | "cntrl" => some .cntrl
  | "digit" => some .digit
  | "graph" => some .graph
  | "lower" => some .lower
  | "print" => some .print
  | "punct" => some .punct
  | "space" => some .space
  | "upper" => some .upper
  | "word" => some .word
  | "xdigit" => some .xdigit
  | _ => none

/-- A property of code points as it is asked for. -/
inductive PropertyQuery where
  | name (name : String)
  | value (name value : String)
  | notValue (name value : String)
deriving DecidableEq, Repr

/-- An operation on two classes. -/
inductive ClassOperation where
  | intersection
  | difference
  | symmetricDifference
deriving DecidableEq, Repr

mutual
/-- What stands between brackets. -/
inductive ClassSet where
  | item (i : ClassItem)
  | operation (op : ClassOperation) (left right : ClassSet)

/-- A part of a class. -/
inductive ClassItem where
  | empty
  | literal (l : Literal)
  | range (first last : Literal)
  | ascii (c : AsciiClass) (negated : Bool)
  | letter (c : LetterClass) (negated : Bool)
  | property (q : PropertyQuery) (negated : Bool)
  | bracketed (negated : Bool) (set : ClassSet)
  | union (items : List ClassItem)
end

instance : Inhabited ClassItem := ⟨.empty⟩

/-- What a group is for. -/
inductive GroupKind where
  | capture (index : Nat)
  | flagged (s : Switches)
deriving Repr

/-- A regular expression as it is written. -/
inductive Pattern where
  | empty
  | flags (s : Switches)
  | literal (l : Literal)
  | dot
  | assertion (a : Assertion)
  | letter (c : LetterClass) (negated : Bool)
  | property (q : PropertyQuery) (negated : Bool)
  | bracketed (negated : Bool) (set : ClassSet)
  | repetition (least : Nat) (most : Option Nat) (greedy : Bool) (p : Pattern)
  | group (kind : GroupKind) (p : Pattern)
  | alternation (ps : List Pattern)
  | concat (ps : List Pattern)

instance : Inhabited Pattern := ⟨.empty⟩

mutual
/-- The nesting of what stands between brackets. -/
def ClassSet.nesting : ClassSet → Nat
  | .item i => i.nesting
  | .operation _ l r => max l.nesting r.nesting + 1

/-- The nesting of a part of a class. -/
def ClassItem.nesting : ClassItem → Nat
  | .bracketed _ s => s.nesting + 1
  | .union items => itemsNesting items + 1
  | _ => 0

/-- The greatest nesting of some parts of a class. -/
def itemsNesting : List ClassItem → Nat
  | [] => 0
  | i :: rest => max i.nesting (itemsNesting rest)
end

mutual
/-- How many operators of a pattern stand inside each other at most. -/
def Pattern.nesting : Pattern → Nat
  | .bracketed _ s => s.nesting + 1
  | .repetition _ _ _ p => p.nesting + 1
  | .group _ p => p.nesting + 1
  | .alternation ps => patternsNesting ps + 1
  | .concat ps => patternsNesting ps + 1
  | _ => 0

/-- The greatest nesting of some patterns. -/
def patternsNesting : List Pattern → Nat
  | [] => 0
  | p :: rest => max p.nesting (patternsNesting rest)
end

/-- The items of a class as one item. -/
def ClassItem.ofList : List ClassItem → ClassItem
  | [] => .empty
  | [i] => i
  | items => .union items

/-- Patterns one after the other as one pattern. -/
def Pattern.ofSequence : List Pattern → Pattern
  | [] => .empty
  | [p] => p
  | ps => .concat ps

end Bindery.Regex
