import Bindery.Regex.Pattern
import Bindery.Unicode.Age
import Bindery.Unicode.Folding
import Bindery.Unicode.Property
import Bindery.Unicode.Script
import Bindery.Unicode.Segmentation

/-!
# Bindery — Regex — Class

The code points that a class stands for.  With the flag `u` classes are sets of code points;
without it they are sets of bytes, and one that holds a byte past 127 is refused, because it
could match a part of a character.  Where case does not matter a class is closed under folding
before it is negated and before it is combined with another one.
-/

namespace Bindery.Regex

open Bindery.Unicode

/-- What a class depends on. -/
structure ClassMode where
  unicode : Bool
  caseInsensitive : Bool

/-- Drops a leading `is` in any case. -/
def dropIs : List Char → Bool × List Char
  | 'i' :: 's' :: cs => (true, cs)
  | 'I' :: 's' :: cs => (true, cs)
  | 'i' :: 'S' :: cs => (true, cs)
  | 'I' :: 'S' :: cs => (true, cs)
  | cs => (false, cs)

/-- The name of a property or of one of its values as names are compared: without `is` in front,
blanks, low lines and hyphens, in lower case.  The name `isc` stands for itself. -/
def looseName (s : String) : String :=
  let (hadIs, cs) := dropIs s.toList
  let kept := cs.filter fun c => c ≠ ' ' && c ≠ '_' && c ≠ '-' && c.toNat < 0x80
  let name := String.ofList (kept.map Char.toLower)
  if hadIs && name = "c" then "isc" else name

/-- The short name of the entry that has a name. -/
def shortName? (names : List (List String)) (loose : String) : Option String :=
  (names.find? fun ns => ns.any fun n => looseName n = loose).bind List.head?

/-- The code points of a general category or group, and of the three sets that are asked for in
the same way. -/
def categoryRanges? (loose : String) : Option Ranges :=
  if loose = "any" then some [(0, lastCode)]
  else if loose = "assigned" then some (Ranges.complement (Category.ranges "Cn"))
  else if loose = "ascii" then some [(0, 0x7F)]
  else (shortName? Category.names loose).map Category.ranges

/-- The value whose name is one of those that are listed with it. -/
def namedValue? {α : Type} (values : List (List String × α)) (loose : String) : Option α :=
  (values.find? fun v => v.1.any fun n => looseName n = loose).map Prod.snd

/-- The code points that have a property. -/
def propertyRanges? (loose : String) : Option Ranges :=
  (namedValue? Property.table loose).map readRanges

/-- The code points of a name: a property, a general category or a script, in that order; three
short names are those of categories first. -/
def namedRanges? (name : String) : Option Ranges :=
  let loose := looseName name
  let property? :=
    if loose = "cf" ∨ loose = "sc" ∨ loose = "lc" then none else propertyRanges? loose
  property?.or <| (categoryRanges? loose).or <|
    (shortName? Script.names loose).map Script.ranges

/-- The code points that were assigned by a version of Unicode. -/
def ageRanges? (loose : String) : Option Ranges :=
  (Age.versions.find? fun v => (Age.names v).any fun n => looseName n = loose).map Age.ranges

/-- The code points that have a value of a property. -/
def valuedRanges? (name value : String) : Option Ranges :=
  let loose := looseName name
  let value := looseName value
  if loose = "generalcategory" ∨ loose = "gc" then categoryRanges? value
  else if loose = "script" ∨ loose = "sc" then (shortName? Script.names value).map Script.ranges
  else if loose = "scriptextensions" ∨ loose = "scx" then
    (shortName? Script.names value).map Script.extensionRanges
  else if loose = "age" then ageRanges? value
  else if loose = "graphemeclusterbreak" ∨ loose = "gcb" then
    (namedValue? GraphemeBreak.names value).map GraphemeBreak.ranges
  else if loose = "wordbreak" ∨ loose = "wb" then
    (namedValue? WordBreak.names value).map WordBreak.ranges
  else if loose = "sentencebreak" ∨ loose = "sb" then
    (namedValue? SentenceBreak.names value).map SentenceBreak.ranges
  else none

/-- The code points that a query asks for. -/
def PropertyQuery.ranges? : PropertyQuery → Option Ranges
  | .name n => namedRanges? n
  | .value n v => valuedRanges? n v
  | .notValue n v => (valuedRanges? n v).map Ranges.complement

/-- The code points of a class with a name between colons. -/
def AsciiClass.ranges : AsciiClass → Ranges
  | .alnum => [(0x30, 0x39), (0x41, 0x5A), (0x61, 0x7A)]
  | .alpha => [(0x41, 0x5A), (0x61, 0x7A)]
  | .ascii => [(0, 0x7F)]
  | .blank => [(9, 9), (0x20, 0x20)]
  | .cntrl => [(0, 0x1F), (0x7F, 0x7F)]
  | .digit => [(0x30, 0x39)]
  | .graph => [(0x21, 0x7E)]
  | .lower => [(0x61, 0x7A)]
  | .print => [(0x20, 0x7E)]
  | .punct => [(0x21, 0x2F), (0x3A, 0x40), (0x5B, 0x60), (0x7B, 0x7E)]
  | .space => [(9, 13), (0x20, 0x20)]
  | .upper => [(0x41, 0x5A)]
  | .word => [(0x30, 0x39), (0x41, 0x5A), (0x5F, 0x5F), (0x61, 0x7A)]
  | .xdigit => [(0x30, 0x39), (0x41, 0x46), (0x61, 0x66)]

/-- The word characters: letters, marks, decimal digits, connectors and join controls. -/
def wordRanges : Ranges :=
  Ranges.ofList (readRanges Property.alphabetic ++ Category.ranges "M" ++ Category.ranges "Nd" ++
    Category.ranges "Pc" ++ readRanges Property.joinControl)

/-- The code points of a class with a letter. -/
def LetterClass.ranges (unicode : Bool) : LetterClass → Ranges
  | .digit => if unicode then Category.ranges "Nd" else AsciiClass.digit.ranges
  | .blank => if unicode then readRanges Property.whiteSpace else AsciiClass.space.ranges
  | .word => if unicode then wordRanges else AsciiClass.word.ranges

/-- Bytes closed under the case of ASCII letters. -/
def foldBytes (a : Ranges) : Ranges :=
  let upper := Ranges.inter a [(0x41, 0x5A)]
  let lower := Ranges.inter a [(0x61, 0x7A)]
  Ranges.ofList (a ++ upper.map (fun r => (r.1 + 32, r.2 + 32)) ++
    lower.map fun r => (r.1 - 32, r.2 - 32))

namespace ClassMode

/-- A class closed under folding, where case does not matter. -/
def fold (m : ClassMode) (a : Ranges) : Ranges :=
  if m.caseInsensitive then
    if m.unicode then Folding.close a else foldBytes a
  else a

/-- A class negated within the code points or the bytes. -/
def negate (m : ClassMode) (negated : Bool) (a : Ranges) : Ranges :=
  if negated then
    if m.unicode then Ranges.complement a else Ranges.diff [(0, 0xFF)] a
  else a

/-- A class, unless it could match a part of a character. -/
def check (m : ClassMode) (a : Ranges) : Option Ranges :=
  if m.unicode || a.all (fun r => r.2 ≤ 0x7F) then some a else none

/-- The code of a literal in a class. -/
def code? (m : ClassMode) (l : Literal) : Option Nat :=
  let n := l.char.toNat
  if m.unicode ∨ n ≤ 0x7F then some n else none

/-- The class of a letter. -/
def letter? (m : ClassMode) (c : LetterClass) (negated : Bool) : Option Ranges :=
  m.check (m.negate negated (c.ranges m.unicode))

/-- The class of a property; bytes have none. -/
def property? (m : ClassMode) (q : PropertyQuery) (negated : Bool) : Option Ranges :=
  if m.unicode then q.ranges?.map fun a => m.negate negated (m.fold a) else none

end ClassMode

mutual
/-- The code points of what stands between brackets, before it is folded. -/
def ClassSet.ranges? (m : ClassMode) : ClassSet → Option Ranges
  | .item i => i.ranges? m
  | .operation op l r =>
    match l.ranges? m, r.ranges? m with
    | some a, some b =>
      let a := m.fold a
      let b := m.fold b
      some <| match op with
        | .intersection => Ranges.inter a b
        | .difference => Ranges.diff a b
        | .symmetricDifference => Ranges.symmDiff a b
    | _, _ => none

/-- The code points of a part of a class. -/
def ClassItem.ranges? (m : ClassMode) : ClassItem → Option Ranges
  | .empty => some []
  | .literal l => (m.code? l).map fun n => [(n, n)]
  | .range a b =>
    match m.code? a, m.code? b with
    | some lo, some hi => some [(lo, hi)]
    | _, _ => none
  | .ascii c negated => m.check (m.negate negated (m.fold c.ranges))
  | .letter c negated => m.letter? c negated
  | .property q negated => m.property? q negated
  | .bracketed negated s =>
    (s.ranges? m).bind fun a => m.check (m.negate negated (m.fold (Ranges.ofList a)))
  | .union items => itemsRanges? m items

/-- The code points of some parts of a class. -/
def itemsRanges? (m : ClassMode) : List ClassItem → Option Ranges
  | [] => some []
  | i :: rest =>
    match i.ranges? m, itemsRanges? m rest with
    | some a, some b => some (Ranges.union a b)
    | _, _ => none
end

/-- The code points of a bracketed class. -/
def bracketedRanges? (m : ClassMode) (negated : Bool) (s : ClassSet) : Option Ranges :=
  (s.ranges? m).bind fun a => m.check (m.negate negated (m.fold (Ranges.ofList a)))

end Bindery.Regex
