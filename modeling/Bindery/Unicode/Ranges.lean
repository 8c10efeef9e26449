import Bindery.Text.Numeral

/-!
# Bindery — Unicode — Ranges

Sets of code points as lists of ranges in ascending order, and the written form that the tables
of this library use: numbers in base 36 with a blank between them, which say by turns how many
code points to skip and how many to take.
-/

namespace Bindery.Unicode

open Bindery.Text

/-- Ranges of code points, first and last, in ascending order and apart from each other. -/
abbrev Ranges := List (Nat × Nat)

/-- The last code point. -/
def lastCode : Nat := 0x10FFFF

/-- The texts between the spaces and line ends of a text. -/
def words (s : String) : List String :=
  (go s.toList [] []).reverse
where
  /-- Goes on with the word read so far and the words before it, the latest first. -/
  go : List Char → List Char → List String → List String
    | [], [], done => done
    | [], cs, done => String.ofList cs.reverse :: done
    | c :: rest, cs, done =>
      if c = ' ' ∨ c = '\n' then
        go rest [] (if cs.isEmpty then done else String.ofList cs.reverse :: done)
      else go rest (c :: cs) done

/-- The value of a number in base 36. -/
def number (s : String) : Nat :=
  (natOfDigits? 36 s.toList).getD 0

/-- The ranges that a list of skipped and taken counts gives, from a code point on. -/
def rangesFrom (start : Nat) : List Nat → Ranges
  | skip :: take :: rest =>
    let lo := start + skip
    (lo, lo + take - 1) :: rangesFrom (lo + take) rest
  | _ => []

/-- The ranges that a written form gives. -/
def readRanges (s : String) : Ranges :=
  rangesFrom 0 ((words s).map number)

namespace Ranges

/-- Ranges with one more in front; it is joined to the next one where they touch. -/
def join (lo hi : Nat) : Ranges → Ranges
  | [] => [(lo, hi)]
  | (a, b) :: rest =>
    if a ≤ hi + 1 then join (min lo a) (max hi b) rest else (lo, hi) :: (a, b) :: rest

/-- Ranges in any order, put into ascending order and joined where they touch. -/
def ofList (rs : List (Nat × Nat)) : Ranges :=
  (rs.mergeSort fun x y => x.1 ≤ y.1).foldr (fun r acc => join r.1 r.2 acc) []

/-- The code points in either of two sets. -/
def union (a b : Ranges) : Ranges :=
  ofList (a ++ b)

/-- The code points from one on that are not in a set. -/
def gaps (start : Nat) : Ranges → Ranges
  | [] => if start ≤ lastCode then [(start, lastCode)] else []
  | (lo, hi) :: rest =>
    if start < lo then (start, lo - 1) :: gaps (hi + 1) rest else gaps (max start (hi + 1)) rest

/-- The code points that are not in a set. -/
def complement (a : Ranges) : Ranges :=
  gaps 0 a

/-- The code points in both of two sets. -/
def inter (a b : Ranges) : Ranges :=
  complement (union (complement a) (complement b))

/-- The code points of one set that are not in another. -/
def diff (a b : Ranges) : Ranges :=
  inter a (complement b)

/-- The code points in one of two sets but not in both. -/
def symmDiff (a b : Ranges) : Ranges :=
  union (diff a b) (diff b a)

/-- Whether a code point is in a set. -/
def mem (n : Nat) (a : Ranges) : Bool :=
  a.any fun (lo, hi) => lo ≤ n && n ≤ hi

end Ranges

/-- A set of code points that is searched by halving. -/
structure CodeSet where
  ranges : Array (Nat × Nat)
deriving Inhabited

namespace CodeSet

/-- The set that ranges give. -/
def ofRanges (a : Ranges) : CodeSet := ⟨a.toArray⟩

/-- Whether a code point is in one of the ranges from `lo` up to but not including `hi`. -/
def searched (s : CodeSet) (n lo hi : Nat) : Bool :=
  if lo < hi then
    let mid := (lo + hi) / 2
    match s.ranges[mid]? with
    | none => false
    | some (a, b) =>
      if n < a then s.searched n lo mid
      else if b < n then s.searched n (mid + 1) hi
      else true
  else false
termination_by hi - lo

/-- Whether a code point is in a set. -/
def contains (s : CodeSet) (n : Nat) : Bool :=
  s.searched n 0 s.ranges.size

end CodeSet

end Bindery.Unicode
