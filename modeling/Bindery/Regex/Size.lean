import Bindery.Regex.Node

/-!
# Bindery — Regex — Size

How large the automaton of a regular expression over the bytes of UTF-8 is.  A state counts 32
bytes, an edge out of a choice four, and an edge out of a set of bytes eight.  A set of code
points is counted as the automaton that reads its sequences of bytes, with the beginnings that
sequences share counted once.  Repetitions are counted with all their copies, so a short text can
have a large automaton; past `sizeLimit` it is refused.
-/

namespace Bindery.Regex

open Bindery.Unicode

/-- The greatest size of an automaton. -/
def sizeLimit : Nat := 10485760

/-- A sequence of ranges of bytes. -/
abbrev ByteRanges := List (Nat × Nat)

/-- The bytes of a code point. -/
def bytesOf (n : Nat) : List Nat :=
  (String.utf8EncodeChar (Char.ofNat n)).map UInt8.toNat

/-- The place where a range of code points has to be cut: after a code point where the number of
bytes changes, around the surrogates, and where the last bytes of its ends do not cover every
value. -/
def cut? (lo hi : Nat) : Option (Nat × Nat) :=
  if lo < 0xE000 ∧ 0xD7FF < hi then some (0xD7FF, 0xE000)
  else if lo ≤ 0x7F ∧ 0x7F < hi then some (0x7F, 0x80)
  else if lo ≤ 0x7FF ∧ 0x7FF < hi then some (0x7FF, 0x800)
  else if lo ≤ 0xFFFF ∧ 0xFFFF < hi then some (0xFFFF, 0x10000)
  else if hi ≤ 0x7F then none
  else
    [64, 4096, 262144].findSome? fun m =>
      if lo / m = hi / m then none
      else if lo % m ≠ 0 then
        let last := lo / m * m + (m - 1)
        some (last, last + 1)
      else if hi % m ≠ m - 1 then
        let first := hi / m * m
        some (first - 1, first)
      else none

/-- The sequences of byte ranges that a range of code points is; `n` bounds how often it is
cut. -/
def sequences : Nat → Nat → Nat → List ByteRanges
  | 0, _, _ => []
  | n + 1, lo, hi =>
    if hi < lo then []
    else
      match cut? lo hi with
      | some (a, b) => sequences n lo a ++ sequences n b hi
      | none => [(bytesOf lo).zip (bytesOf hi)]

/-- How many ranges two sequences have in common at their beginning. -/
def common : ByteRanges → ByteRanges → Nat
  | a :: as, b :: bs => if a = b then common as bs + 1 else 0
  | _, _ => 0

/-- How many beginnings the sequences have after one that came before them. -/
def beginnings (before : ByteRanges) : List ByteRanges → Nat
  | [] => 0
  | s :: rest => (s.length - common before s) + beginnings s rest

/-- The size of the automaton of a set of code points. -/
def setSize (a : Ranges) : Nat :=
  match a with
  | [(lo, hi)] => if lo = hi then 32 * (bytesOf lo).length else many a
  | _ => many a
where
  /-- The size for a set of more than one code point. -/
  many (a : Ranges) : Nat :=
    if a.all fun r => r.2 ≤ 0x7F then 64 + 8 * a.length
    else
      let ss := a.flatMap fun r => sequences 64 r.1 r.2
      64 + 4 * ss.length + 32 * beginnings [] ss

mutual
/-- The size of the automaton of a node. -/
def Node.size : Node → Nat
  | .empty => 32
  | .set a => setSize a
  | .look _ => 32
  | .concat ns => sizes ns
  | .alternation ns => 64 + 4 * ns.length + sizes ns
  | .capture _ n => 64 + n.size
  | .repetition least most _ n =>
    let k := n.size
    match most with
    | some most => least * k + (most - least) * (k + 40) + (if least = most then 0 else 32)
    | none =>
      if least = 0 then if n.takesSome then k + 40 else k + 112
      else least * k + 40

/-- The sizes of some nodes together. -/
def sizes : List Node → Nat
  | [] => 0
  | n :: rest => n.size + sizes rest
end

/-- Whether a node is small enough; an automaton has some states besides those of its node. -/
def Node.isSmall (n : Node) : Bool :=
  n.size + 256 ≤ sizeLimit

end Bindery.Regex
