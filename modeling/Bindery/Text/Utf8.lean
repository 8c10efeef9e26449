/-!
# Bindery — Text — Utf8

Bytes as text.  `decodeFirst` reads one character off a list of bytes or tells how many bytes
to give up on: the longest start of a well-formed sequence, or one byte where there is none.
`strict?` accepts well-formed bytes only; `lossy` puts U+FFFD in the place of each part that
`decodeFirst` gives up on.
-/

namespace Bindery.Text.Utf8

/-- The first character of some bytes, or the number of bytes that begin no character. -/
inductive First where
  | char (c : Char) (size : Nat)
  | broken (size : Nat)

/-- Whether a byte may follow the first one of a sequence, given the bounds for it. -/
def within (lo hi : Nat) (b : UInt8) : Bool :=
  lo ≤ b.toNat && b.toNat ≤ hi

/-- The bounds for the byte after a first byte: they keep out overlong forms, surrogates and
values past U+10FFFF. -/
def secondBounds (b : UInt8) : Nat × Nat :=
  let n := b.toNat
  if n == 0xE0 then (0xA0, 0xBF)
  else if n == 0xED then (0x80, 0x9F)
  else if n == 0xF0 then (0x90, 0xBF)
  else if n == 0xF4 then (0x80, 0x8F)
  else (0x80, 0xBF)

/-- How many bytes a sequence with this first byte has, when there is one. -/
def sequenceSize? (b : UInt8) : Option Nat :=
  let n := b.toNat
  if n < 0x80 then some 1
  else if 0xC2 ≤ n && n ≤ 0xDF then some 2
  else if 0xE0 ≤ n && n ≤ 0xEF then some 3
  else if 0xF0 ≤ n && n ≤ 0xF4 then some 4
  else none

/-- How many of the next bytes continue a sequence, at most `count`; the bounds are for the
first of them. -/
def continuing : Nat → Nat × Nat → List UInt8 → Nat
  | 0, _, _ => 0
  | _, _, [] => 0
  | n + 1, (lo, hi), b :: bs =>
    if within lo hi b then continuing n (0x80, 0xBF) bs + 1 else 0

/-- The value written by the low bits of some bytes after a first one. -/
def gather (start : Nat) (bs : List UInt8) : Nat :=
  bs.foldl (fun v b => v * 64 + b.toNat % 64) start

/-- Reads the first character off non-empty bytes. -/
def decodeFirst (b : UInt8) (bs : List UInt8) : First :=
  match sequenceSize? b with
  | none => .broken 1
  | some size =>
    let got := continuing (size - 1) (secondBounds b) bs
    if got + 1 = size then
      let high := match size with
        | 1 => b.toNat
        | 2 => b.toNat % 32
        | 3 => b.toNat % 16
        | _ => b.toNat % 8
      .char (Char.ofNat (gather high (bs.take got))) size
    else .broken (got + 1)

/-- Decodes bytes, with `patch` for each part that begins no character. -/
def decodeWith (patch : Option Char) (bytes : List UInt8) : Option (List Char) :=
  match bytes with
  | [] => some []
  | b :: bs =>
    match decodeFirst b bs with
    | .char c size => (decodeWith patch (bs.drop (size - 1))).map (c :: ·)
    | .broken size =>
      match patch with
      | none => none
      | some c => (decodeWith patch (bs.drop (size - 1))).map (c :: ·)
termination_by bytes.length
decreasing_by all_goals (simp only [List.length_drop, List.length_cons]; omega)

/-- The text that well-formed bytes are. -/
def strict? (bytes : List UInt8) : Option String :=
  (decodeWith none bytes).map String.ofList

/-- The text that bytes are, with U+FFFD for each part that is not well formed. -/
def lossy (bytes : List UInt8) : String :=
  String.ofList ((decodeWith (some '\uFFFD') bytes).getD [])

/-- The bytes of a text. -/
def encode (s : String) : List UInt8 :=
  s.toList.flatMap String.utf8EncodeChar

end Bindery.Text.Utf8
