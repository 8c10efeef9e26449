import Bindery.Decimal.Binary64

/-!
# Bindery — Decimal — Shortest

The shortest decimal that reads back as a number.  The decimals that round to a number form an
interval around it; its ends belong to it when the significand is even.  Among the decimals of
one, two, … digits the first count that has one in the interval wins, and of two such decimals
the nearer one.
-/

namespace Bindery.Decimal

/-- A positive decimal: `digits * 10 ^ scale`. -/
structure Digits where
  digits : Nat
  scale : Int
deriving DecidableEq

/-- The interval of the decimals that round to a number, in units of a quarter of its last
place: the lower end, the number, the upper end. -/
structure Interval where
  low : Nat
  mid : Nat
  high : Nat
  closed : Bool

/-- Whether `n / d` lies in an interval whose unit is `u / v`. -/
def Interval.holds (i : Interval) (u v n d : Nat) : Bool :=
  let x := n * v
  let lo := i.low * u * d
  let hi := i.high * u * d
  if i.closed then lo ≤ x && x ≤ hi else lo < x && x < hi

/-- A decimal without zeros at its end; at most `n` are taken off. -/
def Digits.strip : Nat → Digits → Digits
  | 0, x => x
  | n + 1, x =>
    if x.digits % 10 = 0 ∧ x.digits ≠ 0 then strip n ⟨x.digits / 10, x.scale + 1⟩ else x

namespace Binary64

/-- The interval around a number other than zero.  Below a power of two the neighbours are
half as far apart, so the lower end is nearer there. -/
def interval (x : Binary64) : Interval :=
  let m := x.significand
  let mid := 4 * m
  let step := if m = two 52 ∧ x.exponent > minExponent then 1 else 2
  ⟨mid - step, mid, mid + 2, m % 2 = 0⟩

/-- The unit of `interval` as a quotient of whole numbers: a quarter of the power of two. -/
def quarter (x : Binary64) : Nat × Nat :=
  match x.exponent - 2 with
  | .ofNat k => (two k, 1)
  | .negSucc k => (1, two (k + 1))

/-- A decimal as a quotient of whole numbers. -/
def decimalRatio (digits : Nat) (scale : Int) : Nat × Nat :=
  match scale with
  | .ofNat k => (digits * Nat.pow 10 k, 1)
  | .negSucc k => (digits, Nat.pow 10 (k + 1))

/-- The nearest decimal with a scale that lies in the interval of a number. -/
def atScale? (x : Binary64) (scale : Int) : Option Digits :=
  let (u, v) := x.quarter
  let i := x.interval
  let (g, h) := decimalRatio 1 scale
  let num := i.mid * u * h
  let den := v * g
  let below := num / den
  let above := below + 1
  let fits (n : Nat) : Bool :=
    let (a, b) := decimalRatio n scale
    n != 0 && Interval.holds i u v a b
  match fits below, fits above with
  | false, false => none
  | true, false => some ⟨below, scale⟩
  | false, true => some ⟨above, scale⟩
  | true, true =>
    let r := num % den
    if 2 * r < den then some ⟨below, scale⟩
    else if den < 2 * r then some ⟨above, scale⟩
    else some ⟨if below % 2 = 0 then below else above, scale⟩

/-- The power of ten of the leading digit of `num / den`, or one more. -/
def leading (num den : Nat) : Int :=
  let n : Int := (Nat.toDigits 10 num).length
  let d : Int := (Nat.toDigits 10 den).length
  n - d

/-- The shortest decimal that rounds to a number other than zero. -/
def shortest (x : Binary64) : Digits :=
  let (num, den) := x.ratio
  let top := leading num den
  let candidates := (List.range 20).findSome? fun (k : Nat) => x.atScale? (top - (k : Int))
  (candidates.getD ⟨x.significand, 0⟩) |> Digits.strip 400

end Binary64

/-- How numbers are written: the least and the greatest power of ten of a leading digit that
is written without an exponent. -/
structure Layout where
  leastPlain : Int
  greatestPlain : Int

/-- A count of zeros. -/
def zeros (n : Nat) : String :=
  String.ofList (List.replicate n '0')

/-- A decimal without an exponent, with at least one digit after the point. -/
def plainText (digits : String) (scale : Int) : String :=
  let n := digits.length
  match scale with
  | .ofNat k => digits ++ zeros k ++ ".0"
  | .negSucc k =>
    let places := k + 1
    if places < n then
      String.ofList (digits.toList.take (n - places)) ++ "." ++
        String.ofList (digits.toList.drop (n - places))
    else "0." ++ zeros (places - n) ++ digits

/-- A decimal with one digit before the point, a point only where digits follow, and an
exponent that carries its sign. -/
def exponentText (digits : String) (scale : Int) : String :=
  let power := scale + (digits.length : Int) - 1
  let head := digits.toList.take 1
  let tail := digits.toList.drop 1
  let mantissa := if tail.isEmpty then head else head ++ '.' :: tail
  let sign := if power < 0 then "-" else "+"
  String.ofList mantissa ++ "e" ++ sign ++ power.natAbs.repr

/-- The text of a number in a layout. -/
def Layout.text (l : Layout) (x : Binary64) : String :=
  let sign := if x.negative then "-" else ""
  if x.isZero then sign ++ "0.0"
  else
    let d := x.shortest
    let digits := d.digits.repr
    let power := d.scale + (digits.length : Int) - 1
    if l.leastPlain ≤ power ∧ power ≤ l.greatestPlain then sign ++ plainText digits d.scale
    else sign ++ exponentText digits d.scale

end Bindery.Decimal
