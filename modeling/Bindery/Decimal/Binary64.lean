/-!
# Bindery — Decimal — Binary64

Finite binary floating-point numbers of 64 bits, as exact values.  A number is a sign, a whole
significand below `2 ^ 53` and a power of two; the significand has its top bit set unless the
number is subnormal or zero, so equal numbers have equal parts.  Results are rounded to the
nearest number, a tie to the even significand: `ofRatio?` rounds a quotient of whole numbers and
is undefined past the largest number.
-/

namespace Bindery.Decimal

/-- A finite number: `significand * 2 ^ exponent`, with a sign that zero has too. -/
structure Binary64 where
  negative : Bool
  significand : Nat
  exponent : Int
deriving DecidableEq, Inhabited

/-- The quotient of two numbers, rounded to the nearest whole number, a tie to the even one. -/
def roundDiv (num den : Nat) : Nat :=
  let q := num / den
  let r := num % den
  if 2 * r < den then q
  else if den < 2 * r then q + 1
  else if q % 2 = 0 then q else q + 1

theorem roundDiv_le (num den : Nat) : roundDiv num den ≤ num / den + 1 := by
  unfold roundDiv
  dsimp only
  split
  · omega
  · split
    · omega
    · split
      · omega
      · omega

theorem roundDiv_one (num : Nat) : roundDiv num 1 = num := by
  have hmod : num % 1 = 0 := Nat.mod_one num
  simp [roundDiv, hmod]

namespace Binary64

/-- The least power of two a significand is scaled by. -/
def minExponent : Int := -1074

/-- The greatest power of two a significand is scaled by. -/
def maxExponent : Int := 971

/-- Zero with a sign. -/
def zero (negative : Bool) : Binary64 := ⟨negative, 0, minExponent⟩

/-- Two to a power. -/
def two (n : Nat) : Nat := 1 <<< n

/-- The whole numbers that a quotient becomes when it is divided by two to a power. -/
def scaled (num den : Nat) (e : Int) : Nat × Nat :=
  match e with
  | .ofNat k => (num, den * two k)
  | .negSucc k => (num * two (k + 1), den)

/-- A power of two that leaves a quotient with 53 or 54 bits before the point. -/
def guess (num den : Nat) : Int :=
  (num.log2 : Int) - (den.log2 : Int) - 53

/-- The nearest number to a quotient; none past the largest number. -/
def ofRatio? (negative : Bool) (num den : Nat) : Option Binary64 :=
  if num = 0 then some (zero negative)
  else
    let e₀ := guess num den
    let (n₀, d₀) := scaled num den e₀
    let e₁ := if n₀ / d₀ < two 53 then e₀ else e₀ + 1
    let e := max e₁ minExponent
    let (n, d) := scaled num den e
    let q := roundDiv n d
    let (m, e) := if q = two 53 then (two 52, e + 1) else (q, e)
    if e > maxExponent then none
    else some ⟨negative, m, if m = 0 then minExponent else e⟩

/-- The nearest number to a whole number. -/
def ofNat? (negative : Bool) (n : Nat) : Option Binary64 :=
  ofRatio? negative n 1

/-- The size of a number as a quotient of whole numbers. -/
def ratio (x : Binary64) : Nat × Nat :=
  match x.exponent with
  | .ofNat k => (x.significand * two k, 1)
  | .negSucc k => (x.significand, two (k + 1))

/-- A product, rounded. -/
def mul? (x y : Binary64) : Option Binary64 :=
  let (a, b) := x.ratio
  let (c, d) := y.ratio
  ofRatio? (x.negative != y.negative) (a * c) (b * d)

/-- A quotient by a number that is not zero, rounded. -/
def div? (x y : Binary64) : Option Binary64 :=
  let (a, b) := x.ratio
  let (c, d) := y.ratio
  ofRatio? (x.negative != y.negative) (a * d) (b * c)

/-- A number with a given sign. -/
def withSign (x : Binary64) (negative : Bool) : Binary64 :=
  { x with negative }

/-- Whether a number is zero, of either sign. -/
def isZero (x : Binary64) : Bool :=
  x.significand == 0

/-- The nearest number to `digits * 10 ^ scale`; none past the largest number.  Powers far
outside the range of numbers are settled by the count of digits. -/
def ofDecimal? (negative : Bool) (digits : Nat) (scale : Int) : Option Binary64 :=
  if digits = 0 then some (zero negative)
  else
    let size : Int := (digits.log2 : Int) / 4 + scale
    if size > 400 then none
    else if (digits.log2 : Int) / 3 + 1 + scale < -400 then some (zero negative)
    else
      match scale with
      | .ofNat k => ofRatio? negative (digits * Nat.pow 10 k) 1
      | .negSucc k => ofRatio? negative digits (Nat.pow 10 (k + 1))

end Binary64

end Bindery.Decimal
