import Bindery.Decimal.Reading
import Mathlib.Algebra.Group.Nat.Defs

/-!
# Bindery — Proofs — Significands

The significand of a 64-bit number that was rounded is below `2 ^ 53`.  A quotient is scaled so that
no more than 53 bits are left before the point (`Below`), and rounding adds one at most, which gives
another power of two where a bit more would be needed (`significand_lt_of_ofRatio?`).
-/

namespace Bindery.Decimal

namespace Binary64

theorem two_eq (n : Nat) : two n = 2 ^ n := by
  rw [two, Nat.one_shiftLeft]

theorem scaled_eq (num den : Nat) (e : Int) :
    scaled num den e = (num * 2 ^ (-e).toNat, den * 2 ^ e.toNat) := by
  cases e with
  | ofNat k => simp [scaled, two_eq]
  | negSucc k => simp [scaled, two_eq, Int.neg_negSucc]

theorem ratio_eq (x : Binary64) :
    x.ratio = (x.significand * 2 ^ x.exponent.toNat, 2 ^ (-x.exponent).toNat) := by
  unfold ratio
  cases x.exponent with
  | ofNat k => simp [two_eq]
  | negSucc k => simp [two_eq, Int.neg_negSucc]

/-- Whether a quotient that is divided by two to a power is below a number. -/
def Below (num den : Nat) (e : Int) (bound : Nat) : Prop :=
  num * 2 ^ (-e).toNat < bound * (den * 2 ^ e.toNat)

theorem below_iff {num den : Nat} (hden : 0 < den) (e : Int) (bound : Nat) :
    Below num den e bound ↔ (scaled num den e).1 / (scaled num den e).2 < bound := by
  have hpos : 0 < den * 2 ^ e.toNat := Nat.mul_pos hden (Nat.two_pow_pos _)
  rw [scaled_eq, Below, Nat.div_lt_iff_lt_mul hpos]

/-- A greater power of two makes a quotient smaller. -/
theorem Below.mono {num den bound : Nat} {e e' : Int} (h : Below num den e bound) (he : e ≤ e') :
    Below num den e' bound := by
  have hnum : num * 2 ^ (-e').toNat ≤ num * 2 ^ (-e).toNat :=
    Nat.mul_le_mul_left _ (Nat.pow_le_pow_right (by decide) (by omega))
  have hden : bound * (den * 2 ^ e.toNat) ≤ bound * (den * 2 ^ e'.toNat) :=
    Nat.mul_le_mul_left _ (Nat.mul_le_mul_left _ (Nat.pow_le_pow_right (by decide) (by omega)))
  exact Nat.lt_of_le_of_lt hnum (Nat.lt_of_lt_of_le h hden)

/-- One power of two more than guessed leaves no more than 53 bits. -/
theorem below_guess {num den : Nat} (hden : 0 < den) :
    Below num den (guess num den + 1) (2 ^ 53) := by
  have hnum : num < 2 ^ (num.log2 + 1) := Nat.lt_log2_self
  have hlog : 2 ^ den.log2 ≤ den := Nat.log2_self_le (Nat.ne_of_gt hden)
  unfold Below guess
  generalize num.log2 = a at hnum
  generalize den.log2 = b at hlog
  generalize he : (a : Int) - b - 53 + 1 = e
  calc num * 2 ^ (-e).toNat
      < 2 ^ (a + 1) * 2 ^ (-e).toNat := Nat.mul_lt_mul_of_pos_right hnum (Nat.two_pow_pos _)
    _ = 2 ^ (a + 1 + (-e).toNat) := (Nat.pow_add 2 _ _).symm
    _ ≤ 2 ^ (53 + (b + e.toNat)) := Nat.pow_le_pow_right (by decide) (by omega)
    _ = 2 ^ 53 * (2 ^ b * 2 ^ e.toNat) := by rw [Nat.pow_add, Nat.pow_add]
    _ ≤ 2 ^ 53 * (den * 2 ^ e.toNat) :=
      Nat.mul_le_mul_left _ (Nat.mul_le_mul_right _ hlog)

/-- The power of two that a quotient is divided by leaves no more than 53 bits. -/
theorem below_chosen {num den : Nat} (hden : 0 < den) {e : Int}
    (he : max (if (scaled num den (guess num den)).1 / (scaled num den (guess num den)).2 < two 53
      then guess num den else guess num den + 1) minExponent = e) :
    Below num den e (2 ^ 53) := by
  rw [← he]
  refine Below.mono ?_ (Int.le_max_left _ _)
  split
  next hlt =>
    rw [two_eq, ← below_iff hden] at hlt
    exact hlt
  next => exact below_guess hden

/-- The significand of a rounded quotient has 53 bits at most. -/
theorem significand_lt_of_ofRatio? {negative : Bool} {num den : Nat} {x : Binary64}
    (hden : 0 < den) (h : ofRatio? negative num den = some x) : x.significand < 2 ^ 53 := by
  unfold ofRatio? at h
  split at h
  · cases h
    exact Nat.two_pow_pos 53
  · dsimp only at h
    generalize he : max _ minExponent = e at h
    have hbelow := below_chosen hden he
    have hround := roundDiv_le (scaled num den e).1 (scaled num den e).2
    have hlt := (below_iff hden e (2 ^ 53)).1 hbelow
    rw [two_eq, two_eq] at h
    split at h
    · split at h
      · cases h
      · cases h
        exact Nat.pow_lt_pow_right (by decide) (by decide)
    · split at h
      · cases h
      · cases h
        dsimp only
        omega

theorem significand_lt_of_ofDecimal? {negative : Bool} {digits : Nat} {scale : Int} {x : Binary64}
    (h : ofDecimal? negative digits scale = some x) : x.significand < 2 ^ 53 := by
  unfold ofDecimal? at h
  split at h
  · cases h
    exact Nat.two_pow_pos 53
  · dsimp only at h
    split at h
    · cases h
    · split at h
      · cases h
        exact Nat.two_pow_pos 53
      · split at h
        · exact significand_lt_of_ofRatio? Nat.one_pos h
        · exact significand_lt_of_ofRatio? (Nat.pow_pos (by decide)) h

end Binary64

/-- A finite number that is read has a significand of 53 bits at most. -/
theorem significand_lt_of_read? {s : String} {x : Binary64} (h : read? s = some (.finite x)) :
    x.significand < 2 ^ 53 := by
  unfold read? at h
  dsimp only at h
  split at h
  · cases h
  · split at h
    · cases h
    · unfold unsigned? at h
      dsimp only at h
      split at h
      · cases h
      · obtain ⟨e, -, hx⟩ := Option.map_eq_some_iff.1 h
        split at hx
        next hdecimal =>
          cases hx
          exact Binary64.significand_lt_of_ofDecimal? hdecimal
        next => cases hx

end Bindery.Decimal
