/-!
# Bindery — Text — Numeral

Reading whole numbers with a bound.  A numeral is a sign, where one is allowed, and one or more
ASCII digits; leading zeros do not matter, and a value past the bound is no numeral.
-/

namespace Bindery.Text

/-- The value of a digit in a base of at most 36; letters count from ten in either case. -/
def digitValue? (base : Nat) (c : Char) : Option Nat :=
  let v? :=
    if c.isDigit then some (c.toNat - '0'.toNat)
    else if 'a' ≤ c ∧ c ≤ 'z' then some (c.toNat - 'a'.toNat + 10)
    else if 'A' ≤ c ∧ c ≤ 'Z' then some (c.toNat - 'A'.toNat + 10)
    else none
  v?.filter (· < base)

/-- The value of one or more digits in a base. -/
def natOfDigits? (base : Nat) (cs : List Char) : Option Nat :=
  if cs.isEmpty then none
  else cs.foldlM (fun n c => (digitValue? base c).map (n * base + ·)) 0

/-- The largest value of a 64-bit word. -/
def maxWord : Nat := 18446744073709551615

/-- The largest value of a signed 64-bit word. -/
def maxSigned : Nat := 9223372036854775807

/-- A word: an optional `+` and digits, at most `maxWord`. -/
def word? (base : Nat) : List Char → Option Nat
  | '+' :: cs => (natOfDigits? base cs).filter (· ≤ maxWord)
  | cs => (natOfDigits? base cs).filter (· ≤ maxWord)

/-- A signed word: an optional sign and digits, from `-maxSigned - 1` to `maxSigned`. -/
def signedWord? (base : Nat) : List Char → Option Int
  | '-' :: cs => ((natOfDigits? base cs).filter (· ≤ maxSigned + 1)).map fun n => -(n : Int)
  | '+' :: cs => ((natOfDigits? base cs).filter (· ≤ maxSigned)).map fun n => (n : Int)
  | cs => ((natOfDigits? base cs).filter (· ≤ maxSigned)).map fun n => (n : Int)

/-- In base ten the digits are the ASCII ones. -/
theorem digitValue?_ten (c : Char) :
    digitValue? 10 c = if c.isDigit then some (c.toNat - '0'.toNat) else none := by
  unfold digitValue?
  by_cases h : c.isDigit = true
  · rw [if_pos h, if_pos h]
    rw [Char.isDigit_iff_toNat] at h
    have hzero : '0'.toNat = 48 := rfl
    have hnine : '9'.toNat = 57 := rfl
    have hlt : c.toNat - 48 < 10 := by omega
    simp [hlt]
  · rw [if_neg h, if_neg h]
    -- a letter counts from ten
    split
    · rw [Option.filter_eq_none_iff]
      intro n hn
      cases hn
      simp
    · split
      · rw [Option.filter_eq_none_iff]
        intro n hn
        cases hn
        simp
      · rfl

/-- Digits are read from a value on as long as all of them are digits. -/
theorem foldlM_digitValue?_ten {cs : List Char} {m n : Nat} :
    cs.foldlM (fun n c => (digitValue? 10 c).map (n * 10 + ·)) m = some n ↔
      (∀ c ∈ cs, c.isDigit = true) ∧ Nat.ofDigitChars 10 cs m = n := by
  induction cs generalizing m with
  | nil => simp
  | cons c cs ih =>
      rw [List.foldlM_cons, digitValue?_ten]
      by_cases h : c.isDigit = true
      · rw [if_pos h, Option.map_some]
        show cs.foldlM _ _ = some n ↔ _
        rw [ih, Nat.ofDigitChars_cons, Nat.mul_comm m 10]
        simp [h]
      · rw [if_neg h, Option.map_none]
        simp [h]

/-- What decimal digits are read as. -/
theorem natOfDigits?_ten_eq_some_iff {cs : List Char} {n : Nat} :
    natOfDigits? 10 cs = some n ↔
      cs ≠ [] ∧ (∀ c ∈ cs, c.isDigit = true) ∧ Nat.ofDigitChars 10 cs 0 = n := by
  cases cs with
  | nil => simp [natOfDigits?]
  | cons c cs =>
      rw [natOfDigits?, List.isEmpty_cons, if_neg Bool.false_ne_true, foldlM_digitValue?_ten]
      simp

/-- A decimal word is digits with at most a plus sign before them, and not past the largest word. -/
theorem word?_ten_eq_some_iff {cs : List Char} {n : Nat} :
    word? 10 cs = some n ↔
      n ≤ maxWord ∧ ∃ digits, (cs = digits ∨ cs = '+' :: digits) ∧
        natOfDigits? 10 digits = some n := by
  have hfilter (digits : List Char) :
      (natOfDigits? 10 digits).filter (· ≤ maxWord) = some n ↔
        n ≤ maxWord ∧ natOfDigits? 10 digits = some n := by
    rw [Option.filter_eq_some_iff, decide_eq_true_iff, and_comm]
  by_cases h : ∃ digits, cs = '+' :: digits
  · obtain ⟨digits, rfl⟩ := h
    rw [word?, hfilter]
    constructor
    · rintro ⟨hn, hd⟩
      exact ⟨hn, digits, .inr rfl, hd⟩
    · rintro ⟨hn, ds, rfl | hds, hd⟩
      · -- a plus sign is no digit
        have hplus := (natOfDigits?_ten_eq_some_iff.1 hd).2.1 '+' List.mem_cons_self
        cases hplus
      · cases hds
        exact ⟨hn, hd⟩
  · have hword : word? 10 cs = (natOfDigits? 10 cs).filter (· ≤ maxWord) := by
      unfold word?
      split
      · exact absurd ⟨_, rfl⟩ h
      · rfl
    rw [hword, hfilter]
    constructor
    · rintro ⟨hn, hd⟩
      exact ⟨hn, cs, .inl rfl, hd⟩
    · rintro ⟨hn, ds, rfl | hds, hd⟩
      · exact ⟨hn, hd⟩
      · exact absurd ⟨ds, hds⟩ h

/-- The decimal digits of a number. -/
def decimal (n : Nat) : String :=
  n.repr

/-- Numbers with the same digits are the same. -/
theorem decimal_injective {m n : Nat} (h : decimal m = decimal n) : m = n := by
  rw [decimal, decimal, Nat.repr_eq_ofList_toDigits, Nat.repr_eq_ofList_toDigits] at h
  calc
    m = Nat.ofDigitChars 10 (Nat.toDigits 10 m) 0 := Nat.ofDigitChars_ten_toDigits.symm
    _ = Nat.ofDigitChars 10 (Nat.toDigits 10 n) 0 := by rw [String.ofList_injective h]
    _ = n := Nat.ofDigitChars_ten_toDigits

/-- The decimal digits of a number, after a minus sign if it is negative. -/
def signed (n : Int) : String :=
  if n < 0 then "-" ++ decimal n.natAbs else decimal n.natAbs

end Bindery.Text
