import MailMerge.Decimal.Scientific
import MailMerge.Proofs.Decimal.Digits

/-!
# The number that a notation denotes

A number has many notations: digits and a power of ten can be traded for one another. If the digits
have no zero at either end there is only one of them left, so that two numbers in this form are the
same as soon as their values are.

## Main definitions

* `Numeral.value`, `Scientific.value`: the rational number that is denoted.
* `Scientific.Normal`: a number in scientific form without zeros at either end.

## Main results

* `Scientific.Normal.eq_of_value_eq`: a normal form is determined by its value.
* `Scientific.Normal.digitsOfNat_of_value_eq`: the digits of a whole number in normal form.
-/

namespace MailMerge.Decimal

/-! ## Powers of ten -/

/-- A number that is no multiple of ten can be told from its product with a power of ten, and so can
the power. -/
theorem eq_of_mul_pow_eq {m n : Nat} {a b : Int} (hm : ¬ 10 ∣ m) (hn : ¬ 10 ∣ n)
    (h : (m : ℚ) * 10 ^ a = n * 10 ^ b) : a = b ∧ m = n := by
  have le {m n : Nat} {a b : Int} (hm : ¬ 10 ∣ m) (h : (m : ℚ) * 10 ^ a = n * 10 ^ b) : b ≤ a := by
    by_contra! lt
    obtain ⟨k, rfl⟩ : ∃ k : Nat, b = a + (k + 1) := ⟨(b - a - 1).toNat, by omega⟩
    have pow : (10 : ℚ) ^ (a + ((k : Int) + 1)) = 10 ^ (k + 1) * 10 ^ a := by
      rw [zpow_add₀ (by norm_num), mul_comm]
      norm_cast
    rw [pow, ← mul_assoc] at h
    have eq : (m : ℚ) = n * 10 ^ (k + 1) := mul_right_cancel₀ (by positivity) h
    have eq : m = n * 10 ^ (k + 1) := by exact_mod_cast eq
    exact hm ⟨n * 10 ^ k, by rw [eq, pow_succ]; ring⟩
  obtain rfl := le_antisymm (le hn h.symm) (le hm h)
  have same : (m : ℚ) = n := mul_right_cancel₀ (by positivity) h
  exact ⟨rfl, by exact_mod_cast same⟩

/-- A multiple of a power of ten is whole only if the power is, unless the factor is a multiple of
ten. -/
theorem nonneg_of_mul_pow_eq {m n : Nat} {a : Int} (hm : ¬ 10 ∣ m) (h : (m : ℚ) * 10 ^ a = n) :
    0 ≤ a := by
  by_contra! lt
  obtain ⟨k, rfl⟩ : ∃ k : Nat, a = -((k : Int) + 1) := ⟨(-a - 1).toNat, by omega⟩
  have pow : (10 : ℚ) ^ (-((k : Int) + 1)) * 10 ^ (k + 1) = 1 := by
    rw [zpow_neg]
    norm_cast
    exact inv_mul_cancel₀ (by positivity)
  have eq : (m : ℚ) = n * 10 ^ (k + 1) := by rw [← h, mul_assoc, pow, mul_one]
  have eq : m = n * 10 ^ (k + 1) := by exact_mod_cast eq
  exact hm ⟨n * 10 ^ k, by rw [eq, pow_succ]; ring⟩

/-! ## Values -/

/-- The factor that a sign stands for. -/
def sign (negative : Bool) : ℚ := if negative then -1 else 1

theorem abs_sign (negative : Bool) : |sign negative| = 1 := by
  cases negative <;> simp [sign]

/-- The number that a numeral denotes. -/
def Numeral.value (m : Numeral) : ℚ := sign m.negative * m.significand * 10 ^ m.scale

namespace Scientific

variable {s t : Scientific}

/-- The number `± d₁.d₂…dₖ · 10 ^ exponent`. -/
def value (s : Scientific) : ℚ :=
  sign s.negative * (digitsValue s.digits / 10 ^ (s.digits.length - 1)) * 10 ^ s.exponent

/-- A number in scientific form without zeros at either end of its digits. -/
structure Normal (s : Scientific) : Prop where
  digits : ∀ d ∈ s.digits, d < 10
  some_digit : s.digits ≠ []
  first : s.digits.head? ≠ some 0
  last : s.digits.getLast? ≠ some 0

/-- The power of ten that the digits are multiplied with when they are read as one number. -/
def scale (s : Scientific) : Int := s.exponent + 1 - s.digits.length

theorem value_eq (some_digit : s.digits ≠ []) :
    s.value = sign s.negative * digitsValue s.digits * 10 ^ s.scale := by
  have length : 1 ≤ s.digits.length := List.length_pos_of_ne_nil some_digit
  have pow : (10 : ℚ) ^ s.scale = (10 ^ (s.digits.length - 1))⁻¹ * 10 ^ s.exponent := by
    rw [← zpow_natCast, ← zpow_neg, ← zpow_add₀ (by norm_num)]
    congr 1
    rw [scale]
    omega
  rw [value, pow, div_eq_mul_inv]
  ring

namespace Normal

theorem positive (h : s.Normal) : 0 < digitsValue s.digits :=
  (Nat.one_le_pow _ _ (by decide)).trans (le_digitsValue h.some_digit h.first)

theorem abs_value (h : s.Normal) : |s.value| = digitsValue s.digits * 10 ^ s.scale := by
  rw [value_eq h.some_digit, abs_mul, abs_mul, abs_sign, one_mul, Nat.abs_cast,
    abs_of_pos (by positivity)]

/-- A number is negative iff its sign says so. -/
theorem value_neg_iff (h : s.Normal) : s.value < 0 ↔ s.negative = true := by
  have size : (0 : ℚ) < digitsValue s.digits * 10 ^ s.scale := by
    have := h.positive
    positivity
  rw [value_eq h.some_digit, mul_assoc]
  cases s.negative with
  | true => simpa [sign] using size
  | false => simpa [sign] using size.le

/-- **A normal form is determined by its value.** -/
theorem eq_of_value_eq (hs : s.Normal) (ht : t.Normal) (h : s.value = t.value) : s = t := by
  have negative : s.negative = t.negative := by
    rw [Bool.eq_iff_iff, ← hs.value_neg_iff, ← ht.value_neg_iff, h]
  have size : (digitsValue s.digits : ℚ) * 10 ^ s.scale = digitsValue t.digits * 10 ^ t.scale := by
    rw [← hs.abs_value, ← ht.abs_value, h]
  obtain ⟨scale, same⟩ := eq_of_mul_pow_eq (not_dvd_digitsValue hs.digits hs.some_digit hs.last)
    (not_dvd_digitsValue ht.digits ht.some_digit ht.last) size
  have digits : s.digits = t.digits := by
    rw [← digitsOfNat_digitsValue hs.digits hs.some_digit hs.first, same,
      digitsOfNat_digitsValue ht.digits ht.some_digit ht.first]
  rw [Scientific.scale, Scientific.scale, digits] at scale
  obtain ⟨n, ds, e⟩ := s
  obtain ⟨n', ds', e'⟩ := t
  simp only [mk.injEq] at *
  exact ⟨negative, digits, by omega⟩

/-- The digits of a whole number are those of its normal form and zeros behind them. -/
theorem digitsOfNat_of_value_eq (h : s.Normal) {i : Int} (whole : s.value = i) :
    (s.digits.length : Int) ≤ s.exponent + 1 ∧ 10 ^ s.exponent.toNat ≤ i.natAbs ∧
      digitsOfNat i.natAbs = s.digits ++ List.replicate (s.exponent.toNat + 1 - s.digits.length) 0 ∧
      (i < 0 ↔ s.negative = true) := by
  have length : 1 ≤ s.digits.length := List.length_pos_of_ne_nil h.some_digit
  have size : (digitsValue s.digits : ℚ) * 10 ^ s.scale = i.natAbs := by
    rw [← h.abs_value, whole, Nat.cast_natAbs, Int.cast_abs]
  have scale := nonneg_of_mul_pow_eq (not_dvd_digitsValue h.digits h.some_digit h.last) size
  obtain ⟨k, hk⟩ : ∃ k : Nat, s.scale = k := ⟨s.scale.toNat, by omega⟩
  have exponent : s.exponent.toNat + 1 = s.digits.length + k := by
    rw [Scientific.scale] at hk
    omega
  have zeros : s.exponent.toNat + 1 - s.digits.length = k := by omega
  have filled : i.natAbs = digitsValue (s.digits ++ List.replicate k 0) := by
    rw [digitsValue_append_zeros]
    rw [hk, zpow_natCast] at size
    exact_mod_cast size.symm
  have first : (s.digits ++ List.replicate k 0).head? ≠ some 0 := by
    rw [List.head?_append_of_ne_nil _ h.some_digit]
    exact h.first
  have some_digit : s.digits ++ List.replicate k 0 ≠ [] := by simp [h.some_digit]
  refine ⟨by rw [Scientific.scale] at scale; omega, ?_, ?_, ?_⟩
  · have least := le_digitsValue some_digit first
    rw [List.length_append, List.length_replicate, ← exponent, Nat.add_sub_cancel] at least
    rwa [filled]
  · rw [zeros, filled]
    refine digitsOfNat_digitsValue (fun d mem => ?_) some_digit first
    rcases List.mem_append.mp mem with mem | mem
    · exact h.digits d mem
    · rw [List.eq_of_mem_replicate mem]
      decide
  · rw [← h.value_neg_iff, whole, Int.cast_lt_zero]

end Normal

end Scientific

end MailMerge.Decimal
