import MailMerge.Decimal.Numeral
import MailMerge.Proofs.Basic

/-!
# Lists of digits

A list of digits that does not start with a zero is the decimal notation of the number that it
denotes. So a number can be told from its digits and its digits from the number, and zeros at either
end of a list are looked at on their own.

## Main results

* `digitsValue_digitsOfNat`, `digitsOfNat_digitsValue`: numbers and their digits.
* `digitsValue_append_zeros`, `digitsValue_zeros_append`: zeros at either end.
* `not_dvd_digitsValue`: a number whose last digit is not zero.
-/

namespace MailMerge.Decimal

/-! ## Digits and characters -/

theorem digitChar_of_lt : ∀ d, d < 10 →
    isDigit (digitChar d) = true ∧ digitOf? (digitChar d) = some d ∧
      (digitChar d = '0' → d = 0) := by
  decide

theorem digitsOf_map_digitChar {ds : List Nat} (digits : ∀ d ∈ ds, d < 10) :
    digitsOf (ds.map digitChar) = ds := by
  induction ds with
  | nil => rfl
  | cons d ds ih =>
    obtain ⟨first, rest⟩ := List.forall_mem_cons.mp digits
    rw [List.map_cons, digitsOf, List.filterMap_cons_some (digitChar_of_lt d first).2.1]
    exact congrArg (d :: ·) (ih rest)

theorem isDigit_of_mem_map {ds : List Nat} (digits : ∀ d ∈ ds, d < 10) {c : Char}
    (mem : c ∈ ds.map digitChar) : isDigit c = true := by
  obtain ⟨d, here, rfl⟩ := List.mem_map.mp mem
  exact (digitChar_of_lt d (digits d here)).1

/-! ## The digits of a number -/

theorem lt_of_mem_digitsOfNat {n d : Nat} (h : d ∈ digitsOfNat n) : d < 10 := by
  induction n using digitsOfNat.induct with
  | case1 n lt =>
    rw [digitsOfNat, if_pos lt, List.mem_singleton] at h
    omega
  | case2 n ge ih =>
    rw [digitsOfNat, if_neg ge, List.mem_append, List.mem_singleton] at h
    rcases h with mem | rfl
    · exact ih mem
    · omega

theorem digitsOfNat_ne_nil (n : Nat) : digitsOfNat n ≠ [] := by
  rw [digitsOfNat]
  split <;> simp

/-- The digits of a number denote it. -/
theorem digitsValue_digitsOfNat (n : Nat) : digitsValue (digitsOfNat n) = n := by
  induction n using digitsOfNat.induct with
  | case1 n lt =>
    rw [digitsOfNat, if_pos lt]
    simp [digitsValue]
  | case2 n ge ih =>
    rw [digitsOfNat, if_neg ge, digitsValue_append, ih]
    have pow : Nat.pow 10 [n % 10].length = 10 := rfl
    have last : digitsValue [n % 10] = n % 10 := by simp [digitsValue]
    rw [pow, last]
    omega

/-- No number but zero starts with a zero. -/
theorem eq_zero_of_head?_digitsOfNat {n : Nat} (h : (digitsOfNat n).head? = some 0) : n = 0 := by
  induction n using digitsOfNat.induct with
  | case1 n lt =>
    rw [digitsOfNat, if_pos lt] at h
    exact Option.some.inj h
  | case2 n ge ih =>
    rw [digitsOfNat, if_neg ge, List.head?_append_of_ne_nil _ (digitsOfNat_ne_nil _)] at h
    have := ih h
    omega

/-! ## The number that digits denote -/

theorem digitsValue_snoc (ds : List Nat) (d : Nat) :
    digitsValue (ds ++ [d]) = 10 * digitsValue ds + d := by
  rw [digitsValue, List.foldl_append]
  rfl

@[simp] theorem digitsValue_replicate_zero (n : Nat) : digitsValue (List.replicate n 0) = 0 := by
  induction n with
  | zero => rfl
  | succ n ih => rw [List.replicate_succ', digitsValue_snoc, ih]

/-- Zeros behind the digits multiply by powers of ten. -/
theorem digitsValue_append_zeros (ds : List Nat) (n : Nat) :
    digitsValue (ds ++ List.replicate n 0) = digitsValue ds * 10 ^ n := by
  rw [digitsValue_append, List.length_replicate, digitsValue_replicate_zero, add_zero]
  rfl

/-- Zeros in front of the digits say nothing. -/
theorem digitsValue_zeros_append (n : Nat) (ds : List Nat) :
    digitsValue (List.replicate n 0 ++ ds) = digitsValue ds := by
  rw [digitsValue_append, digitsValue_replicate_zero, zero_mul, zero_add]

/-- The number that starts with a digit other than zero is at least the power of ten of this
place. -/
theorem le_digitsValue {ds : List Nat} (some_digit : ds ≠ []) (first : ds.head? ≠ some 0) :
    10 ^ (ds.length - 1) ≤ digitsValue ds := by
  obtain ⟨d, ds, rfl⟩ := List.exists_cons_of_ne_nil some_digit
  have positive : 1 ≤ d := Nat.one_le_iff_ne_zero.mpr fun zero => first (congrArg some zero)
  have split : digitsValue (d :: ds) = d * 10 ^ ds.length + digitsValue ds := by
    rw [← List.singleton_append, digitsValue_append, show digitsValue [d] = d by simp [digitsValue]]
    rfl
  calc 10 ^ ((d :: ds).length - 1)
    _ = 1 * 10 ^ ds.length := by rw [List.length_cons, Nat.add_sub_cancel, one_mul]
    _ ≤ d * 10 ^ ds.length := Nat.mul_le_mul_right _ positive
    _ ≤ digitsValue (d :: ds) := by omega

/-- Digits without a leading zero are the notation of the number that they denote. -/
theorem digitsOfNat_digitsValue {ds : List Nat} (digits : ∀ d ∈ ds, d < 10) (some_digit : ds ≠ [])
    (first : ds.head? ≠ some 0) : digitsOfNat (digitsValue ds) = ds := by
  induction ds using List.reverseRecOn with
  | nil => exact absurd rfl some_digit
  | append_singleton ds d ih =>
    have small : d < 10 := digits d (by simp)
    rw [digitsValue_snoc, digitsOfNat]
    by_cases single : ds = []
    · subst single
      rw [if_pos (by simpa [digitsValue] using small)]
      simp [digitsValue]
    · -- what stands in front of the last digit does not start with a zero either
      rw [List.head?_append_of_ne_nil _ single] at first
      have positive : 1 ≤ digitsValue ds :=
        (Nat.one_le_pow _ _ (by decide)).trans (le_digitsValue single first)
      rw [if_neg (by omega), show (10 * digitsValue ds + d) / 10 = digitsValue ds by omega,
        show (10 * digitsValue ds + d) % 10 = d by omega,
        ih (fun e mem => digits e (by simp [mem])) single first]

/-- A number whose last digit is not zero is no multiple of ten. -/
theorem not_dvd_digitsValue {ds : List Nat} (digits : ∀ d ∈ ds, d < 10) (some_digit : ds ≠ [])
    (last : ds.getLast? ≠ some 0) : ¬ 10 ∣ digitsValue ds := by
  induction ds using List.reverseRecOn with
  | nil => exact absurd rfl some_digit
  | append_singleton ds d _ =>
    have small : d < 10 := digits d (by simp)
    have ne : d ≠ 0 := by simpa using last
    rw [digitsValue_snoc]
    omega

end MailMerge.Decimal
