import MailMerge.Proofs.Decimal.Exponential

/-!
# What is shown for a number

The text that is shown for a number is a numeral of just this number: nothing is rounded, whatever
the number of digits and the exponent are. There are no superfluous zeros in it, and so no two
numbers are shown alike. A whole number below `10 ^ 21` is shown as whole numbers always are.

## Main definitions

* `Scientific.numeral`: the numeral that is shown for a number.

## Main results

* `display_eq_chars`, `value_numeral`: the text is this numeral, and it denotes the number.
* `scanNumeral_display`: the text is read as this numeral.
* `display_of_whole`: whole numbers are shown like whole numbers.
* `display_exact`: all of it together.
-/

namespace MailMerge.Decimal.Scientific

open Json (Ends scanNumeral)

variable {s t : Scientific}

/-! ## The numeral -/

/-- The numeral that is shown for a number. Places without a digit of the number are filled up
with zeros. -/
def numeral (s : Scientific) : Numeral :=
  let point := (s.exponent + 1).toNat
  if s.exponent < -6 ∨ 20 < s.exponent then
    ⟨s.negative, s.digits.take 1, s.digits.drop 1, some s.exponent⟩
  else if s.exponent < 0 then
    ⟨s.negative, [0], List.replicate (-(s.exponent + 1)).toNat 0 ++ s.digits, none⟩
  else
    ⟨s.negative, s.digits.take point ++ List.replicate (point - s.digits.length) 0,
      s.digits.drop point, none⟩

theorem numeral_of_far (h : s.exponent < -6 ∨ 20 < s.exponent) :
    s.numeral = ⟨s.negative, s.digits.take 1, s.digits.drop 1, some s.exponent⟩ := if_pos h

theorem numeral_of_small (le : -6 ≤ s.exponent) (lt : s.exponent < 0) :
    s.numeral =
      ⟨s.negative, [0], List.replicate (-(s.exponent + 1)).toNat 0 ++ s.digits, none⟩ := by
  rw [numeral, if_neg (by omega), if_pos lt]

theorem numeral_of_short (le : s.exponent ≤ 20) (short : s.digits.length ≤ (s.exponent + 1).toNat)
    (positive : 0 ≤ s.exponent) :
    s.numeral = ⟨s.negative,
      s.digits ++ List.replicate ((s.exponent + 1).toNat - s.digits.length) 0, [], none⟩ := by
  rw [numeral, if_neg (by omega), if_neg (by omega), List.take_of_length_le short,
    List.drop_eq_nil_of_le short]

theorem numeral_of_long (le : s.exponent ≤ 20) (long : (s.exponent + 1).toNat < s.digits.length)
    (positive : 0 ≤ s.exponent) :
    s.numeral = ⟨s.negative, s.digits.take (s.exponent + 1).toNat,
      s.digits.drop (s.exponent + 1).toNat, none⟩ := by
  rw [numeral, if_neg (by omega), if_neg (by omega), Nat.sub_eq_zero_of_le long.le,
    List.replicate_zero, List.append_nil]

/-- A number is shown in one of four ways. -/
theorem layout_cases (s : Scientific) :
    (s.exponent < -6 ∨ 20 < s.exponent) ∨ (-6 ≤ s.exponent ∧ s.exponent < 0) ∨
      (0 ≤ s.exponent ∧ s.exponent ≤ 20 ∧ s.digits.length ≤ (s.exponent + 1).toNat) ∨
      (0 ≤ s.exponent ∧ s.exponent ≤ 20 ∧ (s.exponent + 1).toNat < s.digits.length) := by
  omega

theorem exponent_numeral (s : Scientific) :
    s.numeral.exponent = if -6 ≤ s.exponent ∧ s.exponent ≤ 20 then none else some s.exponent := by
  rcases s.layout_cases with far | ⟨le, lt⟩ | ⟨positive, le, short⟩ | ⟨positive, le, long⟩
  · rw [numeral_of_far far, if_neg (by omega)]
  · rw [numeral_of_small le lt, if_pos (by omega)]
  · rw [numeral_of_short le short positive, if_pos (by omega)]
  · rw [numeral_of_long le long positive, if_pos (by omega)]

theorem negative_numeral (s : Scientific) : s.numeral.negative = s.negative := by
  rw [numeral]
  split_ifs <;> rfl

/-- The numeral has no superfluous zeros. -/
theorem tidy_numeral (normal : s.Normal) : s.numeral.Tidy := by
  have taken {n : Nat} : ∀ d ∈ s.digits.take n, d < 10 := fun d mem =>
    normal.digits d (List.mem_of_mem_take mem)
  have dropped {n : Nat} : ∀ d ∈ s.digits.drop n, d < 10 := fun d mem =>
    normal.digits d (List.mem_of_mem_drop mem)
  have filled {ds : List Nat} (h : ∀ d ∈ ds, d < 10) (n : Nat) :
      ∀ d ∈ List.replicate n 0 ++ ds, d < 10 := by
    intro d mem
    rcases List.mem_append.mp mem with mem | mem
    · rw [List.eq_of_mem_replicate mem]
      decide
    · exact h d mem
  -- what is cut off in front starts like the digits do, and what is left ends like they do
  have first {n : Nat} (positive : 0 < n) (more : List Nat) :
      s.digits.take n ++ more ≠ [] ∧ (s.digits.take n ++ more).head? ≠ some 0 := by
    obtain ⟨d, ds, eq⟩ := List.exists_cons_of_ne_nil normal.some_digit
    obtain ⟨n, rfl⟩ := Nat.exists_eq_succ_of_ne_zero positive.ne'
    have ne := normal.first
    rw [eq] at ne ⊢
    exact ⟨by simp, by simpa using ne⟩
  have last (n : Nat) : (s.digits.drop n).getLast? ≠ some 0 := by
    rw [List.getLast?_drop]
    split
    · exact nofun
    · exact normal.last
  rcases s.layout_cases with far | ⟨le, lt⟩ | ⟨positive, le, short⟩ | ⟨positive, le, long⟩
  · rw [numeral_of_far far]
    exact ⟨taken, dropped, .inr (by simpa using first Nat.one_pos []), last 1⟩
  · rw [numeral_of_small le lt]
    refine ⟨by simp, filled normal.digits _, .inl rfl, ?_⟩
    rw [List.getLast?_append_of_ne_nil _ normal.some_digit]
    exact normal.last
  · rw [numeral_of_short le short positive]
    refine ⟨fun d mem => ?_, nofun, .inr ?_, nofun⟩
    · exact filled normal.digits _ d (List.mem_append.mpr (List.mem_append.mp mem).symm)
    · have := first (n := (s.exponent + 1).toNat) (by omega)
        (List.replicate ((s.exponent + 1).toNat - s.digits.length) 0)
      rwa [List.take_of_length_le short] at this
  · rw [numeral_of_long le long positive]
    have := first (n := (s.exponent + 1).toNat) (by omega) []
    exact ⟨taken, dropped, .inr (by simpa using this), last _⟩

/-- The numeral denotes the number. -/
theorem value_numeral (normal : s.Normal) : s.numeral.value = s.value := by
  -- all digits together are those of the number, up to zeros that the scale makes up for
  suffices h : ∃ zeros : Nat, s.numeral.significand = digitsValue s.digits * 10 ^ zeros ∧
      s.numeral.scale + zeros = s.scale by
    obtain ⟨zeros, significand, scale⟩ := h
    rw [Numeral.value, value_eq normal.some_digit, significand, ← scale, negative_numeral,
      zpow_add₀ (by norm_num)]
    push_cast
    rw [zpow_natCast]
    ring
  have length : 1 ≤ s.digits.length := List.length_pos_of_ne_nil normal.some_digit
  rcases s.layout_cases with far | ⟨le, lt⟩ | ⟨positive, le, short⟩ | ⟨positive, le, long⟩
  · rw [numeral_of_far far]
    refine ⟨0, ?_, ?_⟩
    · rw [Numeral.significand, List.take_append_drop, pow_zero, mul_one]
    · simp only [Numeral.scale, Option.getD_some, List.length_drop, scale]
      omega
  · rw [numeral_of_small le lt]
    refine ⟨0, ?_, ?_⟩
    · rw [Numeral.significand, pow_zero, mul_one]
      exact (digitsValue_zeros_append 1 _).trans (digitsValue_zeros_append _ _)
    · simp only [Numeral.scale, Option.getD_none, List.length_append, List.length_replicate, scale]
      omega
  · rw [numeral_of_short le short positive]
    refine ⟨(s.exponent + 1).toNat - s.digits.length, ?_, ?_⟩
    · rw [Numeral.significand, List.append_nil, digitsValue_append_zeros]
    · simp only [Numeral.scale, Option.getD_none, List.length_nil, scale]
      omega
  · rw [numeral_of_long le long positive]
    refine ⟨0, ?_, ?_⟩
    · rw [Numeral.significand, List.take_append_drop, pow_zero, mul_one]
    · simp only [Numeral.scale, Option.getD_none, List.length_drop, scale]
      omega

/-! ## The text -/

/-- The text that is shown is the numeral. -/
theorem display_eq_chars (normal : s.Normal) : s.display = s.numeral.chars := by
  have chars {ds : List Nat} : (digitChars ds).isEmpty = true ↔ ds = [] := by
    rw [List.isEmpty_iff, digitChars, List.map_eq_nil_iff]
  rw [display_eq, Numeral.chars, negative_numeral]
  congr 1
  rcases s.layout_cases with far | ⟨le, lt⟩ | ⟨positive, le, short⟩ | ⟨positive, le, long⟩
  · rw [numeral_of_far far, displayBody, if_neg (by omega), withPower]
    dsimp only
    rw [Numeral.fractionChars, List.append_assoc]
    congr 2
    simp only [chars]
  · have some_digit : List.replicate (-(s.exponent + 1)).toNat 0 ++ s.digits ≠ [] := by
      simp [normal.some_digit]
    rw [numeral_of_small le lt, displayBody, if_pos (by omega), positional, if_pos (by omega)]
    dsimp only
    rw [Numeral.fractionChars, if_neg some_digit, Numeral.powerChars, List.append_nil]
    simp only [digitChars, List.map_append, List.map_replicate]
    rfl
  · rw [numeral_of_short le short positive, displayBody, if_pos (by omega), positional,
      if_neg (by omega), if_pos short]
    dsimp only
    rw [Numeral.fractionChars, if_pos rfl, Numeral.powerChars]
    simp only [digitChars, List.map_append, List.map_replicate]
    rfl
  · have some_digit : s.digits.drop (s.exponent + 1).toNat ≠ [] := by
      rw [ne_eq, List.drop_eq_nil_iff]
      omega
    rw [numeral_of_long le long positive, displayBody, if_pos (by omega), positional,
      if_neg (by omega), if_neg (by omega)]
    dsimp only
    rw [Numeral.fractionChars, if_neg some_digit, Numeral.powerChars, List.append_nil]

/-- The text that is shown is read as the numeral. -/
theorem scanNumeral_display (normal : s.Normal) {rest : List Char} (ends : Ends rest) :
    scanNumeral (s.display ++ rest) = .ok (s.numeral, rest) := by
  rw [display_eq_chars normal]
  exact Json.scanNumeral_chars (tidy_numeral normal) ends

/-- No two numbers are shown alike: they can be read back. -/
theorem Normal.eq_of_display_eq (hs : s.Normal) (ht : t.Normal) (h : s.display = t.display) :
    s = t := by
  have read := scanNumeral_display hs Json.ends_nil
  rw [h, scanNumeral_display ht Json.ends_nil] at read
  have same : t.numeral = s.numeral := congrArg Prod.fst (Except.ok.inj read)
  apply hs.eq_of_value_eq ht
  rw [← value_numeral hs, ← value_numeral ht, same]

/-- A whole number below `10 ^ 21` is shown in plain decimal notation. -/
theorem display_of_whole (normal : s.Normal) {i : Int} (whole : s.value = i)
    (small : i.natAbs < 10 ^ 21) : s.display = intChars i := by
  obtain ⟨short, least, digits, negative⟩ := normal.digitsOfNat_of_value_eq whole
  have length : 1 ≤ s.digits.length := List.length_pos_of_ne_nil normal.some_digit
  have le : s.exponent ≤ 20 := by
    have : s.exponent.toNat < 21 := (Nat.pow_lt_pow_iff_right (by decide)).mp (least.trans_lt small)
    omega
  rw [display_eq_chars normal, ← Json.chars_of_whole, numeral_of_short le (by omega) (by omega),
    digits]
  have point : (s.exponent + 1).toNat = s.exponent.toNat + 1 := by omega
  have sign : decide (i < 0) = s.negative := by rw [Bool.eq_iff_iff, decide_eq_true_iff, negative]
  rw [point, sign]

/-- **A number is shown exactly.** The text is put together without running into the limits of any
step. It is one numeral and is read as this one: the numeral denotes the number itself, it has a
power of ten, with its sign, just for the exponents below `-6` and above `20`, and there are no
superfluous zeros. Whole numbers below `10 ^ 21` are shown like whole numbers, no other number in
normal form is shown alike, and a double is shown as its shortest notation; only a zero, whatever its
sign, is a single digit. -/
theorem display_exact (s : Scientific) (normal : s.Normal) :
    (s.digits.length < 10 ^ 9 → s.exponent.natAbs < 10 ^ 9 → s.shown? = some s.display) ∧
    (∃ m : Numeral, m.Tidy ∧ s.display = m.chars ∧
      (∀ rest, Ends rest → scanNumeral (s.display ++ rest) = .ok (m, rest)) ∧
      m.value = s.value ∧
      m.exponent = if -6 ≤ s.exponent ∧ s.exponent ≤ 20 then none else some s.exponent) ∧
    (∀ i : Int, s.value = i → i.natAbs < 10 ^ 21 →
      s.display = intChars i ∧ String.ofList s.display = (Number.whole i).display) ∧
    (∀ t : Scientific, t.Normal → t.display = s.display → t = s) ∧
    ∀ d : Binary64,
      (d.isZero = true → d.shown? = some ['0'] ∧ (Number.double d).display = "0") ∧
      (d.isZero = false → d.shortest .away = s →
        d.shown? = s.shown? ∧ (Number.double d).display = String.ofList s.display) := by
  refine ⟨shown?_eq normal, ⟨s.numeral, tidy_numeral normal, display_eq_chars normal,
    fun rest ends => scanNumeral_display normal ends, value_numeral normal, exponent_numeral s⟩,
    fun i whole small => ?_, fun t ht same => ht.eq_of_display_eq normal same, fun d => ⟨?_, ?_⟩⟩
  · have text := display_of_whole normal whole small
    exact ⟨text, congrArg String.ofList text⟩
  · intro zero
    exact ⟨if_pos zero, congrArg String.ofList (if_pos zero)⟩
  · rintro other rfl
    have shown : d.display = (d.shortest .away).display := if_neg (by simp [other])
    exact ⟨if_neg (by simp [other]), congrArg String.ofList shown⟩

theorem display_exact_tiny :
    let tiny : Scientific := ⟨true, [1, 5], -7⟩
    let big : Scientific := ⟨false, [1, 2, 5], 20⟩
    tiny.shown? = some ['-', '1', '.', '5', 'e', '-', '7'] ∧
      (∃ m : Numeral, m.chars = tiny.display ∧ m.value = tiny.value ∧ m.exponent = some (-7)) ∧
      big.display = intChars 125000000000000000000 := by
  intro tiny big
  have normal : tiny.Normal := ⟨by decide, by decide, by decide, by decide⟩
  have normal' : big.Normal := ⟨by decide, by decide, by decide, by decide⟩
  have text : tiny.display = ['-', '1', '.', '5', 'e', '-', '7'] := by decide +kernel
  have whole : big.value = (125000000000000000000 : Int) := by
    norm_num [big, Scientific.value, sign, digitsValue]
  obtain ⟨shown, ⟨m, -, chars, -, denotes, power⟩, -⟩ := display_exact tiny normal
  refine ⟨?_, ⟨m, chars.symm, denotes, power⟩, ?_⟩
  · rw [← text]
    exact shown (by decide) (by decide)
  · exact ((display_exact big normal').2.2.1 _ whole (by decide)).1

end MailMerge.Decimal.Scientific
