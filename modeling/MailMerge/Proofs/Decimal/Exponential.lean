import MailMerge.Context.Display
import MailMerge.Decimal.Exponential
import MailMerge.Proofs.Decimal.Value
import MailMerge.Proofs.Json.Token

/-!
# Putting the shown text together

Each step on the way from exponential notation to the shown text can fail on its own: the power of
ten may be no word, a text may be cut behind its end, a count may be negative. None of them does
fail for the notation of a number, as long as its length and its exponent are far from the limits
of words. The text that comes out in the end is the one that is shown.

## Main definitions

* `Scientific.displayBody`: the shown text without its sign.

## Main results

* `takeApart?_exponential`: exponential notation is taken apart into what it has been made from.
* `putTogether?_eq`: digits and power of ten are put together.
* `shown?_eq`: both steps have a result, and it is the text that is shown.
-/

namespace MailMerge.Decimal

open Scientific (digitChars)

/-! ## Words, counts and cuts -/

theorem word?_of_lt {i : Int} (h : i.natAbs < 2 ^ 31) : word? i = some i :=
  if_pos (by omega)

theorem count?_of_nonneg {i : Int} (h : 0 ≤ i) : count? i = some i.toNat := if_pos h

theorem zeros?_of_nonneg {i : Int} (h : 0 ≤ i) : zeros? i = some (List.replicate i.toNat '0') := by
  rw [zeros?, count?_of_nonneg h]
  rfl

theorem cut?_of_le {cs : List Char} {i : Int} (h : 0 ≤ i) (le : i.toNat ≤ cs.length) :
    cut? cs i = some (cs.take i.toNat, cs.drop i.toNat) := by
  rw [cut?, count?_of_nonneg h]
  exact if_pos le

/-- A text is parted at the first occurrence of a character. -/
theorem partsAround?_append {mark : Char} {cs : List Char} (h : mark ∉ cs) (rest : List Char) :
    partsAround? mark (cs ++ mark :: rest) = some (cs, rest) := by
  have before : ∀ c ∈ cs, decide (c ≠ mark) = true := fun _ mem =>
    decide_eq_true (ne_of_mem_of_not_mem mem h)
  rw [partsAround?, List.dropWhile_append_of_pos before, List.takeWhile_append_of_pos before]
  simp

/-- A word is read back from its decimal notation. -/
theorem readWord?_intChars {i : Int} (h : i.natAbs < 2 ^ 31) : readWord? (intChars i) = some i := by
  have digits : ∀ d ∈ digitsOfNat i.natAbs, d < 10 := fun d mem => lt_of_mem_digitsOfNat mem
  have unsigned (negative : Bool) : unsignedWord? negative (natChars i.natAbs) =
      word? (if negative then -(i.natAbs : Int) else i.natAbs) := by
    have some_digit : natChars i.natAbs ≠ [] := by
      simpa [natChars] using digitsOfNat_ne_nil i.natAbs
    have all : (natChars i.natAbs).all isDigit = true :=
      List.all_eq_true.mpr fun c mem => isDigit_of_mem_map digits mem
    rw [unsignedWord?, if_pos ⟨some_digit, all⟩, natChars, digitsOf_map_digitChar digits,
      digitsValue_digitsOfNat]
  by_cases negative : i < 0
  · rw [intChars, if_pos negative]
    change unsignedWord? true _ = _
    rw [unsigned, if_pos rfl, show -(i.natAbs : Int) = i by omega, word?_of_lt h]
  · rw [intChars, if_neg negative]
    obtain ⟨c, cs, chars, digit⟩ := Json.exists_digit_natChars i.natAbs
    have no_sign : readWord? (c :: cs) = unsignedWord? false (c :: cs) := by
      refine readWord?.eq_3 _ ?_ ?_
      · rintro cs' ⟨⟩
        cases digit
      · rintro cs' ⟨⟩
        cases digit
    rw [chars, no_sign, ← chars, unsigned, if_neg (by decide), show (i.natAbs : Int) = i by omega,
      word?_of_lt h]

namespace Scientific

variable {s t : Scientific}

/-! ## The steps on the way to the text -/

theorem filter_digitChars {ds : List Nat} (digits : ∀ d ∈ ds, d < 10) :
    (digitChars ds).filter isDigit = digitChars ds :=
  List.filter_eq_self.mpr fun _ mem => isDigit_of_mem_map digits mem

/-- The digits and the power of ten are taken from exponential notation as they are. -/
theorem takeApart?_exponential (negative : s.negative = false) (digits : ∀ d ∈ s.digits, d < 10)
    (exponent : s.exponent.natAbs < 2 ^ 31) :
    takeApart? s.exponential = some (digitChars s.digits, s.exponent) := by
  have first : ∀ d ∈ s.digits.take 1, d < 10 := fun d mem => digits d (List.mem_of_mem_take mem)
  have rest : ∀ d ∈ s.digits.drop 1, d < 10 := fun d mem => digits d (List.mem_of_mem_drop mem)
  have no_mark {ds : List Nat} (digits : ∀ d ∈ ds, d < 10) : 'e' ∉ digitChars ds := fun mem =>
    absurd (isDigit_of_mem_map digits mem) (by decide)
  -- the mantissa is the digits with a point among them
  obtain ⟨mantissa, eq, mark, digit⟩ : ∃ mantissa, s.exponential = mantissa ++ 'e' :: intChars s.exponent ∧
      'e' ∉ mantissa ∧ mantissa.filter isDigit = digitChars s.digits := by
    refine ⟨_, by rw [exponential, negative, if_neg (by decide), List.nil_append], ?_, ?_⟩
    · split
      · simpa using no_mark first
      · rw [List.drop_one] at rest
        simpa using ⟨no_mark first, no_mark rest⟩
    · have whole : digitChars s.digits = digitChars (s.digits.take 1) ++ digitChars (s.digits.drop 1) := by
        rw [digitChars, digitChars, digitChars, ← List.map_append, List.take_append_drop]
      rw [whole, List.filter_append, filter_digitChars first]
      split
      · rename_i none
        rw [List.isEmpty_iff.mp none]
        rfl
      · rw [List.filter_cons_of_neg (by decide), filter_digitChars rest]
  rw [takeApart?, eq, partsAround?_append mark]
  change (readWord? (intChars s.exponent) >>= fun e => some (mantissa.filter isDigit, e)) = _
  rw [readWord?_intChars exponent, digit]
  rfl

/-- The text that is shown behind the sign. -/
def displayBody (digits : List Nat) (exponent : Int) : List Char :=
  if -6 ≤ exponent ∧ exponent ≤ 20 then positional displayLayout digits exponent
  else withPower digits exponent

theorem display_eq (s : Scientific) :
    s.display = (if s.negative then ['-'] else []) ++ displayBody s.digits s.exponent := rfl

/-- Putting a text together has a result as long as lengths and exponents are far from the limits
of words, and this is the text that is shown. -/
theorem putTogether?_eq {ds : List Nat} {e : Int} (some_digit : ds ≠ []) (length : ds.length < 10 ^ 9)
    (exponent : e.natAbs < 10 ^ 9) :
    putTogether? (digitChars ds) e = some (displayBody ds e) := by
  have chars : (digitChars ds).length = ds.length := List.length_map _
  have positive : 1 ≤ ds.length := List.length_pos_of_ne_nil some_digit
  rw [putTogether?, chars, word?_of_lt (by omega)]
  change (word? (e + 1) >>= _) = _
  rw [word?_of_lt (by omega), displayBody]
  dsimp only [Option.bind_eq_bind, Option.bind_some]
  by_cases filled : (ds.length : Int) ≤ e + 1 ∧ e + 1 ≤ 21
  · -- all digits stand before the point
    rw [if_pos filled, if_pos (by omega), positional, if_neg (by omega), if_pos (by omega),
      word?_of_lt (by omega), Option.bind_some, zeros?_of_nonneg (by omega), Option.bind_some]
    have same : (e + 1 - (ds.length : Int)).toNat = (e + 1).toNat - ds.length := by omega
    rw [same]
    exact congrArg some (by simp [displayLayout])
  · rw [if_neg filled]
    by_cases split : 0 < e + 1 ∧ e + 1 ≤ 21
    · -- the point stands among the digits
      rw [if_pos split, if_pos (by omega), positional, if_neg (by omega), if_neg (by omega),
        cut?_of_le (by omega) (by omega)]
      rw [digitChars, digitChars, digitChars, List.map_take, List.map_drop]
      rfl
    · rw [if_neg split]
      by_cases small : -6 < e + 1 ∧ e + 1 ≤ 0
      · -- all digits stand behind the point
        rw [if_pos small, if_pos (by omega), positional, if_pos (by omega),
          word?_of_lt (by omega), Option.bind_some, zeros?_of_nonneg (by omega)]
        rfl
      · rw [if_neg small, if_neg (by omega), show e + 1 - 1 = e by omega, word?_of_lt (by omega),
          Option.bind_some, word?_of_lt (by omega), Option.bind_some,
          cut?_of_le (by decide) (by rw [chars]; exact positive), Option.bind_some, withPower]
        have sign : (if 0 ≤ e then '+' else '-') = if e < 0 then '-' else '+' := by
          split_ifs <;> first | rfl | omega
        have size : intChars (e.natAbs : Int) = natChars e.natAbs := by
          rw [intChars, if_neg (by omega), Int.natAbs_natCast]
        rw [sign, size, digitChars, digitChars, digitChars, List.map_take, List.map_drop]
        rfl

/-- Every step on the way from exponential notation to the text has a result. -/
theorem shown?_eq (normal : s.Normal) (length : s.digits.length < 10 ^ 9)
    (exponent : s.exponent.natAbs < 10 ^ 9) : s.shown? = some s.display := by
  have word : s.exponent.natAbs < 2 ^ 31 := by omega
  have apart := takeApart?_exponential (s := { s with negative := false }) rfl normal.digits word
  have together := putTogether?_eq normal.some_digit length exponent
  refine Option.bind_eq_some_iff.mpr ⟨_, apart, Option.bind_eq_some_iff.mpr ⟨_, together, ?_⟩⟩
  rw [display_eq]
  cases s.negative <;> rfl

end Scientific

end MailMerge.Decimal
