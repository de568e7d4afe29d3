import MailMerge.Json.Write
import MailMerge.Proofs.Json.Numeral

/-!
# Written numbers and strings read back

A whole number is a numeral without point and power of ten, and the characters of a string are what
their escapes stand for. So both are read back as they were, and what follows them is left. Only
whole numbers that fit a word are looked at here.

## Main definitions

* `Number.isWord`: whole numbers that fit a word.

## Main results

* `scanNumber_intChars`, `scanString_escapedChars`: numbers and strings are read back.
-/

namespace MailMerge

namespace Number

/-- True for whole numbers that fit a word. -/
def isWord : Number → Bool
  | .whole i => fitsWord i
  | .double _ => false

theorem exists_of_isWord {n : Number} (h : n.isWord = true) :
    ∃ i, n = .whole i ∧ fitsWord i = true := by
  cases n with
  | whole i => exact ⟨i, rfl, h⟩
  | double d => cases h

end Number

namespace Json

open Decimal

/-! ## Numbers -/

theorem exists_digit_natChars (n : Nat) : ∃ c cs, natChars n = c :: cs ∧ isDigit c = true := by
  cases digits : digitsOfNat n with
  | nil => exact absurd digits (digitsOfNat_ne_nil n)
  | cons d ds =>
    have small : d < 10 := lt_of_mem_digitsOfNat (n := n) (by rw [digits]; exact List.mem_cons_self)
    exact ⟨digitChar d, ds.map digitChar, by rw [natChars, digits, List.map_cons],
      (digitChar_of_lt d small).1⟩

/-- A whole number starts with a sign or with a digit. -/
theorem exists_start_intChars (i : Int) :
    ∃ c cs, intChars i = c :: cs ∧ (c = '-' ∨ isDigit c = true) := by
  rw [intChars]
  split
  · exact ⟨'-', _, rfl, .inl rfl⟩
  · obtain ⟨c, cs, chars, digit⟩ := exists_digit_natChars i.natAbs
    exact ⟨c, cs, chars, .inr digit⟩

/-- A whole number is a numeral without point and power of ten. -/
theorem chars_of_whole (i : Int) :
    Numeral.chars ⟨decide (i < 0), digitsOfNat i.natAbs, [], none⟩ = intChars i := by
  have digits : Scientific.digitChars (digitsOfNat i.natAbs) ++ ([] ++ []) = natChars i.natAbs := by
    rw [List.append_nil, List.append_nil]
    rfl
  rw [Numeral.chars, intChars]
  by_cases negative : i < 0
  · rw [if_pos (by simpa using negative), if_pos negative]
    exact congrArg ('-' :: ·) digits
  · rw [if_neg (by simpa using negative), if_neg negative]
    exact digits

theorem tidy_of_whole (i : Int) :
    Numeral.Tidy ⟨decide (i < 0), digitsOfNat i.natAbs, [], none⟩ where
  whole_digits d mem := lt_of_mem_digitsOfNat mem
  fraction_digits := nofun
  whole := by
    by_cases zero : i.natAbs = 0
    · left
      rw [zero, digitsOfNat, if_pos (by decide)]
    · exact .inr ⟨digitsOfNat_ne_nil _, fun first => zero (eq_zero_of_head?_digitsOfNat first)⟩
  fraction := nofun

/-- A numeral without point and power of ten is read back. -/
theorem scanNumeral_intChars (i : Int) {rest : List Char} (ends : Ends rest) :
    scanNumeral (intChars i ++ rest) =
      .ok (⟨decide (i < 0), digitsOfNat i.natAbs, [], none⟩, rest) := by
  rw [← chars_of_whole]
  exact scanNumeral_chars (tidy_of_whole i) ends

/-- A whole number in the range of words is read back. -/
theorem scanNumber_intChars {i : Int} (fits : Number.fitsWord i = true) {rest : List Char}
    (ends : Ends rest) : scanNumber (intChars i ++ rest) = .ok (.ok (.whole i), rest) := by
  have number : Number.ofNumeral? ⟨decide (i < 0), digitsOfNat i.natAbs, [], none⟩ =
      some (.whole i) := by
    have value : (if decide (i < 0) = true then -(i.natAbs : Int) else i.natAbs) = i := by
      split <;> simp only [decide_eq_true_eq] at * <;> omega
    have zero : (decide (i < 0) && i == 0) = false := by
      simp
      omega
    rw [Number.ofNumeral?, Numeral.significand, List.append_nil, digitsValue_digitsOfNat]
    dsimp only
    rw [value, fits, zero]
    rfl
  refine bind_eq_ok_iff.mpr ⟨_, scanNumeral_intChars i ends, ?_⟩
  dsimp only
  rw [number]
  rfl

/-! ## Strings -/

/-- The code unit of a control character is read back. -/
theorem hexNumber?_control : ∀ n, n < 32 →
    Text.hexNumber? ['0', '0', Text.hexSmall (n / 16), Text.hexSmall (n % 16)] = some n := by
  decide

/-- A character of a string is read back from what is written for it. -/
theorem scanParts_escapedChar (c : Char) (tail : List Char) :
    ∃ part, scanParts (escapedChar c ++ tail) = (part :: (scanParts tail).1, (scanParts tail).2) ∧
      ∀ last parts, joinParts last (part :: parts) = (joinParts last parts).map (c :: ·) := by
  rw [escapedChar]
  split_ifs with h₁ h₂ h₃ h₄ h₅ h₆ h₇ control
  iterate 7
    · subst c
      exact ⟨.char _, by simp [scanParts, escaped?], fun _ _ => rfl⟩
  · -- a control character is written as a code unit below the surrogates
    have small : c.toNat < 32 := control
    have unit : Text.hexNumber?
        ['0', '0', Text.hexSmall (c.toNat / 16), Text.hexSmall (c.toNat % 16)] = some c.toNat :=
      hexNumber?_control c.toNat small
    refine ⟨.unit c.toNat, ?_, fun last parts => ?_⟩
    · simp [scanParts, unit]
    · have trailing : isTrailing c.toNat = false := by
        simp only [isTrailing, Bool.and_eq_false_iff, decide_eq_false_iff_not]
        omega
      have leading : isLeading c.toNat = false := by
        simp only [isLeading, Bool.and_eq_false_iff, decide_eq_false_iff_not]
        omega
      rw [joinParts.eq_def]
      simp [trailing, leading]
  · refine ⟨.char c, ?_, fun _ _ => rfl⟩
    rw [List.singleton_append, scanParts.eq_def]
    split <;> simp_all

theorem scanParts_escapedChars (cs rest : List Char) :
    ∃ parts, scanParts (escapedChars cs ++ '"' :: rest) = (parts, .closed rest) ∧
      ∀ last, joinParts last parts = .ok cs := by
  induction cs with
  | nil => exact ⟨[], by simp [escapedChars, scanParts], fun _ => rfl⟩
  | cons c cs ih =>
    obtain ⟨parts, scanned, joined⟩ := ih
    obtain ⟨part, first, adds⟩ := scanParts_escapedChar c (escapedChars cs ++ '"' :: rest)
    refine ⟨part :: parts, ?_, fun last => ?_⟩
    · rw [escapedChars, List.flatMap_cons, List.append_assoc]
      change scanParts (escapedChar c ++ (escapedChars cs ++ '"' :: rest)) = _
      rw [first, scanned]
    · rw [adds, joined]
      rfl

/-- A string is read back. -/
theorem scanString_escapedChars (s : String) (rest : List Char) :
    scanString (escapedChars s.toList ++ '"' :: rest) = .ok (.ok s, rest) := by
  obtain ⟨parts, scanned, joined⟩ := scanParts_escapedChars s.toList rest
  rw [scanString, scanned]
  dsimp only
  rw [joined]
  simp [Except.map]

end Json

end MailMerge
