import MailMerge.Decimal.Scientific
import MailMerge.Json.Scan
import MailMerge.Proofs.Decimal.Digits

/-!
# Written numerals read back

A numeral is written with a point only if there are digits behind it, and with a signed power of
ten only if it has one. What is written can be read in one way: the digits end at the point, at the
`e`, or where the numeral ends.

## Main definitions

* `Numeral.chars`: a numeral as it is written.
* `Numeral.Tidy`: a numeral without superfluous zeros.
* `Ends`: what may follow a value.

## Main results

* `scanNumeral_chars`: a numeral is read back from what is written for it.
-/

namespace MailMerge

namespace Decimal.Numeral

open Scientific (digitChars)

/-- The digits behind the point, and the point if there are any. -/
def fractionChars (fraction : List Nat) : List Char :=
  if fraction = [] then [] else '.' :: digitChars fraction

/-- A power of ten with its sign, if there is one. -/
def powerChars : Option Int → List Char
  | none => []
  | some e => 'e' :: (if e < 0 then '-' else '+') :: natChars e.natAbs

/-- A numeral as it is written. -/
def chars (m : Numeral) : List Char :=
  (if m.negative then ['-'] else []) ++
    (digitChars m.whole ++ (fractionChars m.fraction ++ powerChars m.exponent))

/-- A numeral without superfluous zeros: a zero in front is the only digit before the point, and
the last digit behind the point is not a zero. -/
structure Tidy (m : Numeral) : Prop where
  whole_digits : ∀ d ∈ m.whole, d < 10
  fraction_digits : ∀ d ∈ m.fraction, d < 10
  whole : m.whole = [0] ∨ m.whole ≠ [] ∧ m.whole.head? ≠ some 0
  fraction : m.fraction.getLast? ≠ some 0

end Decimal.Numeral

namespace Json

open Decimal
open Decimal.Numeral (fractionChars powerChars)
open Decimal.Scientific (digitChars)

/-- What may follow a value: nothing that could belong to a number. -/
def Ends (rest : List Char) : Prop :=
  ∀ c ∈ rest.head?, isDigit c = false ∧ c ≠ '.' ∧ c ≠ 'e' ∧ c ≠ 'E'

theorem ends_nil : Ends [] := nofun

theorem ends_cons {c : Char} (h : isDigit c = false ∧ c ≠ '.' ∧ c ≠ 'e' ∧ c ≠ 'E')
    (rest : List Char) : Ends (c :: rest) := by
  intro d mem
  rw [List.head?_cons, Option.mem_some_iff] at mem
  exact mem ▸ h

/-! ## Digits -/

/-- What may follow digits: anything but a digit. -/
def EndsDigits (rest : List Char) : Prop := ∀ c ∈ rest.head?, isDigit c = false

theorem Ends.endsDigits {rest : List Char} (h : Ends rest) : EndsDigits rest :=
  fun c mem => (h c mem).1

theorem spanDigits_digitChars {ds : List Nat} (digits : ∀ d ∈ ds, d < 10) {rest : List Char}
    (ends : EndsDigits rest) : spanDigits (digitChars ds ++ rest) = (ds, rest) := by
  have all : ∀ c ∈ digitChars ds, isDigit c = true := fun c mem => isDigit_of_mem_map digits mem
  have stops : rest.takeWhile isDigit = [] ∧ rest.dropWhile isDigit = rest := by
    cases rest with
    | nil => exact ⟨rfl, rfl⟩
    | cons c rest => simp [ends c rfl]
  rw [spanDigits, List.takeWhile_append_of_pos all, List.dropWhile_append_of_pos all, stops.1,
    stops.2, List.append_nil, digitChars, digitsOf_map_digitChar digits]

theorem someDigits_digitChars {ds : List Nat} (digits : ∀ d ∈ ds, d < 10) (some_digit : ds ≠ [])
    {rest : List Char} (ends : EndsDigits rest) :
    someDigits (digitChars ds ++ rest) = .ok (ds, rest) := by
  obtain ⟨d, ds, rfl⟩ := List.exists_cons_of_ne_nil some_digit
  rw [someDigits, spanDigits_digitChars digits ends]

/-- The digits before the point are read back unless there is a superfluous zero. -/
theorem scanWhole_digitChars {ds : List Nat} (digits : ∀ d ∈ ds, d < 10)
    (whole : ds = [0] ∨ ds ≠ [] ∧ ds.head? ≠ some 0) {rest : List Char} (ends : EndsDigits rest) :
    scanWhole (digitChars ds ++ rest) = .ok (ds, rest) := by
  rcases whole with rfl | ⟨some_digit, first⟩
  · have stop : (rest.head?.map isDigit).getD false = false := by
      cases rest with
      | nil => rfl
      | cons c rest => exact ends c rfl
    change (if (rest.head?.map isDigit).getD false = true then _ else _) = _
    rw [stop]
    rfl
  · rw [← someDigits_digitChars digits some_digit ends]
    obtain ⟨d, ds, rfl⟩ := List.exists_cons_of_ne_nil some_digit
    have ne : digitChar d ≠ '0' := fun eq =>
      first (congrArg some ((digitChar_of_lt d (digits d List.mem_cons_self)).2.2 eq))
    exact scanWhole.eq_2 _ (by simpa [digitChars] using ne)

/-! ## Points and powers of ten -/

theorem endsDigits_powerChars (e : Option Int) {rest : List Char} (ends : Ends rest) :
    EndsDigits (powerChars e ++ rest) := by
  cases e with
  | none => exact ends.endsDigits
  | some e =>
    intro c mem
    obtain rfl : 'e' = c := Option.some.inj mem
    rfl

theorem endsDigits_fractionChars (fraction : List Nat) {rest : List Char}
    (ends : EndsDigits rest) : EndsDigits (fractionChars fraction ++ rest) := by
  rw [fractionChars]
  split
  · exact ends
  · intro c mem
    obtain rfl : '.' = c := Option.some.inj mem
    rfl

/-- The digits behind the point are read back. -/
theorem scanFraction_fractionChars {ds : List Nat} (digits : ∀ d ∈ ds, d < 10) {rest : List Char}
    (ends : EndsDigits rest) (no_point : rest.head? ≠ some '.') :
    scanFraction (fractionChars ds ++ rest) = .ok (ds, rest) := by
  by_cases none : ds = []
  · subst none
    cases rest with
    | nil => rfl
    | cons c rest => exact scanFraction.eq_2 (c :: rest) (by simpa using no_point)
  · rw [fractionChars, if_neg none]
    exact someDigits_digitChars digits none ends

theorem scanPower_of_ends {rest : List Char} (ends : Ends rest) :
    scanPower rest = .ok (none, rest) := by
  cases rest with
  | nil => rfl
  | cons c rest =>
    obtain ⟨-, -, small, capital⟩ := ends c rfl
    unfold scanPower
    dsimp only
    rw [if_neg (by simp [small, capital])]
    rfl

/-- The power of ten is read back with its sign. -/
theorem scanPower_powerChars (e : Option Int) {rest : List Char} (ends : Ends rest) :
    scanPower (powerChars e ++ rest) = .ok (e, rest) := by
  cases e with
  | none => exact scanPower_of_ends ends
  | some e =>
    have digits : someDigits (natChars e.natAbs ++ rest) = .ok (digitsOfNat e.natAbs, rest) :=
      someDigits_digitChars (fun d mem => lt_of_mem_digitsOfNat mem) (digitsOfNat_ne_nil _)
        ends.endsDigits
    have value := digitsValue_digitsOfNat e.natAbs
    by_cases negative : e < 0
    · rw [powerChars, if_pos negative]
      change (someDigits (natChars e.natAbs ++ rest) >>= _) = _
      rw [digits]
      have back : -((digitsValue (digitsOfNat e.natAbs) : Nat) : Int) = e := by omega
      exact congrArg (fun e => Except.ok (some e, rest)) back
    · rw [powerChars, if_neg negative]
      change (someDigits (natChars e.natAbs ++ rest) >>= _) = _
      rw [digits]
      have back : ((digitsValue (digitsOfNat e.natAbs) : Nat) : Int) = e := by omega
      exact congrArg (fun e => Except.ok (some e, rest)) back

/-! ## Numerals -/

/-- A text that does not start with a minus sign is read as it stands. -/
theorem scanNumeral_of_no_sign {cs : List Char} (h : cs.head? ≠ some '-') :
    scanNumeral cs = (scanWhole cs >>= fun whole => scanFraction whole.2 >>= fun fraction =>
      scanPower fraction.2 >>= fun power =>
        .ok (⟨false, whole.1, fraction.1, power.1⟩, power.2)) := by
  unfold scanNumeral
  split
  rename_i sign
  split at sign
  · simp at h
  · cases sign
    rfl

/-- **A numeral is read back from what is written for it,** and what follows it is left. -/
theorem scanNumeral_chars {m : Numeral} (tidy : m.Tidy) {rest : List Char} (ends : Ends rest) :
    scanNumeral (m.chars ++ rest) = .ok (m, rest) := by
  obtain ⟨negative, whole, fraction, exponent⟩ := m
  have power := endsDigits_powerChars exponent ends
  have no_point : (powerChars exponent ++ rest).head? ≠ some '.' := by
    cases exponent with
    | none => exact fun point => (ends _ point).2.1 rfl
    | some e => simp [powerChars]
  -- behind the sign the parts are read one after the other
  have parts : (scanWhole (digitChars whole ++
        (fractionChars fraction ++ (powerChars exponent ++ rest))) >>= fun whole =>
      scanFraction whole.2 >>= fun fraction => scanPower fraction.2 >>= fun power =>
        .ok (⟨negative, whole.1, fraction.1, power.1⟩, power.2)) =
      (.ok (⟨negative, whole, fraction, exponent⟩, rest) : Except Break (Numeral × List Char)) := by
    refine bind_eq_ok_iff.mpr ⟨_, scanWhole_digitChars tidy.whole_digits tidy.whole
      (endsDigits_fractionChars fraction power), ?_⟩
    refine bind_eq_ok_iff.mpr ⟨_, scanFraction_fractionChars tidy.fraction_digits power no_point, ?_⟩
    exact bind_eq_ok_iff.mpr ⟨_, scanPower_powerChars exponent ends, rfl⟩
  rw [Numeral.chars]
  simp only [List.append_assoc]
  cases negative with
  | true => exact parts
  | false =>
    rw [if_neg (by decide), List.nil_append, ← parts]
    apply scanNumeral_of_no_sign
    have some_digit : whole ≠ [] := by
      rcases tidy.whole with single | ⟨some_digit, -⟩
      · exact ne_of_eq_of_ne single (by decide)
      · exact some_digit
    obtain ⟨d, ds, rfl⟩ := List.exists_cons_of_ne_nil some_digit
    intro sign
    have digit := (digitChar_of_lt d (tidy.whole_digits d List.mem_cons_self)).1
    rw [show digitChar d = '-' from Option.some.inj sign] at digit
    cases digit

end Json

end MailMerge
