/-!
# Decimal numerals

A decimal numeral is what a number looks like on paper: digits, perhaps a point with
more digits, perhaps a power of ten. `Numeral` keeps exactly these parts, so that
nothing is rounded before it is known what the number is for.

## Main definitions

* `digitsValue`: the number that a list of digits denotes.
* `Numeral`: sign, digits before and after the point, power of ten.
* `Numeral.significand`, `Numeral.scale`: the numeral as `significand · 10 ^ scale`.

## Main results

* `digitsValue_append`: appending digits shifts the ones before them.
-/

namespace MailMerge.Decimal

/-- The digit that a character stands for. -/
def digitOf? (c : Char) : Option Nat :=
  if '0' ≤ c ∧ c ≤ '9' then some (c.toNat - '0'.toNat) else none

/-- The character that stands for a digit. -/
def digitChar (d : Nat) : Char := Char.ofNat ('0'.toNat + d)

/-- True for the ten decimal digits. -/
def isDigit (c : Char) : Bool := '0' ≤ c ∧ c ≤ '9'

/-- The number denoted by digits, the most significant first. -/
def digitsValue (digits : List Nat) : Nat := digits.foldl (fun n d => 10 * n + d) 0

/-- The digits denoted by characters; anything else is passed over. -/
def digitsOf (cs : List Char) : List Nat := cs.filterMap digitOf?

/-- The decimal digits of a number without leading zeros, the most significant first. -/
def digitsOfNat (n : Nat) : List Nat :=
  if n < 10 then [n] else digitsOfNat (n / 10) ++ [n % 10]

/-- A number in plain decimal notation. -/
def natChars (n : Nat) : List Char := (digitsOfNat n).map digitChar

/-- A whole number in plain decimal notation, with a sign when it is negative. -/
def intChars (i : Int) : List Char :=
  if i < 0 then '-' :: natChars i.natAbs else natChars i.natAbs

theorem foldl_digits (digits : List Nat) (n : Nat) :
    digits.foldl (fun n d => 10 * n + d) n = n * Nat.pow 10 digits.length + digitsValue digits := by
  induction digits generalizing n with
  | nil => simp [digitsValue]
  | cons d ds ih =>
    simp only [List.foldl_cons, List.length_cons, digitsValue]
    rw [ih, ih (10 * 0 + d), show Nat.pow 10 (ds.length + 1) = Nat.pow 10 ds.length * 10 from rfl]
    grind

/-- Appending digits shifts the ones before them. -/
theorem digitsValue_append (xs ys : List Nat) :
    digitsValue (xs ++ ys) = digitsValue xs * Nat.pow 10 ys.length + digitsValue ys := by
  rw [digitsValue, List.foldl_append, foldl_digits]
  rfl

/-- A number as written: sign, digits before the point, digits after it, power of ten. -/
structure Numeral where
  negative : Bool
  whole : List Nat
  fraction : List Nat
  exponent : Option Int
deriving DecidableEq, Repr

namespace Numeral

/-- True when the numeral has neither a point nor a power of ten. -/
def isWhole (n : Numeral) : Bool := n.fraction.isEmpty && n.exponent.isNone

/-- All digits of the numeral read as one whole number. -/
def significand (n : Numeral) : Nat := digitsValue (n.whole ++ n.fraction)

/-- The power of ten that the significand is multiplied with. -/
def scale (n : Numeral) : Int := n.exponent.getD 0 - n.fraction.length

end Numeral

end MailMerge.Decimal
