import MailMerge.Decimal.Numeral

/-!
# Double precision numbers

Finite double precision numbers are exact fractions `± mantissa · 2 ^ exponent` with a
mantissa of at most 53 bits. Reading a decimal numeral rounds to the nearest of them,
a tie to the even mantissa; the arithmetic is exact throughout.

A quick reader gets along with fewer digits: it keeps those that a 64-bit word can hold, and
multiplies or divides by powers of ten, rounding after every step. What it finds may be a few
doubles away from the nearest one.

## Main definitions

* `Binary64`: sign, mantissa and binary exponent.
* `Binary64.ofNumeral?`: the nearest double, unless it is out of range.
* `Binary64.quick?`: the double that a quick reader finds.
-/

namespace MailMerge.Decimal

/-- The finite double `± mantissa · 2 ^ exponent`. -/
structure Binary64 where
  negative : Bool
  mantissa : Nat
  exponent : Int
deriving DecidableEq, Repr

/-- A positive fraction. -/
structure Fraction where
  numerator : Nat
  denominator : Nat
deriving DecidableEq, Repr

namespace Fraction

/-- `n · 10 ^ e` as a fraction. -/
def ofDecimal (n : Nat) (e : Int) : Fraction :=
  if 0 ≤ e then ⟨n * Nat.pow 10 e.toNat, 1⟩ else ⟨n, Nat.pow 10 (-e).toNat⟩

/-- `n · 2 ^ e` as a fraction. -/
def ofBinary (n : Nat) (e : Int) : Fraction :=
  if 0 ≤ e then ⟨n * Nat.pow 2 e.toNat, 1⟩ else ⟨n, Nat.pow 2 (-e).toNat⟩

/-- The fraction divided by `2 ^ e`. -/
def shiftRight (f : Fraction) (e : Int) : Fraction :=
  if 0 ≤ e then ⟨f.numerator, f.denominator * Nat.pow 2 e.toNat⟩
  else ⟨f.numerator * Nat.pow 2 (-e).toNat, f.denominator⟩

/-- The product of two fractions. -/
def mul (a b : Fraction) : Fraction :=
  ⟨a.numerator * b.numerator, a.denominator * b.denominator⟩

/-- The quotient of two fractions. -/
def div (a b : Fraction) : Fraction :=
  ⟨a.numerator * b.denominator, a.denominator * b.numerator⟩

/-- The fraction divided by `10 ^ e`. -/
def shiftDigits (f : Fraction) (e : Int) : Fraction :=
  if 0 ≤ e then ⟨f.numerator, f.denominator * Nat.pow 10 e.toNat⟩
  else ⟨f.numerator * Nat.pow 10 (-e).toNat, f.denominator⟩

/-- The order of fractions. -/
def le (a b : Fraction) : Bool := a.numerator * b.denominator ≤ b.numerator * a.denominator

/-- The strict order of fractions. -/
def lt (a b : Fraction) : Bool := a.numerator * b.denominator < b.numerator * a.denominator

/-- The greatest whole number that is not above the fraction. -/
def floor (f : Fraction) : Nat := f.numerator / f.denominator

/-- The nearest whole number, a half going to the even neighbour. -/
def round (f : Fraction) : Nat :=
  let below := f.floor
  let twice := 2 * (f.numerator - below * f.denominator)
  if twice < f.denominator then below
  else if f.denominator < twice then below + 1
  else if below % 2 = 0 then below else below + 1

/-- The exponent of the greatest power of two that is not above the fraction. -/
def log2 (f : Fraction) : Int :=
  let guess : Int := (f.numerator.log2 : Int) - (f.denominator.log2 : Int)
  if (ofBinary 1 guess).le f then guess else guess - 1

end Fraction

namespace Binary64

/-- The exponent of the smallest positive double. -/
def leastExponent : Int := -1074

/-- The greatest exponent of a double. -/
def greatestExponent : Int := 971

/-- The double zero with the given sign. -/
def zero (negative : Bool) : Binary64 := ⟨negative, 0, leastExponent⟩

/-- True for the two zeros. -/
def isZero (d : Binary64) : Bool := d.mantissa = 0

/-- The size of a double as a fraction. -/
def magnitude (d : Binary64) : Fraction := Fraction.ofBinary d.mantissa d.exponent

/-- The double nearest to a positive fraction, a tie going to the even mantissa; none when
the fraction is beyond the greatest double. -/
def nearest? (negative : Bool) (f : Fraction) : Option Binary64 :=
  let exponent := max leastExponent (f.log2 - 52)
  let mantissa := (f.shiftRight exponent).round
  let (mantissa, exponent) :=
    if mantissa = Nat.pow 2 53 then (Nat.pow 2 52, exponent + 1) else (mantissa, exponent)
  if greatestExponent < exponent then none
  else if mantissa = 0 then some (zero negative)
  else some ⟨negative, mantissa, exponent⟩

/-- The double nearest to a numeral, none when it is out of range. Numerals with a first
digit far beyond the range on either side are settled without computing the power. -/
def ofNumeral? (n : Numeral) : Option Binary64 :=
  let digits := (n.whole ++ n.fraction).dropWhile (· = 0)
  let top : Int := digits.length + n.scale
  if digits.isEmpty || top < -400 then some (zero n.negative)
  else if 400 < top then none
  else nearest? n.negative (Fraction.ofDecimal n.significand n.scale)

/-! ### Reading quickly -/

/-- The double nearest to a fraction, which may be zero. -/
def rounded? (f : Fraction) : Option Binary64 :=
  if f.numerator = 0 then some (zero false) else nearest? false f

/-- The product of two doubles without their signs. -/
def mul? (a b : Binary64) : Option Binary64 := rounded? (a.magnitude.mul b.magnitude)

/-- The quotient of two doubles without their signs. -/
def div? (a b : Binary64) : Option Binary64 := rounded? (a.magnitude.div b.magnitude)

/-- The greatest power of ten that is a double, up to rounding. -/
def greatestPower : Nat := 308

/-- The double nearest to `10 ^ n`. -/
def powerOfTen? (n : Nat) : Option Binary64 := rounded? (Fraction.ofDecimal 1 n)

/-- A double multiplied by `10 ^ e`, with as many divisions as it takes when `e` is far below the
range. -/
def scale? (d : Binary64) (e : Int) : Option Binary64 :=
  if e.natAbs ≤ greatestPower then do
    let power ← powerOfTen? e.natAbs
    if 0 ≤ e then d.mul? power else d.div? power
  else if d.isZero then some d
  else if 0 ≤ e then none
  else do
    let d ← d.div? (← powerOfTen? greatestPower)
    scale? d (e + greatestPower)
termination_by e.natAbs
decreasing_by
  simp only [greatestPower] at *
  omega

/-- The digits that a 64-bit word has room for behind those of `n`, and the ones that are left. -/
def takeDigits (n : Nat) : List Nat → Nat × List Nat
  | [] => (n, [])
  | d :: ds => if 10 * n + d < Nat.pow 2 64 then takeDigits (10 * n + d) ds else (n, d :: ds)

/-- The double that a quick reader finds, unless it is out of range. The digits before the point for
which there is no room count as zeros, those behind it not at all. -/
def quick? (n : Numeral) : Option Binary64 := do
  let (whole, zeros) := takeDigits 0 n.whole
  let (significand, ignored) := takeDigits whole n.fraction
  let places : Int := n.fraction.length - ignored.length
  let d ← rounded? (Fraction.ofDecimal significand 0)
  let size ← d.scale? (zeros.length - places + n.exponent.getD 0)
  return { size with negative := n.negative }

end Binary64

end MailMerge.Decimal
