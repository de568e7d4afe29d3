import MailMerge.Decimal.Binary64
import MailMerge.Decimal.Scientific

/-!
# The fewest digits that read back

Every double is the nearest one to a whole interval of numbers. Its shortest decimal
form is the number in that interval with the fewest digits, and among those the nearest
to the double. On the grid of numbers with a given last place only the two neighbours of
the double need to be looked at: if any point of the grid lies in the interval, so does
one of them.

## Main definitions

* `Tie`: which of two equally near neighbours is taken.
* `Binary64.interval`: the numbers that read as a given double.
* `Binary64.shortest`: the digits and the decimal exponent.
-/

namespace MailMerge.Decimal

/-- Which of two equally near neighbours is taken. -/
inductive Tie where
  | away
  | even
deriving DecidableEq, Repr

/-- The numbers between two bounds, with the bounds themselves or without. -/
structure Interval where
  lower : Fraction
  upper : Fraction
  closed : Bool

/-- Membership in an interval. -/
def Interval.contains (i : Interval) (f : Fraction) : Bool :=
  if i.closed then i.lower.le f && f.le i.upper else i.lower.lt f && f.lt i.upper

namespace Binary64

/-- The numbers that read as the positive double `d`: halfway to both neighbours, where the
lower neighbour is nearer if the mantissa is the least one of its binade. -/
def interval (d : Binary64) : Interval where
  lower :=
    if d.mantissa = Nat.pow 2 52 ∧ leastExponent < d.exponent then
      Fraction.ofBinary (4 * d.mantissa - 1) (d.exponent - 2)
    else Fraction.ofBinary (2 * d.mantissa - 1) (d.exponent - 1)
  upper := Fraction.ofBinary (2 * d.mantissa + 1) (d.exponent - 1)
  closed := d.mantissa % 2 = 0

/-- The exponent of the greatest power of ten that is not above the fraction, looked for
downwards from `start`. -/
def log10From (f : Fraction) : Nat → Int → Int
  | 0, start => start
  | tries + 1, start =>
    if (Fraction.ofDecimal 1 start).le f then start else log10From f tries (start - 1)

/-- The exponent of the greatest power of ten that is not above the fraction. -/
def log10 (f : Fraction) : Int :=
  log10From f 4 (f.log2 * 30103 / 100000 + 1)

/-- The point of the grid `· 10 ^ place` in the interval that is nearest to the double. -/
def onGrid? (tie : Tie) (value : Fraction) (interval : Interval) (place : Int) : Option Nat :=
  let scaled := value.shiftDigits place
  let below := scaled.floor
  let holds (n : Nat) : Bool := interval.contains (Fraction.ofDecimal n place)
  let twice := 2 * (scaled.numerator - below * scaled.denominator)
  let above :=
    scaled.denominator < twice || (twice = scaled.denominator && (tie = .away || below % 2 = 1))
  match holds below, holds (below + 1) with
  | true, true => some (if above then below + 1 else below)
  | true, false => some below
  | false, true => some (below + 1)
  | false, false => none

/-- Tries grids of `count` and more digits, at most `tries` of them. -/
def search (tie : Tie) (value : Fraction) (interval : Interval) (top : Int) :
    Nat → Nat → Nat × Int
  | 0, count => (value.shiftDigits (top - count) |>.round, top - count)
  | tries + 1, count =>
    match onGrid? tie value interval (top - count) with
    | some n => (n, top - count)
    | none => search tie value interval top tries (count + 1)

/-- The digits of a positive number without zeros at the end. -/
def trimmedDigits (n : Nat) : List Nat :=
  ((digitsOfNat n).reverse.dropWhile (· = 0)).reverse

/-- The shortest decimal number that reads as the double; zero has the one digit `0`. -/
def shortest (tie : Tie) (d : Binary64) : Scientific :=
  if d.isZero then ⟨d.negative, [0], 0⟩
  else
    let value := d.magnitude
    let top := log10 value + 1
    let (n, place) := search tie value d.interval top 17 1
    ⟨d.negative, trimmedDigits n, place + (digitsOfNat n).length - 1⟩

end Binary64

end MailMerge.Decimal
