import MailMerge.Decimal.Numeral

/-!
# Laying out a decimal number

A number in scientific form `d₁.d₂…dₖ · 10^e` can be laid out with the point in place,
padded with zeros where digits are missing, or with a power of ten behind it. Which of
the two is chosen, and the small print of each, is what a `Layout` says.

## Main definitions

* `Scientific`: sign, digits and decimal exponent.
* `Layout`: the exponents that are written positionally and how a power of ten looks.
* `Scientific.chars`: the laid out number.
-/

namespace MailMerge.Decimal

/-- The number `± d₁.d₂…dₖ · 10 ^ exponent` for `digits = [d₁, …, dₖ]`. -/
structure Scientific where
  negative : Bool
  digits : List Nat
  exponent : Int
deriving DecidableEq, Repr

/-- How numbers in scientific form are written. -/
structure Layout where
  /-- The least exponent that is written positionally. -/
  least : Int
  /-- The greatest exponent that is written positionally. -/
  greatest : Int
  /-- What follows a whole number that is written positionally. -/
  wholeEnd : List Char

namespace Scientific

/-- Digits as characters. -/
def digitChars (digits : List Nat) : List Char := digits.map digitChar

/-- Positional notation: the point stands behind the first `exponent + 1` digits. -/
def positional (layout : Layout) (digits : List Nat) (exponent : Int) : List Char :=
  let point := exponent + 1
  if point ≤ 0 then
    '0' :: '.' :: (List.replicate (-point).toNat '0' ++ digitChars digits)
  else if digits.length ≤ point.toNat then
    digitChars digits ++ List.replicate (point.toNat - digits.length) '0' ++ layout.wholeEnd
  else
    digitChars (digits.take point.toNat) ++ '.' :: digitChars (digits.drop point.toNat)

/-- Scientific notation: one digit before the point and a signed power of ten. -/
def withPower (digits : List Nat) (exponent : Int) : List Char :=
  let rest := digitChars (digits.drop 1)
  digitChars (digits.take 1) ++ (if rest.isEmpty then [] else '.' :: rest) ++
    'e' :: (if exponent < 0 then '-' else '+') :: natChars exponent.natAbs

/-- The number in the notation that `layout` asks for. -/
def chars (layout : Layout) (s : Scientific) : List Char :=
  (if s.negative then ['-'] else []) ++
    if layout.least ≤ s.exponent ∧ s.exponent ≤ layout.greatest then
      positional layout s.digits s.exponent
    else withPower s.digits s.exponent

end Scientific

end MailMerge.Decimal
