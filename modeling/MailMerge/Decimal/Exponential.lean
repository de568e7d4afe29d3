import MailMerge.Decimal.Shortest

/-!
# Exponential notation, and what is put together from it

In exponential notation a number has one digit before the point and its power of ten as a whole
number behind an `e`, whatever the number is. The text that is shown is put together from the
pieces of this one: the digits are cut or filled up with zeros, and the point or the power of ten
is set. The arithmetic on lengths and exponents is that of words of 32 bits, a text can be cut
within its length only, and there is no negative number of zeros; a step beyond these limits has
no result.

## Main definitions

* `Scientific.exponential`: a number in exponential notation.
* `takeApart?`: the digits and the power of ten of such a text.
* `putTogether?`: the text that is shown for digits and a power of ten.
* `Scientific.shown?`, `Binary64.shown?`: both steps, with the sign in front.
-/

namespace MailMerge.Decimal

/-- A whole number of 32 bits. -/
def word? (i : Int) : Option Int := if -2147483648 ≤ i ∧ i < 2147483648 then some i else none

/-- A number of characters. -/
def count? (i : Int) : Option Nat := if 0 ≤ i then some i.toNat else none

/-- A text of zeros. -/
def zeros? (i : Int) : Option (List Char) := (count? i).map fun n => List.replicate n '0'

/-- The two parts of a text that is cut behind its first `i` characters. -/
def cut? (cs : List Char) (i : Int) : Option (List Char × List Char) := do
  let n ← count? i
  if n ≤ cs.length then some (cs.take n, cs.drop n) else none

/-- The two parts of a text around the first occurrence of a character. -/
def partsAround? (mark : Char) (cs : List Char) : Option (List Char × List Char) :=
  match cs.dropWhile (· ≠ mark) with
  | [] => none
  | _ :: rest => some (cs.takeWhile (· ≠ mark), rest)

/-- The word that a text of digits denotes. -/
def unsignedWord? (negative : Bool) (cs : List Char) : Option Int :=
  if cs ≠ [] ∧ cs.all isDigit then
    let n : Int := digitsValue (digitsOf cs)
    word? (if negative then -n else n)
  else none

/-- The word that a text denotes: digits, perhaps behind a sign. -/
def readWord? : List Char → Option Int
  | '-' :: cs => unsignedWord? true cs
  | '+' :: cs => unsignedWord? false cs
  | cs => unsignedWord? false cs

/-- The digits and the power of ten of a text in exponential notation. -/
def takeApart? (text : List Char) : Option (List Char × Int) := do
  let (mantissa, power) ← partsAround? 'e' text
  let exponent ← readWord? power
  return (mantissa.filter isDigit, exponent)

/-- The text for digits and a power of ten: without a power for the exponents from `-6` to `20`,
and with a signed one otherwise. `point` is how many digits stand before the point. -/
def putTogether? (digits : List Char) (exponent : Int) : Option (List Char) := do
  let length ← word? digits.length
  let point ← word? (exponent + 1)
  if length ≤ point ∧ point ≤ 21 then
    let missing ← word? (point - length)
    return digits ++ (← zeros? missing)
  else if 0 < point ∧ point ≤ 21 then
    let (whole, fraction) ← cut? digits point
    return whole ++ '.' :: fraction
  else if -6 < point ∧ point ≤ 0 then
    let missing ← word? (-point)
    return '0' :: '.' :: ((← zeros? missing) ++ digits)
  else
    let power ← word? (point - 1)
    let size ← word? power.natAbs
    let (first, rest) ← cut? digits 1
    return first ++ (if rest.isEmpty then [] else '.' :: rest) ++
      'e' :: (if 0 ≤ power then '+' else '-') :: intChars size

namespace Scientific

/-- The number in exponential notation, such as `1.5e-7`. -/
def exponential (s : Scientific) : List Char :=
  let rest := digitChars (s.digits.drop 1)
  (if s.negative then ['-'] else []) ++
    (digitChars (s.digits.take 1) ++ (if rest.isEmpty then [] else '.' :: rest) ++
      'e' :: intChars s.exponent)

/-- What is shown for a number, put together from the notation of its size. -/
def shown? (s : Scientific) : Option (List Char) := do
  let (digits, exponent) ← takeApart? { s with negative := false }.exponential
  let text ← putTogether? digits exponent
  return if s.negative then '-' :: text else text

end Scientific

/-- What is shown for a double, put together from its shortest notation. A zero has no sign. -/
def Binary64.shown? (d : Binary64) : Option (List Char) :=
  if d.isZero then some ['0'] else (d.shortest .away).shown?

end MailMerge.Decimal
