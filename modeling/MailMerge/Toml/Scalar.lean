import MailMerge.Decimal.Binary64
import MailMerge.Text.Hexadecimal
import MailMerge.Text.Split
import MailMerge.Toml.Value

/-!
# Words of a settings file

Numbers, truth values, dates and times are written as words without quotes. Digits of a number
may be grouped with underscores, whole numbers may be written in other bases, and dates have to
be dates of the calendar.

## Main definitions

* `whole?`, `isFraction`: numbers.
* `isMoment`: dates, times, and both.
* `scalar?`: the value of a word.
-/

namespace MailMerge.Toml

open Decimal (Binary64 Numeral digitOf? digitsOf digitsValue isDigit)
open Text (splitAt hexValue?)

/-! ### Numbers -/

/-- Digits, perhaps with single underscores between them. -/
def isGrouped (digit : Char → Bool) (cs : List Char) : Bool :=
  (splitAt '_' cs).all fun part => !part.isEmpty && part.all digit

/-- The sign in front of a number: true for a minus. -/
def splitSign : List Char → Bool × List Char
  | '-' :: cs => (true, cs)
  | '+' :: cs => (false, cs)
  | cs => (false, cs)

/-- Digits of a whole number: no zero stands in front of others. -/
def isPlainWhole (cs : List Char) : Bool :=
  isGrouped isDigit cs && !(cs.head? == some '0' && cs.length != 1)

/-- Whole numbers that can be told apart. -/
def inRange (i : Int) : Bool := -(Int.pow 2 127) ≤ i && i < Int.pow 2 128

/-- The digits of a base that its letter announces. -/
def base? : Char → Option (Nat × (Char → Bool))
  | 'x' => some (16, fun c => (hexValue? c).isSome)
  | 'o' => some (8, fun c => isDigit c && c < '8')
  | 'b' => some (2, fun c => c = '0' || c = '1')
  | _ => none

/-- A whole number in another base. -/
def based? (cs : List Char) : Option Int :=
  match cs with
  | '0' :: letter :: digits =>
    match base? letter with
    | some (base, digit) =>
      if isGrouped digit digits then
        some ((digits.filterMap hexValue?).foldl (fun n d => base * n + d) 0 : Nat)
      else none
    | none => none
  | _ => none

/-- A whole number. -/
def whole? (cs : List Char) : Option Int :=
  let (negative, digits) := splitSign cs
  let number := if isPlainWhole digits then
      let n : Int := digitsValue (digitsOf digits)
      some (if negative then -n else n)
    else based? cs
  number.filter inRange

/-- The part of a text up to the first character with a property, and the part behind it, if
there is one. -/
def cutAt (stop : Char → Bool) (cs : List Char) : List Char × Option (List Char) :=
  match cs.dropWhile fun c => !stop c with
  | [] => (cs, none)
  | _ :: rest => (cs.takeWhile fun c => !stop c, some rest)

/-- A number with a point or a power of ten that is not beyond the doubles. -/
def isDecimal (cs : List Char) : Bool :=
  let (negative, size) := splitSign cs
  let (front, power) := cutAt (fun c => c = 'e' || c = 'E') size
  let (digits, places) := cutAt (· = '.') front
  let (negativePower, powerDigits) := splitSign (power.getD ['0'])
  let exponent : Int := digitsValue (digitsOf powerDigits)
  (power.isSome || places.isSome) && isPlainWhole digits &&
    isGrouped isDigit (places.getD ['0']) && isGrouped isDigit powerDigits &&
    (Binary64.ofNumeral? ⟨negative, digitsOf digits, digitsOf (places.getD []),
      some (if negativePower then -exponent else exponent)⟩).isSome

/-- A fraction: a decimal number, or one of two words. -/
def isFraction (cs : List Char) : Bool :=
  let (_, size) := splitSign cs
  size == "inf".toList || size == "nan".toList || isDecimal cs

/-! ### Dates and times -/

/-- A number with a fixed count of digits, and the rest. -/
def fixed? (count : Nat) (cs : List Char) : Option (Nat × List Char) :=
  let digits := cs.take count
  if digits.length = count ∧ digits.all isDigit then
    some (digitsValue (digitsOf digits), cs.drop count)
  else none

/-- The rest behind a character. -/
def behind? (c : Char) : List Char → Option (List Char)
  | d :: rest => if c = d then some rest else none
  | [] => none

/-- The number of days of a month. -/
def daysIn (year month : Nat) : Nat :=
  if month = 2 then
    if year % 4 = 0 ∧ (year % 100 ≠ 0 ∨ year % 400 = 0) then 29 else 28
  else if month ∈ [4, 6, 9, 11] then 30
  else 31

/-- The rest behind a date. -/
def date? (cs : List Char) : Option (List Char) := do
  let (year, cs) ← fixed? 4 cs
  let (month, cs) ← fixed? 2 (← behind? '-' cs)
  let (day, cs) ← fixed? 2 (← behind? '-' cs)
  if 1 ≤ month ∧ month ≤ 12 ∧ 1 ≤ day ∧ day ≤ daysIn year month then some cs else none

/-- The rest behind a part of a second. -/
def places? (cs : List Char) : Option (List Char) :=
  match cs with
  | '.' :: rest => if (rest.head?.map isDigit).getD false then some (rest.dropWhile isDigit) else none
  | cs => some cs

/-- The rest behind a time. Seconds may be left out. -/
def time? (cs : List Char) : Option (List Char) := do
  let (hour, cs) ← fixed? 2 cs
  let (minute, cs) ← fixed? 2 (← behind? ':' cs)
  if 23 < hour ∨ 59 < minute then none
  else
    match cs with
    | ':' :: cs => do
      let (second, cs) ← fixed? 2 cs
      if 60 < second then none else places? cs
    | cs => some cs

/-- True for the distance of a time from the one at Greenwich. -/
def isOffset (cs : List Char) : Bool :=
  match cs with
  | ['Z'] | ['z'] => true
  | sign :: cs =>
    let found := do
      let (hour, cs) ← fixed? 2 cs
      let (minute, cs) ← fixed? 2 (← behind? ':' cs)
      return (sign = '+' || sign = '-') && hour ≤ 23 && minute ≤ 59 && cs.isEmpty
    found.getD false
  | [] => false

/-- True for a date, a time, or a date with a time that may have an offset. -/
def isMoment (cs : List Char) : Bool :=
  match date? cs with
  | some [] => true
  | some (c :: rest) =>
    (c = 'T' || c = 't' || c = ' ') &&
      match time? rest with
      | some offset => offset.isEmpty || isOffset offset
      | none => false
  | none => time? cs == some []

/-! ### Words -/

/-- The value of a word. -/
def scalar? (cs : List Char) : Option Value :=
  if cs = "true".toList then some (.bool true)
  else if cs = "false".toList then some (.bool false)
  else if isMoment cs then some .moment
  else if isFraction cs then some .fraction
  else (whole? cs).map .whole

end MailMerge.Toml
