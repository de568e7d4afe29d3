import MailMerge.Dict
import MailMerge.Decimal.Binary64

/-!
# JSON values

Whole numbers that fit a 64-bit word stay whole numbers; every other number is a double.
An object is a list of members, so that a written document keeps the order its writer
chose; objects made from free-form text list their members in key order.

## Main definitions

* `Number`: a whole number or a double.
* `Number.ofNumeral?`: the number that a numeral denotes.
* `Json`: values.
* `Json.ofDict`: an object whose members are in key order.
-/

namespace MailMerge

open Decimal (Binary64 Numeral)

/-- A number of a JSON document. -/
inductive Number where
  | whole (i : Int)
  | double (d : Binary64)
deriving DecidableEq, Repr

namespace Number

/-- True for whole numbers in the range of signed or unsigned 64-bit words. -/
def fitsWord (i : Int) : Bool := -(Int.pow 2 63) ≤ i && i < Int.pow 2 64

/-- The number a numeral denotes. A numeral without point and power of ten is a whole number
if it fits a word; a zero with a minus sign is a double, so that its sign is kept. Any other numeral
is read quickly, and numerals beyond the doubles denote nothing. -/
def ofNumeral? (n : Numeral) : Option Number :=
  let i : Int := if n.negative then -n.significand else n.significand
  if n.isWhole && fitsWord i && !(n.negative && i == 0) then some (.whole i)
  else (Binary64.quick? n).map .double

end Number

/-- A JSON value. -/
inductive Json where
  | null
  | bool (b : Bool)
  | number (n : Number)
  | string (s : String)
  | array (items : List Json)
  | object (members : List (String × Json))
deriving BEq, Repr, Inhabited

namespace Json

/-- A whole number. -/
def whole (i : Int) : Json := .number (.whole i)

/-- The string, or null when there is none. -/
def ofString? : Option String → Json
  | some s => .string s
  | none => .null

/-- The object with the entries of a dictionary as members. -/
def ofDict (d : Dict Json) : Json := .object d.entries

/-- The object with the texts of a dictionary as members. -/
def ofTexts (d : Dict String) : Json := ofDict (d.map .string)

/-- The value of the first member under `key`. -/
def member? (key : String) : Json → Option Json
  | .object members => Dict.lookup key members
  | _ => none

end Json

end MailMerge
