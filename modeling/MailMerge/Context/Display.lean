import MailMerge.Decimal.Shortest
import MailMerge.Json.Value

/-!
# Stored values as text

A stored value is shown without regard to its type: strings as they are, numbers with the
fewest digits that read back, lists as their items with commas between them. Inside a list
null is shown as nothing.

## Main definitions

* `Decimal.Scientific.display`: a number in the text of an e-mail.
* `Json.display`: a stored value in the text of an e-mail.

## Main results

* `displayItems_eq`: a list shows its items with commas between them.
-/

namespace MailMerge

open Decimal (Binary64 Layout Scientific Tie intChars)

/-- Numbers are shown positionally down to `0.000001` and below `10 ^ 21`. -/
def displayLayout : Layout := ⟨-6, 20, []⟩

/-- A number in scientific form as it is shown. -/
def Decimal.Scientific.display (s : Scientific) : List Char := s.chars displayLayout

/-- A double as it is shown; a zero has no sign. -/
def Decimal.Binary64.display (d : Binary64) : List Char :=
  if d.isZero then ['0'] else (d.shortest .away).display

/-- A number as it is shown. -/
def Number.display : Number → String
  | .whole i => String.ofList (intChars i)
  | .double d => String.ofList d.display

namespace Json

mutual

/-- A stored value as it is shown. -/
def display : Json → String
  | .null => "null"
  | .bool true => "true"
  | .bool false => "false"
  | .number n => n.display
  | .string s => s
  | .array items => displayItems items
  | .object _ => "[object Object]"

/-- The items of a list with commas between them, null as nothing. -/
def displayItems : List Json → String
  | [] => ""
  | [.null] => ""
  | [item] => item.display
  | .null :: items => "," ++ displayItems items
  | item :: items => item.display ++ "," ++ displayItems items

end

/-- What an item of a list shows. -/
def displayItem : Json → String
  | .null => ""
  | item => item.display

/-- A list shows its items with commas between them. -/
theorem displayItems_eq (items : List Json) :
    displayItems items = ",".intercalate (items.map displayItem) := by
  induction items with
  | nil => simp [displayItems]
  | cons item items ih =>
    cases items with
    | nil => cases item <;> simp [displayItems, displayItem]
    | cons next items =>
      have others : (next :: items).map displayItem ≠ [] := List.cons_ne_nil _ _
      rw [List.map_cons, String.intercalate_cons_of_ne_nil others, ← ih]
      cases item <;> simp [displayItems, displayItem]

end Json

end MailMerge
