import MailMerge.Decimal.Shortest
import MailMerge.Json.Value
import MailMerge.Text.Hexadecimal

/-!
# Writing JSON

A value is written in one line or with one item per line. Both styles come from one
definition: they differ only in what stands before an item and behind a colon.

## Main definitions

* `Style`: in one line or indented.
* `escapedChars`: the characters of a string between its quotes.
* `Number.chars`: a number, doubles with the fewest digits that read back.
* `Json.chars`, `Json.write`: a value.
-/

namespace MailMerge

open Decimal (Layout Tie Scientific intChars)

/-- Doubles are written positionally from `1e-5` up to sixteen digits before the point, and
whole ones keep a zero behind the point. -/
def Number.layout : Layout := ⟨-5, 15, ['.', '0']⟩

/-- A number as it is written in a document. -/
def Number.chars : Number → List Char
  | .whole i => intChars i
  | .double d => (d.shortest .even).chars layout

namespace Json

/-- How values are laid out. -/
inductive Style where
  | compact
  | indented
deriving DecidableEq, Repr

/-- What stands before an item that is nested `depth` levels deep. -/
def Style.newline : Style → Nat → List Char
  | .compact, _ => []
  | .indented, depth => '\n' :: List.replicate (2 * depth) ' '

/-- What stands between a key and its value. -/
def Style.colon : Style → List Char
  | .compact => [':']
  | .indented => [':', ' ']

/-- A character of a string. -/
def escapedChar (c : Char) : List Char :=
  if c = '"' then ['\\', '"']
  else if c = '\\' then ['\\', '\\']
  else if c = '\x08' then ['\\', 'b']
  else if c = '\t' then ['\\', 't']
  else if c = '\n' then ['\\', 'n']
  else if c = '\x0c' then ['\\', 'f']
  else if c = '\r' then ['\\', 'r']
  else if c < ' ' then ['\\', 'u', '0', '0', Text.hexSmall (c.toNat / 16),
    Text.hexSmall (c.toNat % 16)]
  else [c]

/-- The characters of a string between its quotes. -/
def escapedChars (cs : List Char) : List Char := cs.flatMap escapedChar

/-- A string with its quotes. -/
def stringChars (s : String) : List Char := '"' :: (escapedChars s.toList ++ ['"'])

mutual

/-- A value that is nested `depth` levels deep. -/
def chars (style : Style) (depth : Nat) : Json → List Char
  | .null => ['n', 'u', 'l', 'l']
  | .bool true => ['t', 'r', 'u', 'e']
  | .bool false => ['f', 'a', 'l', 's', 'e']
  | .number n => n.chars
  | .string s => stringChars s
  | .array [] => ['[', ']']
  | .array items => '[' :: (itemsChars style (depth + 1) items ++ style.newline depth ++ [']'])
  | .object [] => ['{', '}']
  | .object members =>
    '{' :: (membersChars style (depth + 1) members ++ style.newline depth ++ ['}'])

/-- Items with commas between them. -/
def itemsChars (style : Style) (depth : Nat) : List Json → List Char
  | [] => []
  | [item] => style.newline depth ++ chars style depth item
  | item :: items =>
    style.newline depth ++ chars style depth item ++ ',' :: itemsChars style depth items

/-- Members with commas between them. -/
def membersChars (style : Style) (depth : Nat) : List (String × Json) → List Char
  | [] => []
  | [(key, value)] =>
    style.newline depth ++ stringChars key ++ style.colon ++ chars style depth value
  | (key, value) :: members =>
    style.newline depth ++ stringChars key ++ style.colon ++ chars style depth value ++
      ',' :: membersChars style depth members

end

/-- The text of a value. -/
def write (style : Style) (value : Json) : String := String.ofList (chars style 0 value)

end Json

end MailMerge
