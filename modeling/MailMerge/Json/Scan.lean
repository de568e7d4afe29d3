import MailMerge.Json.Draft
import MailMerge.Text.Hexadecimal

/-!
# Reading a text into a draft

The text is taken apart from front to back. Every step hands on what is left of the text;
after a fault nothing is left.

## Main definitions

* `StringPart`, `scanParts`, `joinParts`: the characters and escapes of a string.
* `scanNumber`: the longest number a text starts with.
* `scanValue`, `scanItems`, `scanMembers`: values of any shape.
* `Draft.ofText`: the draft of a text and what follows it.
* `read`: the first value of a text, which nothing but blanks may follow.
-/

namespace MailMerge.Json

open Decimal (Numeral digitOf? digitsOf isDigit)

/-- The four blanks of the format. -/
def isBlank (c : Char) : Bool := c = ' ' || c = '\t' || c = '\n' || c = '\r'

/-- What follows the blanks at the front. -/
def skipBlanks (cs : List Char) : List Char := cs.dropWhile isBlank

/-! ### Strings -/

/-- A part of a string between its quotes: a character or a code unit written in hexadecimal. -/
inductive StringPart where
  | char (c : Char)
  | unit (n : Nat)
deriving DecidableEq, Repr

/-- How a string ends. -/
inductive StringEnd where
  | closed (rest : List Char)
  | missing
  | controlCharacter
  | badEscape
  | badUnit

/-- The character that a letter stands for after a backslash. -/
def escaped? : Char → Option Char
  | '"' => some '"'
  | '\\' => some '\\'
  | '/' => some '/'
  | 'b' => some '\x08'
  | 'f' => some '\x0c'
  | 'n' => some '\n'
  | 'r' => some '\r'
  | 't' => some '\t'
  | _ => none

/-- The number of bytes that characters take up. -/
def byteCount (cs : List Char) : Nat := cs.foldl (fun n c => n + c.utf8Size) 0

/-- The parts of a string whose opening quote has been read, and how it ends. A code unit is
four bytes long, whatever they are; a text with fewer bytes left only lacks its end. -/
def scanParts : List Char → List StringPart × StringEnd
  | [] => ([], .missing)
  | '"' :: rest => ([], .closed rest)
  | '\\' :: 'u' :: a :: b :: c :: d :: rest =>
    match Text.hexNumber? [a, b, c, d] with
    | some n => let (parts, last) := scanParts rest; (.unit n :: parts, last)
    | none => ([], .badUnit)
  | '\\' :: 'u' :: rest => ([], if byteCount rest < 4 then .missing else .badUnit)
  | '\\' :: c :: rest =>
    match escaped? c with
    | some c => let (parts, last) := scanParts rest; (.char c :: parts, last)
    | none => ([], .badEscape)
  | c :: rest =>
    if c = '\\' then ([], .missing)
    else if c < ' ' then ([], .controlCharacter)
    else let (parts, last) := scanParts rest; (.char c :: parts, last)

/-- The fault of a string that is not closed. -/
def StringEnd.fault? : StringEnd → Option Fault
  | .closed _ => none
  | .missing => some .endInString
  | .controlCharacter => some .controlCharacter
  | .badEscape => some .invalidEscape
  | .badUnit => some .invalidEscape

/-- The fault of a leading surrogate that is the last part of a string. -/
def StringEnd.afterSurrogate : StringEnd → Fault
  | .missing => .endInString
  | .badUnit => .invalidEscape
  | _ => .hexEscapeEnd

/-- True for the code units that come first in a surrogate pair. -/
def isLeading (n : Nat) : Bool := 0xD800 ≤ n && n ≤ 0xDBFF

/-- True for the code units that come second in a surrogate pair. -/
def isTrailing (n : Nat) : Bool := 0xDC00 ≤ n && n ≤ 0xDFFF

/-- The characters of a string. Surrogates have to come in pairs. -/
def joinParts (last : StringEnd) : List StringPart → Except Fault (List Char)
  | [] => .ok []
  | .char c :: parts => (joinParts last parts).map (c :: ·)
  | .unit n :: parts =>
    if isTrailing n then .error .loneSurrogate
    else if isLeading n then
      match parts with
      | .unit m :: parts =>
        if isTrailing m then
          let c := Char.ofNat (0x10000 + (n - 0xD800) * 0x400 + (m - 0xDC00))
          (joinParts last parts).map (c :: ·)
        else .error .loneSurrogate
      | .char _ :: _ => .error .hexEscapeEnd
      | [] => .error last.afterSurrogate
    else (joinParts last parts).map (Char.ofNat n :: ·)

/-- A string whose opening quote has been read: its text and what follows it, or the break. -/
def scanString (cs : List Char) : Except Break (Except Fault String × List Char) :=
  let (parts, last) := scanParts cs
  let text := (joinParts last parts).map String.ofList
  match last, last.fault?, text with
  | .closed rest, _, _ => .ok (text, rest)
  | _, some fault, .ok _ => .error (.both fault)
  | _, some fault, .error first => .error ⟨first, fault⟩
  | _, none, _ => .error (.both .endInString)

/-! ### Numbers -/

/-- The digits at the front of a text and what follows them. -/
def spanDigits (cs : List Char) : List Nat × List Char :=
  (digitsOf (cs.takeWhile isDigit), cs.dropWhile isDigit)

/-- Digits that have to be there. A text that ends before them lacks its end, unless it is
passed over. -/
def someDigits (cs : List Char) : Except Break (List Nat × List Char) :=
  match spanDigits cs with
  | ([], []) => .error ⟨.endInValue, .invalidNumber⟩
  | ([], _) => .error (.both .invalidNumber)
  | found => .ok found

/-- The digits before the point: a zero is the only digit where it comes first. -/
def scanWhole : List Char → Except Break (List Nat × List Char)
  | '0' :: rest =>
    if (rest.head?.map isDigit).getD false then .error (.both .invalidNumber)
    else .ok ([0], rest)
  | cs => someDigits cs

/-- The digits after a point, none without a point. -/
def scanFraction : List Char → Except Break (List Nat × List Char)
  | '.' :: rest => someDigits rest
  | cs => .ok ([], cs)

/-- The power of ten, if there is one. -/
def scanPower : List Char → Except Break (Option Int × List Char)
  | c :: rest =>
    if c = 'e' ∨ c = 'E' then do
      let (negative, rest) := match rest with
        | '+' :: rest => (false, rest)
        | '-' :: rest => (true, rest)
        | rest => (false, rest)
      let (digits, rest) ← someDigits rest
      let n : Int := Decimal.digitsValue digits
      return (some (if negative then -n else n), rest)
    else return (none, c :: rest)
  | [] => return (none, [])

/-- The numeral at the front of a text and what follows it. -/
def scanNumeral (cs : List Char) : Except Break (Numeral × List Char) := do
  let (negative, cs) := match cs with
    | '-' :: rest => (true, rest)
    | cs => (false, cs)
  let (whole, cs) ← scanWhole cs
  let (fraction, cs) ← scanFraction cs
  let (exponent, cs) ← scanPower cs
  return (⟨negative, whole, fraction, exponent⟩, cs)

/-- The number at the front of a text and what follows it. -/
def scanNumber (cs : List Char) : Except Break (Except Fault Number × List Char) := do
  let (numeral, rest) ← scanNumeral cs
  return (match Number.ofNumeral? numeral with
    | some n => .ok n
    | none => .error .numberOutOfRange, rest)

/-! ### Values -/

/-- The rest of a word that starts with a letter. -/
def scanWord (start : Char) (value : Draft) : List Char → List Char → Draft × List Char
  | [], cs => (value, cs)
  | _ :: _, [] => (.broken start (.both .endInValue), [])
  | w :: word, c :: cs =>
    if w = c then scanWord start value word cs else (.broken start (.both .expectedWord), [])

/-- The draft of a part that may have broken off behind its first character. -/
def orBroken {α : Type} (start : Char) (found : Except Break (α × List Char))
    (draft : α → Draft) : Draft × List Char :=
  match found with
  | .ok (a, rest) => (draft a, rest)
  | .error here => (.broken start here, [])

mutual

/-- The value at the front of a text and what follows it. The bound is met by any text with
fewer characters. -/
def scanValue : Nat → List Char → Draft × List Char
  | 0, _ => (.broken none (.both .endInValue), [])
  | bound + 1, cs =>
    match skipBlanks cs with
    | [] => (.broken none (.both .endInValue), [])
    | '"' :: rest => orBroken '"' (scanString rest) .string
    | '[' :: rest =>
      let (items, stop, rest) := scanItems bound true rest
      (.array items stop, rest)
    | '{' :: rest =>
      let (members, stop, rest) := scanMembers bound true rest
      (.object members stop, rest)
    | 'n' :: rest => scanWord 'n' .null ['u', 'l', 'l'] rest
    | 't' :: rest => scanWord 't' (.bool true) ['r', 'u', 'e'] rest
    | 'f' :: rest => scanWord 'f' (.bool false) ['a', 'l', 's', 'e'] rest
    | c :: rest =>
      if c = '-' ∨ isDigit c then orBroken c (scanNumber (c :: rest)) .number
      else (.broken c (.both .expectedValue), [])

/-- The items of a list from its front, or from behind an item. -/
def scanItems : Nat → Bool → List Char → List Draft × Option Break × List Char
  | 0, _, _ => ([], some (.both .endInList), [])
  | bound + 1, front, cs =>
    match skipBlanks cs with
    | [] => ([], some (.both .endInList), [])
    | ']' :: rest => ([], none, rest)
    | c :: rest =>
      if front then scanItem bound (c :: rest)
      else if c = ',' then
        match skipBlanks rest with
        | [] => ([], some (.both .endInValue), [])
        | ']' :: _ => ([], some ⟨.trailingComma, .expectedValue⟩, [])
        | rest => scanItem bound rest
      else ([], some (.both .expectedListCommaOrEnd), [])

/-- An item of a list and the items behind it. -/
def scanItem : Nat → List Char → List Draft × Option Break × List Char
  | 0, _ => ([], some (.both .endInList), [])
  | bound + 1, cs =>
    let (item, rest) := scanValue bound cs
    let (items, stop, rest) := scanItems bound false rest
    (item :: items, stop, rest)

/-- The members of an object from its front, or from behind a member. -/
def scanMembers : Nat → Bool → List Char →
    List (Except Fault String × Draft) × Option Break × List Char
  | 0, _, _ => ([], some (.both .endInObject), [])
  | bound + 1, front, cs =>
    match skipBlanks cs with
    | [] => ([], some (.both .endInObject), [])
    | '}' :: rest => ([], none, rest)
    | c :: rest =>
      if front then
        if c = '"' then scanMember bound rest else ([], some (.both .keyNotString), [])
      else if c = ',' then
        match skipBlanks rest with
        | [] => ([], some ⟨.endInValue, .endInObject⟩, [])
        | '"' :: rest => scanMember bound rest
        | '}' :: _ => ([], some ⟨.trailingComma, .keyNotString⟩, [])
        | _ => ([], some (.both .keyNotString), [])
      else ([], some (.both .expectedObjectCommaOrEnd), [])

/-- A member whose opening quote has been read, and the members behind it. -/
def scanMember : Nat → List Char →
    List (Except Fault String × Draft) × Option Break × List Char
  | 0, _ => ([], some (.both .endInObject), [])
  | bound + 1, cs =>
    match scanString cs with
    | .error here => ([], some here, [])
    | .ok (key, rest) =>
      match skipBlanks rest with
      | ':' :: rest =>
        let (value, rest) := scanValue bound rest
        let (members, stop, rest) := scanMembers bound false rest
        ((key, value) :: members, stop, rest)
      | [] => ([(key, .broken none (.both .endInObject))], some (.both .endInObject), [])
      | _ => ([(key, .broken none (.both .expectedColon))], some (.both .expectedColon), [])

end

/-- The draft of the first value of a text and what follows it. -/
def Draft.ofText (text : List Char) : Draft × List Char := scanValue (3 * text.length + 3) text

/-- The number of arrays and objects that a document may nest. -/
def nesting : Nat := 127

/-- Reads the one value of a text with a reader of drafts. What follows the value is looked
at last. -/
def read {α : Type} (reader : Nat → Draft → Read α) (text : String) : Read α := do
  let (draft, rest) := Draft.ofText text.toList
  let value ← reader nesting draft
  if (skipBlanks rest).isEmpty then return value else faulty .trailingCharacters

end MailMerge.Json
