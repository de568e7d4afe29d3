import MailMerge.Text.Hexadecimal
import MailMerge.Toml.Scalar

/-!
# Reading settings files

A settings file is read line by line: headers, keys with values, and comments. Strings have
four notations, with or without escapes and in one line or in several; lists and tables in
braces may go over several lines.

## Main definitions

* `escape?`, `shortText`, `longText`: strings.
* `scanKey?`, `scanValue?`: keys and values.
* `readLines?`: the lines of a file.
* `read?`: the table of a file.
-/

namespace MailMerge.Toml

open Decimal (isDigit)
open Text (hexNumber?)

/-! ### Blanks and ends of lines -/

/-- The blanks within a line. -/
def isBlank (c : Char) : Bool := c = ' ' || c = '\t'

/-- What follows the blanks at the front. -/
def skipBlanks (cs : List Char) : List Char := cs.dropWhile isBlank

/-- Characters that may stand in a line. -/
def isText (c : Char) : Bool := c = '\t' || (' ' ≤ c && c ≠ '\x7f')

/-- The rest behind the end of a line. -/
def newline? : List Char → Option (List Char)
  | '\n' :: rest => some rest
  | '\r' :: '\n' :: rest => some rest
  | _ => none

/-- The rest behind blanks and a comment. -/
def skipComment (cs : List Char) : List Char :=
  match skipBlanks cs with
  | '#' :: rest => rest.dropWhile isText
  | rest => rest

/-- The rest behind the end of a line or of the file. Only a comment may stand before it. -/
def lineEnd? (cs : List Char) : Option (List Char) :=
  match skipComment cs with
  | [] => some []
  | rest => newline? rest

/-- The rest behind blanks, comments and ends of lines. -/
def skipLines : Nat → List Char → List Char
  | 0, cs => cs
  | bound + 1, cs =>
    let rest := skipComment cs
    match newline? rest with
    | some rest => skipLines bound rest
    | none => rest

/-! ### Strings -/

/-- The character with a number. -/
def character? (n : Nat) : Option Char := if n.isValidChar then some (Char.ofNat n) else none

/-- The character written with a count of hexadecimal digits. -/
def numbered? (count : Nat) (cs : List Char) : Option (Char × List Char) :=
  let digits := cs.take count
  if digits.length = count then do
    return (← character? (← hexNumber? digits), cs.drop count)
  else none

/-- The character that an escape stands for, and the rest. -/
def escape? : List Char → Option (Char × List Char)
  | 'b' :: rest => some ('\x08', rest)
  | 't' :: rest => some ('\t', rest)
  | 'n' :: rest => some ('\n', rest)
  | 'f' :: rest => some ('\x0c', rest)
  | 'r' :: rest => some ('\r', rest)
  | 'e' :: rest => some ('\x1b', rest)
  | '"' :: rest => some ('"', rest)
  | '\\' :: rest => some ('\\', rest)
  | 'x' :: rest => numbered? 2 rest
  | 'u' :: rest => numbered? 4 rest
  | 'U' :: rest => numbered? 8 rest
  | _ => none

/-- Puts a character in front of a text that has been read. -/
def consChar (c : Char) (found : Option (List Char × List Char)) :
    Option (List Char × List Char) :=
  found.map fun p => (c :: p.1, p.2)

/-- The rest of a string in one line; double quotes allow escapes. -/
def shortText (quote : Char) : Nat → List Char → Option (List Char × List Char)
  | 0, _ => none
  | _ + 1, [] => none
  | bound + 1, c :: rest =>
    if c = quote then some ([], rest)
    else if c = '\\' ∧ quote = '"' then
      match escape? rest with
      | some (c, rest) => consChar c (shortText quote bound rest)
      | none => none
    else if isText c then consChar c (shortText quote bound rest)
    else none

/-- The rest behind a backslash at the end of a line, with all blanks and ends of lines. -/
def continued? (bound : Nat) (cs : List Char) : Option (List Char) :=
  (newline? (skipBlanks cs)).map (skipSpace bound)
where
  /-- The rest behind blanks and ends of lines. -/
  skipSpace : Nat → List Char → List Char
    | 0, cs => cs
    | bound + 1, cs =>
      let rest := skipBlanks cs
      match newline? rest with
      | some rest => skipSpace bound rest
      | none => rest

/-- The rest of a string over several lines. Up to two quotes before the end belong to it. -/
def longText (quote : Char) : Nat → List Char → Option (List Char × List Char)
  | 0, _ => none
  | _ + 1, [] => none
  | bound + 1, c :: rest =>
    let quotes := min 5 ((c :: rest).takeWhile (· = quote)).length
    if 3 ≤ quotes then
      some (List.replicate (quotes - 3) quote, (c :: rest).drop quotes)
    else if c = '\\' ∧ quote = '"' then
      match continued? bound rest, escape? rest with
      | some rest, _ => longText quote bound rest
      | none, some (c, rest) => consChar c (longText quote bound rest)
      | none, none => none
    else if isText c ∨ (newline? (c :: rest)).isSome then
      consChar c (longText quote bound rest)
    else none

/-- A string over several lines; the end of the first line does not belong to it. -/
def firstLine (cs : List Char) : List Char := (newline? cs).getD cs

/-- A string and the rest. -/
def scanString? (quote : Char) (bound : Nat) (rest : List Char) : Option (String × List Char) := do
  let (text, rest) ← match rest with
    | a :: b :: more =>
      if a = quote ∧ b = quote then longText quote bound (firstLine more)
      else shortText quote bound rest
    | _ => shortText quote bound rest
  return (String.ofList text, rest)

/-! ### Keys -/

/-- Characters of a key without quotes. -/
def isBare (c : Char) : Bool := c.isAlphanum || c = '_' || c = '-'

/-- A single key and the rest. -/
def scanPart? (bound : Nat) (cs : List Char) : Option (String × List Char) :=
  match cs with
  | '"' :: rest => (shortText '"' bound rest).map fun p => (String.ofList p.1, p.2)
  | '\'' :: rest => (shortText '\'' bound rest).map fun p => (String.ofList p.1, p.2)
  | cs =>
    match cs.takeWhile isBare with
    | [] => none
    | key => some (String.ofList key, cs.dropWhile isBare)

/-- Keys with dots between them, and the rest. -/
def scanParts? : Nat → List Char → Option (List String × List Char)
  | 0, _ => none
  | bound + 1, cs => do
    let (key, rest) ← scanPart? bound (skipBlanks cs)
    match skipBlanks rest with
    | '.' :: rest => do
      let (keys, rest) ← scanParts? bound rest
      return (key :: keys, rest)
    | rest => return ([key], rest)

/-- The greatest number of parts of a key. -/
def keyLimit : Nat := 80

/-- A key, which may be made up of several keys, and the rest. -/
def scanKey? (bound : Nat) (cs : List Char) : Option (List String × List Char) := do
  let (keys, rest) ← scanParts? bound cs
  if keys.length ≤ keyLimit then return (keys, rest) else none

/-- The path of a key and its last part. -/
def splitKey (keys : List String) : List String × String := (keys.dropLast, keys.getLastD "")

/-! ### Values -/

/-- Characters of a word. -/
def isWordChar (c : Char) : Bool := isBare c || c = '+' || c = '.' || c = ':'

/-- A word and the rest. A date may have its time behind a blank. -/
def scanWord (cs : List Char) : List Char × List Char :=
  let word := cs.takeWhile isWordChar
  let rest := cs.dropWhile isWordChar
  match date? word, rest with
  | some [], ' ' :: c :: more =>
    if isDigit c then
      (word ++ ' ' :: (c :: more).takeWhile isWordChar, (c :: more).dropWhile isWordChar)
    else (word, rest)
  | _, _ => (word, rest)

mutual

/-- A value and the rest. Lists and tables in braces nest at most `levels` deep. -/
def scanValue? : Nat → Nat → List Char → Option (Value × List Char)
  | 0, _, _ => none
  | bound + 1, levels, cs =>
    match cs with
    | '"' :: rest => (scanString? '"' bound rest).map fun p => (.string p.1, p.2)
    | '\'' :: rest => (scanString? '\'' bound rest).map fun p => (.string p.1, p.2)
    | '[' :: rest =>
      match levels with
      | 0 => none
      | levels + 1 => (scanItems? bound levels rest).map fun p => (.list false p.1, p.2)
    | '{' :: rest =>
      match levels with
      | 0 => none
      | levels + 1 => (scanRows? bound levels [] rest).map fun p => (.table .braced p.1, p.2)
    | cs =>
      let (word, rest) := scanWord cs
      (scalar? word).map fun value => (value, rest)

/-- The items of a list and the rest behind it. -/
def scanItems? : Nat → Nat → List Char → Option (List Value × List Char)
  | 0, _, _ => none
  | bound + 1, levels, cs =>
    match skipLines bound cs with
    | ']' :: rest => some ([], rest)
    | cs => do
      let (item, rest) ← scanValue? bound levels cs
      match skipLines bound rest with
      | ',' :: rest => do
        let (items, rest) ← scanItems? bound levels rest
        return (item :: items, rest)
      | ']' :: rest => return ([item], rest)
      | _ => none

/-- The rows of a table in braces, added to `rows`, and the rest behind it. -/
def scanRows? : Nat → Nat → Rows → List Char → Option (Rows × List Char)
  | 0, _, _, _ => none
  | bound + 1, levels, rows, cs =>
    match skipLines bound cs with
    | '}' :: rest => some (rows, rest)
    | cs => do
      let (keys, rest) ← scanKey? bound cs
      match skipLines bound rest with
      | '=' :: rest => do
        let (value, rest) ← scanValue? bound levels (skipLines bound rest)
        let (path, key) := splitKey keys
        let (_, rows) ← assign path key value .headed rows
        match skipLines bound rest with
        | ',' :: rest => scanRows? bound levels rows rest
        | '}' :: rest => return (rows, rest)
        | _ => none
      | _ => none

end

/-! ### Lines -/

/-- How deep lists and tables in braces may nest. -/
def nesting : Nat := 80

/-- The header of the table that is being filled, and all rows so far. -/
structure Outline where
  header : List String
  rows : Rows

/-- A header behind its first bracket. -/
def readHeader? (bound : Nat) (outline : Outline) (cs : List Char) : Option (Outline × List Char) :=
  match cs with
  | '[' :: cs => do
    let (keys, rest) ← scanKey? bound cs
    match rest with
    | ']' :: ']' :: rest => do
      let (path, key) := splitKey keys
      return (⟨keys, ← append path key outline.rows⟩, rest)
    | _ => none
  | cs => do
    let (keys, rest) ← scanKey? bound cs
    match rest with
    | ']' :: rest => do
      let (path, key) := splitKey keys
      return (⟨keys, ← define path key outline.rows⟩, rest)
    | _ => none

/-- A key with its value. -/
def readRow? (bound : Nat) (outline : Outline) (cs : List Char) : Option (Outline × List Char) := do
  let (keys, rest) ← scanKey? bound cs
  match rest with
  | '=' :: rest => do
    let (value, rest) ← scanValue? bound nesting (skipBlanks rest)
    let (path, key) := splitKey keys
    let (_, rows) ← alter false (assign path key value) outline.header .headed outline.rows
    return ({ outline with rows }, rest)
  | _ => none

/-- The lines of a file. -/
def readLines? : Nat → Outline → List Char → Option Rows
  | 0, _, _ => none
  | bound + 1, outline, cs =>
    match skipLines bound cs with
    | [] => some outline.rows
    | '[' :: rest => do
      let (outline, rest) ← readHeader? bound outline rest
      readLines? bound outline (← lineEnd? rest)
    | cs => do
      let (outline, rest) ← readRow? bound outline cs
      readLines? bound outline (← lineEnd? rest)

/-- The table of a file. A mark of the byte order at its front is passed over. -/
def read? (text : String) : Option Rows :=
  let cs := match text.toList with
    | '\ufeff' :: cs => cs
    | cs => cs
  readLines? (3 * cs.length + 3) ⟨[], []⟩ cs

end MailMerge.Toml
