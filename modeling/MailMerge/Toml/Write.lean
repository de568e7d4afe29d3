import MailMerge.Text.Hexadecimal

/-!
# Writing strings of a settings file

A string is written between double quotes if nothing in it has to be escaped. Otherwise
notations without escapes are tried, and only then escapes are used.

## Main definitions

* `Spelling`: the four notations of a string.
* `Spelling.choose`: the one that is used.
* `stringChars`: a string as it is written.
-/

namespace MailMerge.Toml

/-- What matters about a text for the choice of its notation. -/
structure Traits where
  backslash : Bool
  newline : Bool
  control : Bool
  doubleQuotes : Nat
  singleQuotes : Nat

/-- The length of the longest run of a character. -/
def longestRun (c : Char) (cs : List Char) : Nat :=
  (cs.foldl (fun (run : Nat × Nat) d =>
    if d = c then (run.1 + 1, max run.2 (run.1 + 1)) else (0, run.2)) (0, 0)).2

/-- The traits of a text. -/
def Traits.of (cs : List Char) : Traits where
  backslash := cs.contains '\\'
  newline := cs.contains '\n'
  control := cs.any fun c => (c < ' ' && c ≠ '\t' && c ≠ '\n') || c = '\x7f'
  doubleQuotes := longestRun '"' cs
  singleQuotes := longestRun '\'' cs

/-- The notations of a string: with double quotes, which allow escapes, or single quotes, in
one line or over several. -/
structure Spelling where
  escapes : Bool
  long : Bool
deriving DecidableEq, Repr

/-- The notation for a text: the first one that needs no escapes, else one with escapes. -/
def Spelling.choose (t : Traits) : Spelling :=
  if !t.control && !t.backslash && t.doubleQuotes = 0 && !t.newline then ⟨true, false⟩
  else if !t.control && t.singleQuotes = 0 && !t.newline then ⟨false, false⟩
  else if !t.control && !t.backslash && t.doubleQuotes ≤ 2 then ⟨true, true⟩
  else if !t.control && t.singleQuotes ≤ 2 then ⟨false, true⟩
  else ⟨true, t.newline⟩

/-- The quotes of a notation. -/
def Spelling.quotes (n : Spelling) : List Char :=
  List.replicate (if n.long then 3 else 1) (if n.escapes then '"' else '\'')

/-- A character that is not a double quote, escaped if it has to be. -/
def escapedChar (long : Bool) (c : Char) : List Char :=
  if c = '\x08' then ['\\', 'b']
  else if c = '\t' then ['\\', 't']
  else if c = '\n' then if long then ['\n'] else ['\\', 'n']
  else if c = '\x0c' then ['\\', 'f']
  else if c = '\r' then ['\\', 'r']
  else if c = '\\' then ['\\', '\\']
  else if c < ' ' ∨ c = '\x7f' then
    ['\\', 'u', '0', '0', Text.hexCapital (c.toNat / 16), Text.hexCapital (c.toNat % 16)]
  else [c]

/-- A text with escapes, behind a run of `run` double quotes that have not been escaped. A
string over several lines may hold two of them in a row. -/
def escapedChars (long : Bool) (run : Nat) : List Char → List Char
  | [] => []
  | c :: cs =>
    if c = '"' then
      if run < (if long then 2 else 0) then '"' :: escapedChars long (run + 1) cs
      else '\\' :: '"' :: escapedChars long 0 cs
    else escapedChar long c ++ escapedChars long 0 cs

/-- A string as it is written. A text with several lines starts on a line of its own. -/
def stringChars (s : String) : List Char :=
  let traits := Traits.of s.toList
  let n := Spelling.choose traits
  n.quotes ++ (if n.long && traits.newline then ['\n'] else []) ++
    (if n.escapes then escapedChars n.long 0 s.toList else s.toList) ++ n.quotes

end MailMerge.Toml
