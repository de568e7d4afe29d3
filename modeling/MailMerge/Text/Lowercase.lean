import MailMerge.Text.CaseTable

/-!
# Lower-case text

Letters are replaced by their lower-case forms. Two letters are special: the dotted capital
I becomes two characters, and a capital sigma at the end of a word has a form of its own.

## Main definitions

* `lowerChar`: the lower-case form of a character wherever it stands.
* `lowercase`: the lower-case form of a text.
* `sameLetters`: equality up to the case of ASCII letters.

## Main results

* `sameLetters_iff`: equality up to case is equality of the ASCII lower-case forms.
-/

namespace MailMerge.Text

/-- The lower-case form of a character as a single character. -/
def lowerChar (c : Char) : Char :=
  if c < '\x80' then c.toLower
  else (shifted? lowerRuns c).getD c

/-- True if the first character that counts has a case. -/
def startsCased (cs : List Char) : Bool :=
  match cs.dropWhile fun c => inRanges caseIgnorableRanges c.toNat with
  | [] => false
  | c :: _ => inRanges casedRanges c.toNat

/-- The lower-case form of a text behind the characters `before`, which come last one first. -/
def lowercaseFrom (before : List Char) : List Char → List Char
  | [] => []
  | c :: rest =>
    let form :=
      if c = 'Σ' then
        if startsCased before && !startsCased rest then ['ς'] else ['σ']
      else if c = 'İ' then ['i', '\u0307']
      else [lowerChar c]
    form ++ lowercaseFrom (c :: before) rest

/-- The lower-case form of a text. -/
def lowercase (s : String) : String := String.ofList (lowercaseFrom [] s.toList)

/-- The lower-case form of the ASCII letters of a text. -/
def lowerAscii (s : String) : List Char := s.toList.map Char.toLower

/-- Equality up to the case of ASCII letters. -/
def sameLetters (s t : String) : Bool := lowerAscii s == lowerAscii t

theorem sameLetters_iff {s t : String} : sameLetters s t = true ↔ lowerAscii s = lowerAscii t := by
  simp [sameLetters]

end MailMerge.Text
