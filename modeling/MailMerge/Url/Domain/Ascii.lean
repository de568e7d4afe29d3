import MailMerge.Text.Composed
import MailMerge.Text.Split
import MailMerge.Url.Domain.Direction
import MailMerge.Url.Domain.FoldTable
import MailMerge.Url.Domain.Joining
import MailMerge.Url.Punycode

/-!
# Domains in ASCII

The characters of a domain are folded and composed, which settles where its labels end. A label
beyond ASCII is stored in a form of its own; a label that already has this form stands for a text,
which must be one that a label can have.

## Main definitions

* `fold?`, `folded?`: what a character or a text of a domain stands for.
* `Label.ofFolded?`: a label with the text that it stands for.
* `toAscii?`: a domain as it is stored.

## Main results

* `folded?_nil`: an empty text stands for itself.
-/

namespace MailMerge.Url

namespace Domain

open Text (splitAt)

/-! ### Folding -/

/-- True for the ASCII characters. -/
def isAscii (c : Char) : Bool := c.toNat < 128

/-- The text for a character in the rows of the table. -/
def rowForm? (c : Char) : Option (List Char) :=
  ((foldRows.takeWhile fun r => r.1 ≤ c.toNat).getLast?).bind fun (first, forms) =>
    (splitAt ' ' forms.toList)[c.toNat - first]?

/-- The text that a character of a domain stands for, if it may be in a domain at all. -/
def fold? (c : Char) : Option (List Char) :=
  if isAscii c then some [c.toLower]
  else if Text.inRanges refusedRanges c.toNat then none
  else if Text.inRanges droppedRanges c.toNat then some []
  else
    match Text.shifted? foldRuns c with
    | some d => some [d]
    | none => some ((rowForm? c).getD [c])

/-- The text that a text of a domain stands for. -/
def folded? (cs : List Char) : Option (List Char) :=
  (cs.mapM fold?).map fun forms => Text.composed forms.flatten

theorem folded?_nil : folded? [] = some [] := rfl

/-- ASCII characters that no domain contains. -/
def isDenied (c : Char) : Bool :=
  c ≤ ' ' || c = '\x7f' ||
    ['%', '#', '/', ':', '<', '>', '?', '@', '[', '\\', ']', '^', '|'].contains c

/-! ### Labels -/

/-- A label as it is stored, and the text that it stands for. -/
structure Label where
  stored : List Char
  text : List Char
deriving DecidableEq, Repr

/-- The greatest number of characters that are encoded. -/
def encodingLimit : Nat := 1000

/-- The greatest number of characters that are decoded. -/
def decodingLimit : Nat := 2000

/-- The text of a stored label without its mark. It is folded already. -/
def storedText? (code : List Char) : Option (List Char) := do
  guard (code.all isAscii ∧ code.length ≤ decodingLimit ∧ code.getLast?.any (· ≠ '-'))
  let text ← Punycode.decode? code
  guard (folded? text = some text)
  return text

/-- True for texts that a label beyond ASCII can have. -/
def isSound (text : List Char) : Bool :=
  !text.head?.any Text.isMark && joinersVisible [] text

/-- The label of a folded text. -/
def Label.ofFolded? (cs : List Char) : Option Label :=
  match cs with
  | 'x' :: 'n' :: '-' :: '-' :: code => do
    let text ← storedText? code
    guard (isSound text)
    return ⟨cs, text⟩
  | cs =>
    if cs.all isAscii then some ⟨cs, cs⟩
    else do
      guard (isSound cs ∧ cs.length ≤ encodingLimit)
      return ⟨'x' :: 'n' :: '-' :: '-' :: Punycode.encode cs, cs⟩

/-- True for domains whose labels are written in one direction each, where that matters. -/
def isReadable (labels : List Label) : Bool :=
  !labels.any (fun l => isMixed l.text) ||
    labels.all fun l => readsOneWay (l.text.map direction)

end Domain

/-- A domain as it is stored, in small ASCII letters. -/
def Domain.toAscii? (cs : List Char) : Option (List Char) := do
  let text ← folded? cs
  guard (!text.any isDenied)
  let labels ← (Text.splitAt '.' text).mapM Label.ofFolded?
  guard (isReadable labels)
  return ((labels.map Label.stored).intersperse ['.']).flatten

end MailMerge.Url
