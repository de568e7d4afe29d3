import MailMerge.Text.MarkTable
import MailMerge.Text.Range

/-!
# Composed text

Two spellings of a text that differ only in how letters and their marks are put together, or in
the order of marks that do not touch, have one composed form: all characters are taken apart,
marks are ordered by their class, and what can be one character becomes one.

## Main definitions

* `isMark`, `combiningClass`: what a character is to the one in front of it.
* `parts?`, `joined?`: a character as a pair, and a pair as a character.
* `composed`: the composed form of a text.

## Main results

* `composed_nil`: the empty text is composed.
* `length_reorder`: ordering marks loses none of them.
-/

namespace MailMerge.Text

/-- True for the marks. -/
def isMark (c : Char) : Bool := inRanges markRanges c.toNat

/-- The combining class of a character. -/
def combiningClass (c : Char) : Nat := (valueAt? combiningClasses c.toNat).getD 0

/-! ### Pairs -/

/-- The syllable blocks of the Korean script are computed from the letters in them. -/
def syllableParts? (c : Char) : Option (Char × Char) :=
  let n := c.toNat
  if 0xAC00 ≤ n ∧ n ≤ 0xD7A3 then
    let block := n - 0xAC00
    if block % 28 = 0 then
      some (Char.ofNat (0x1100 + block / 588), Char.ofNat (0x1161 + block / 28 % 21))
    else some (Char.ofNat (n - block % 28), Char.ofNat (0x11A7 + block % 28))
  else none

/-- The syllable block of a pair: two letters, or a block without a final letter and one. -/
def syllable? (a b : Char) : Option Char :=
  let m := a.toNat
  let n := b.toNat
  if 0x1100 ≤ m ∧ m ≤ 0x1112 ∧ 0x1161 ≤ n ∧ n ≤ 0x1175 then
    some (Char.ofNat (0xAC00 + (m - 0x1100) * 588 + (n - 0x1161) * 28))
  else if 0xAC00 ≤ m ∧ m ≤ 0xD7A3 ∧ (m - 0xAC00) % 28 = 0 ∧ 0x11A8 ≤ n ∧ n ≤ 0x11C2 then
    some (Char.ofNat (m + (n - 0x11A7)))
  else none

/-- The character at the place in `targets` that another one has in `sources`. -/
def counterpart? (sources targets : List Char) (c : Char) : Option Char :=
  (sources.idxOf? c).bind fun i => targets[i]?

/-- The pair that a character is written as. -/
def parts? (c : Char) : Option (Char × Char) :=
  match syllableParts? c with
  | some pair => some pair
  | none => compositionRows.findSome? fun (second, firsts, wholes) =>
    (counterpart? wholes.toList firsts.toList c).map fun first => (first, Char.ofNat second)

/-- The character that a pair is written as. -/
def joined? (a b : Char) : Option Char :=
  match syllable? a b with
  | some block => some block
  | none => compositionRows.findSome? fun (second, firsts, wholes) =>
    if second = b.toNat then counterpart? firsts.toList wholes.toList a else none

/-! ### Taking apart and putting together -/

/-- A character taken apart `depth` times. -/
def takenApart : Nat → Char → List Char
  | 0, c => [c]
  | depth + 1, c =>
    match parts? c with
    | some (first, second) => takenApart depth first ++ [second]
    | none => [c]

/-- Puts a character in front of a text whose marks are in order. -/
def insertMark (c : Char) : List Char → List Char
  | [] => [c]
  | d :: ds =>
    if 0 < combiningClass d ∧ combiningClass d < combiningClass c then d :: insertMark c ds
    else c :: d :: ds

/-- A text with the marks behind each letter in the order of their classes. -/
def reorder (cs : List Char) : List Char := cs.foldr insertMark []

theorem length_insertMark (c : Char) (ds : List Char) :
    (insertMark c ds).length = ds.length + 1 := by
  induction ds with
  | nil => rfl
  | cons d ds ih => unfold insertMark; split <;> simp [ih]

theorem length_reorder (cs : List Char) : (reorder cs).length = cs.length := by
  unfold reorder
  induction cs with
  | nil => rfl
  | cons c cs ih => simp [length_insertMark, ih]

/-- Joins a letter with the marks behind it. A mark reaches the letter only across marks of
lower classes; those that stay, last one first, are `kept`. -/
def joinFrom (letter : Char) (kept : List Char) : List Char → List Char
  | [] => letter :: kept.reverse
  | c :: cs =>
    let reaches := kept.head?.all fun d => combiningClass d < combiningClass c
    match if reaches then joined? letter c else none with
    | some whole => joinFrom whole kept cs
    | none =>
      if combiningClass c = 0 then letter :: (kept.reverse ++ joinFrom c [] cs)
      else joinFrom letter (c :: kept) cs

/-- The composed form of a text. No character is a pair of pairs of pairs. -/
def composed (cs : List Char) : List Char :=
  match reorder (cs.flatMap (takenApart 2)) with
  | [] => []
  | c :: cs => joinFrom c [] cs

@[simp] theorem composed_nil : composed [] = [] := rfl

end MailMerge.Text
