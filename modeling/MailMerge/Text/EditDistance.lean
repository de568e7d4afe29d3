/-!
# Edit distance

The distance of two texts is the least number of single characters that have to be
inserted, deleted or replaced to turn one into the other. It is computed row by row: the
row of a prefix of the first text holds the distances to all prefixes of the second.

## Main definitions

* `nextRow`: the row of a prefix that is one character longer.
* `editDistance`: the last entry of the last row.
-/

namespace MailMerge.Text

/-- The entries behind the first one of the row for a further character `c`. `left` is the
entry to the left and `corner` the one to its upper left. -/
def rowFrom (c : Char) (left corner : Nat) : List Char → List Nat → List Nat
  | d :: ds, above :: row =>
    let entry := min (min (left + 1) (above + 1)) (corner + if c = d then 0 else 1)
    entry :: rowFrom c entry above ds row
  | _, _ => []

/-- The row for a further character `c` of the first text. -/
def nextRow (c : Char) (target : List Char) : List Nat → List Nat
  | [] => []
  | corner :: row => (corner + 1) :: rowFrom c (corner + 1) corner target row

/-- The row of a prefix: the distances of `source` to all prefixes of `target`. -/
def lastRow (target : List Char) (source : List Char) : List Nat :=
  source.foldl (fun row c => nextRow c target row) (List.range (target.length + 1))

/-- The least number of insertions, deletions and replacements that turn one text into the
other. -/
def editDistance (source target : List Char) : Nat :=
  (lastRow target source).getLastD 0

end MailMerge.Text
