import MailMerge.Text.EditDistance
import MailMerge.Text.Lowercase

/-!
# The directives

There are eight directives. Their names are recognised in any mixture of capital and small
ASCII letters. A name that is not recognised may be a misspelling of one that is.

## Main definitions

* `Directive`, `Directive.all`, `Directive.name`: the directives and their names.
* `Directive.ofName?`: recognition.
* `Directive.suggestion?`: the name that was probably meant.

## Main results

* `ofName?_name`: every directive is recognised by its name.
* `ofName?_congr`: recognition depends on the letters only, not on their case.
-/

namespace MailMerge

/-- The directives. -/
inductive Directive where
  | value
  | assigneeName
  | assigneeFirstName
  | assigneeLastName
  | recipientName
  | recipientFirstName
  | recipientLastName
  | link
deriving DecidableEq, Repr

namespace Directive

/-- All directives in the order in which they are listed to users. -/
def all : List Directive :=
  [.value, .assigneeName, .assigneeFirstName, .assigneeLastName, .recipientName,
    .recipientFirstName, .recipientLastName, .link]

/-- The name of a directive. -/
def name : Directive → String
  | .value => "value"
  | .assigneeName => "assigneeName"
  | .assigneeFirstName => "assigneeFirstName"
  | .assigneeLastName => "assigneeLastName"
  | .recipientName => "recipientName"
  | .recipientFirstName => "recipientFirstName"
  | .recipientLastName => "recipientLastName"
  | .link => "link"

/-- The directive with a name, up to the case of ASCII letters. -/
def ofName? (name : String) : Option Directive :=
  all.find? fun d => Text.sameLetters d.name name

/-- The greatest distance at which a name counts as a misspelling. -/
def greatestDistance : Nat := 3

/-- The distance of a text to the name of a directive, regardless of case. -/
def distance (name : String) (d : Directive) : Nat :=
  Text.editDistance (Text.lowercase name).toList (Text.lowercase d.name).toList

/-- The first of the directives whose distance is least, with that distance. -/
def nearest? : List (Directive × Nat) → Option (Directive × Nat)
  | [] => none
  | c :: cs =>
    match nearest? cs with
    | none => some c
    | some best => some (if best.2 < c.2 then best else c)

/-- The directive that was probably meant by a misspelt name: one of least distance, the first
of them. A name at no distance at all is not misspelt. -/
def suggestion? (name : String) : Option Directive :=
  let near := (all.map fun d => (d, distance name d)).filter fun c =>
    0 < c.2 && c.2 ≤ greatestDistance
  (nearest? near).map Prod.fst

/-- Every directive is recognised by its name. -/
@[simp] theorem ofName?_name (d : Directive) : ofName? d.name = some d := by
  cases d <;> rfl

/-- Recognition depends on the letters only, not on their case. -/
theorem ofName?_congr {s t : String} (h : Text.lowerAscii s = Text.lowerAscii t) :
    ofName? s = ofName? t := by
  simp [ofName?, Text.sameLetters, h]

end Directive

end MailMerge
