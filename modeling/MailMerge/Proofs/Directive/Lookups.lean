import MailMerge.Proofs.Directive.Fill

/-!
# What directives look up in a context

Directives are filled in from an assignee or from a stored value of a publication. Two tables say
what such a look-up comes to, with one row for each case. They are exact: a look-up comes to just
what one of its rows says.

## Main definitions

* `Node.AssigneeTable`: the assignee that a directive is about.
* `Node.FieldTable`: the text of a stored value, `Node.fieldText` being the look-up.

## Main results

* `assigneeTable_iff`, `fieldTable_iff`: the tables are exact.
-/

namespace MailMerge.Node

variable {c : Context} {n : Node}

/-- The assignee that a directive is about, or what is missing for it. It is that of the parent iff
`rel` is exactly `parent`, and no other assignee ever stands in for it. -/
inductive AssigneeTable (c : Context) (n : Node) : Except DirectiveError Assignee → Prop
  | own (a : Assignee) (rel : n.attribute? "rel" ≠ some "parent") (found : c.pub.assignee = some a) :
    AssigneeTable c n (.ok a)
  | noAssignee (rel : n.attribute? "rel" ≠ some "parent") (missing : c.pub.assignee = none) :
    AssigneeTable c n (.error (.missingContext n.writtenName .assignee))
  | parent (pub : Pub) (a : Assignee) (rel : n.attribute? "rel" = some "parent")
    (there : c.parentPub = some pub) (found : pub.assignee = some a) : AssigneeTable c n (.ok a)
  | noParent (rel : n.attribute? "rel" = some "parent") (missing : c.parentPub = none) :
    AssigneeTable c n (.error (.missingContext n.writtenName .parentPub))
  | noParentAssignee (pub : Pub) (rel : n.attribute? "rel" = some "parent")
    (there : c.parentPub = some pub) (missing : pub.assignee = none) :
    AssigneeTable c n (.error (.missingContext n.writtenName .parentAssignee))

theorem relation_of_own (h : n.attribute? "rel" ≠ some "parent") : n.relation = .own :=
  if_neg h

theorem assignee_of_own (rel : n.attribute? "rel" ≠ some "parent") :
    n.assignee c =
      match c.pub.assignee with
      | some a => .ok a
      | none => .error (.missingContext n.writtenName .assignee) := by
  rw [assignee, relation_of_own rel]
  rfl

theorem assignee_of_parent (rel : n.attribute? "rel" = some "parent") :
    n.assignee c =
      match c.parentPub with
      | some pub =>
        match pub.assignee with
        | some a => .ok a
        | none => .error (.missingContext n.writtenName .parentAssignee)
      | none => .error (.missingContext n.writtenName .parentPub) := by
  rw [assignee, relation_eq_parent_iff.mpr rel, pubFor, Context.pub?]
  cases c.parentPub <;> rfl

/-- A look-up of an assignee comes to just what one of the rows says. -/
theorem assigneeTable_iff {result : Except DirectiveError Assignee} :
    n.AssigneeTable c result ↔ n.assignee c = result := by
  constructor
  · rintro (⟨a, rel, found⟩ | ⟨rel, missing⟩ | ⟨pub, a, rel, there, found⟩ | ⟨rel, missing⟩ |
      ⟨pub, rel, there, missing⟩)
    · simp only [assignee_of_own rel, found]
    · simp only [assignee_of_own rel, missing]
    · simp only [assignee_of_parent rel, there, found]
    · simp only [assignee_of_parent rel, missing]
    · simp only [assignee_of_parent rel, there, missing]
  · rintro rfl
    by_cases rel : n.attribute? "rel" = some "parent"
    · rw [assignee_of_parent rel]
      cases there : c.parentPub with
      | none => exact .noParent rel there
      | some pub =>
        dsimp only
        cases found : pub.assignee with
        | none => exact .noParentAssignee pub rel there found
        | some a => exact .parent pub a rel there found
    · rw [assignee_of_own rel]
      cases found : c.pub.assignee with
      | none => exact .noAssignee rel found
      | some a => exact .own a rel found

/-- The text of the value that a publication stores for a field, or what is missing for it. A stored
null is a value. -/
inductive FieldTable (c : Context) (n : Node) (relation : Relation) (field : String) :
    Except DirectiveError String → Prop
  | noPub (missing : c.pub? relation = none) :
    FieldTable c n relation field (.error (.missingContext n.writtenName .parentPub))
  | noValue (pub : Pub) (there : c.pub? relation = some pub) (missing : pub.value? field = none) :
    FieldTable c n relation field (.error (.missingValue n.writtenName field))
  | stored (pub : Pub) (value : Json) (there : c.pub? relation = some pub)
    (found : pub.value? field = some value) : FieldTable c n relation field (.ok value.display)

/-- What a look-up of a stored value comes to. -/
def fieldText (n : Node) (c : Context) (relation : Relation) (field : String) :
    Except DirectiveError String := do
  let pub ← n.pubFor c relation
  let value ← n.storedValue pub field
  return value.display

/-- A look-up of a stored value comes to just what one of the rows says. -/
theorem fieldTable_iff {relation : Relation} {field : String}
    {result : Except DirectiveError String} :
    n.FieldTable c relation field result ↔ n.fieldText c relation field = result := by
  constructor
  · rintro (missing | ⟨pub, there, missing⟩ | ⟨pub, value, there, found⟩)
    · rw [fieldText, pubFor, missing]
      rfl
    · rw [fieldText, pubFor, there]
      simp only [storedValue, missing, bind, Except.bind]
    · rw [fieldText, pubFor, there]
      simp only [storedValue, found, bind, Except.bind, pure, Except.pure]
  · rintro rfl
    rw [fieldText, pubFor]
    cases there : c.pub? relation with
    | none => exact .noPub there
    | some pub =>
      cases found : pub.value? field with
      | none =>
        simp only [storedValue, found, bind, Except.bind]
        exact .noValue pub there found
      | some value =>
        simp only [storedValue, found, bind, Except.bind, pure, Except.pure]
        exact .stored pub value there found

end MailMerge.Node
