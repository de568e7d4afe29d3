import MailMerge.Context.Basic
import MailMerge.Context.Display
import MailMerge.Directive.Error
import MailMerge.Directive.Name
import MailMerge.Notice
import MailMerge.Tree.Annotate

/-!
# Filling in one directive

What a directive is filled in with follows from its name, its attributes and the context;
its label and its annotations play no part. Filling in a node then notes the result on it.
A link may get a label before it turns out that the node has been rendered already.

## Main definitions

* `Node.relation`, `Node.assignee`: the publication a directive is about and its assignee.
* `Filling`: what a directive is filled in with.
* `Node.linkTarget`: the target of a link, from the first attribute that gives one.
* `Directive.filling`: the rule of each directive.
* `Node.fill`: a node after its directive has been filled in.

## Main results

* `fill_of_not_directive`: other nodes stay as they are.
-/

namespace MailMerge

namespace Node

/-- The publication a directive is about: the parent if `rel` is exactly `parent`. -/
def relation (n : Node) : Relation :=
  if n.attribute? "rel" = some "parent" then .parent else .own

/-- The publication a directive is about, for the given relation. -/
def pubFor (n : Node) (c : Context) (relation : Relation) : Except DirectiveError Pub :=
  match c.pub? relation with
  | some pub => .ok pub
  | none => .error (.missingContext n.writtenName .parentPub)

/-- The assignee of the publication a directive is about. The assignee of the publication
itself never stands in for one of the parent. -/
def assignee (n : Node) (c : Context) : Except DirectiveError Assignee := do
  let pub ← n.pubFor c n.relation
  match pub.assignee with
  | some a => return a
  | none =>
    let missing := match n.relation with
      | .own => Missing.assignee
      | .parent => Missing.parentAssignee
    throw (.missingContext n.writtenName missing)

/-- The value stored for a field of a publication. -/
def storedValue (n : Node) (pub : Pub) (field : String) : Except DirectiveError Json :=
  match pub.value? field with
  | some value => .ok value
  | none => .error (.missingValue n.writtenName field)

/-- The value of an attribute that must not be empty, none if the key is absent. -/
def filledAttribute? (n : Node) (key : String) : Except DirectiveError (Option String) :=
  match n.attribute? key with
  | none => .ok none
  | some value =>
    if value = "" then .error (.missingAttribute n.writtenName key) else .ok (some value)

end Node

/-- What becomes of a directive once it is filled in. A link to a form is deferred: it has
no target until an invite link has been minted. -/
inductive Resolution where
  | resolved
  | deferred (form : String)
deriving DecidableEq, Repr

/-- What a directive is filled in with: the element, the label that a node without children
gets, and what is still to be done. -/
structure Filling where
  element : Element
  label : Option String
  resolution : Resolution
  notices : List Notice

/-- Where a link leads to. -/
inductive LinkTarget where
  | email (address : String)
  | form (slug : String)
  | url (href : String)
deriving DecidableEq, Repr

namespace Node

/-- The address of a link with the attribute `email`. -/
def emailAddress (n : Node) (c : Context) (email : String) : Except DirectiveError String :=
  if email = "assignee" then (n.assignee c).map Assignee.email else .ok email

/-- The relation of a link to a field, where only `parent` may be written. -/
def strictRelation (n : Node) : Except DirectiveError Relation :=
  match n.attribute? "rel" with
  | none => .ok .own
  | some rel =>
    if rel = "parent" then .ok .parent
    else .error (.invalidDirective n.writtenName (.badRelation rel))

/-- The target of a link with the attribute `field`. -/
def fieldTarget (n : Node) (c : Context) (field : String) : Except DirectiveError String := do
  let relation ← n.strictRelation
  let pub ← n.pubFor c relation
  let value ← n.storedValue pub field
  return value.display

/-- The target of a link: the first of the attributes `email`, `form`, `to` and `field` that
is there decides. -/
def linkTarget (n : Node) (c : Context) : Except DirectiveError LinkTarget := do
  if let some email ← n.filledAttribute? "email" then
    return .email (← n.emailAddress c email)
  if let some form ← n.filledAttribute? "form" then
    return .form form
  if let some url ← n.filledAttribute? "to" then
    return .url url
  if let some field ← n.filledAttribute? "field" then
    return .url (← n.fieldTarget c field)
  throw (.invalidDirective n.writtenName .noTarget)

end Node

namespace Filling

/-- A text in place of the directive. -/
def ofText (text : String) : Filling := ⟨.span text, none, .resolved, []⟩

/-- First and last name, or the first name alone if there is no last name. -/
def ofFullName (directive firstName : String) : Option String → Filling
  | some lastName => ofText (firstName ++ " " ++ lastName)
  | none => { ofText firstName with notices := [.withoutLastName directive] }

/-- A link. An address or a plain target is shown if the link has no label. -/
def ofTarget : LinkTarget → Filling
  | .email address => ⟨.anchor ("mailto:" ++ address), some address, .resolved, []⟩
  | .form slug => ⟨.anchor "", none, .deferred slug, []⟩
  | .url href => ⟨.anchor href, some href, .resolved, []⟩

end Filling

/-- What the directive `value` is filled in with. -/
def Node.valueFilling (n : Node) (c : Context) : Except DirectiveError Filling := do
  match n.attribute? "field" with
  | none => throw (.missingAttribute n.writtenName "field")
  | some field =>
    let pub ← n.pubFor c n.relation
    let value ← n.storedValue pub field
    return .ofText value.display

/-- What a directive is filled in with. -/
def Directive.filling (d : Directive) (c : Context) (n : Node) : Except DirectiveError Filling :=
  match d with
  | .value => n.valueFilling c
  | .assigneeName => do
    let a ← n.assignee c
    return .ofFullName n.writtenName a.firstName a.lastName
  | .assigneeFirstName => do return .ofText (← n.assignee c).firstName
  | .assigneeLastName => do return .ofText ((← n.assignee c).lastName.getD "")
  | .recipientName =>
    .ok (.ofFullName n.writtenName c.recipient.user.firstName c.recipient.user.lastName)
  | .recipientFirstName => .ok (.ofText c.recipient.user.firstName)
  | .recipientLastName => .ok (.ofText (c.recipient.user.lastName.getD ""))
  | .link => do return .ofTarget (← n.linkTarget c)

/-- A node that has been looked at: how it is left, and what became of its directive if it
is one. -/
structure Visit where
  node : Node
  outcome : Except DirectiveError (Option Resolution)
  notices : List Notice

namespace Node

/-- Notes on a node what it is filled in with. The label comes first, so a node that has been
rendered already may end up with a label. -/
def withFilling (n : Node) (f : Filling) : Visit :=
  match (n.labelWith f.label).emit? f.element with
  | some node => ⟨node, .ok (some f.resolution), f.notices⟩
  | none =>
    ⟨n.labelWith f.label, .error (.invalidDirective n.writtenName .alreadyRendered), f.notices⟩

/-- A node after its directive has been filled in. Nodes that are no directives stay as they
are. -/
def fill (c : Context) (n : Node) : Visit :=
  if n.isDirective then
    match Directive.ofName? n.writtenName with
    | none => ⟨n, .error (.invalidDirective n.writtenName .unrecognized), []⟩
    | some d =>
      match d.filling c n with
      | .error e => ⟨n, .error e, [.rendering d]⟩
      | .ok f =>
        let visit := n.withFilling f
        { visit with notices := .rendering d :: visit.notices }
  else ⟨n, .ok none, []⟩

/-- A node that is no directive stays as it is. -/
theorem fill_of_not_directive {n : Node} (h : n.isDirective = false) (c : Context) :
    n.fill c = ⟨n, .ok none, []⟩ := by simp [fill, h]

end Node

end MailMerge
