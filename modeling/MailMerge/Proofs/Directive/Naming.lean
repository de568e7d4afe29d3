import MailMerge.Directive.Fill
import MailMerge.Proofs.Basic

/-!
# The name of a directive in its errors

What a directive is filled in with depends on its attributes. Its name only shows in the errors and
notices: if the name is written in another way, the same happens with the other name in it.

## Main definitions

* `DirectiveError.mapName`, `Notice.mapName`, `Filling.mapName`: other names in errors and notices.
* `DirectiveError.renamed`: an error with the name of another directive.
* `Node.Respelt`: a directive written with another name.

## Main results

* `Respelt.linkTarget`, `Respelt.valueFilling`: the rules for a directive with another name.
* `Respelt.filling`: what such a directive is filled in with.
-/

namespace MailMerge

/-! ## Other names -/

/-- An error with another name in place of that of the directive. The failure of a service names
none. -/
def DirectiveError.mapName (f : String → String) : DirectiveError → DirectiveError
  | .missingAttribute directive key => .missingAttribute (f directive) key
  | .missingContext directive missing => .missingContext (f directive) missing
  | .missingValue directive field => .missingValue (f directive) field
  | .invalidDirective directive reason => .invalidDirective (f directive) reason
  | .serviceFailure operation form source => .serviceFailure operation form source

/-- An error about a directive that is named otherwise. -/
def DirectiveError.renamed (e : DirectiveError) (name : String) : DirectiveError :=
  e.mapName fun _ => name

@[simp] theorem DirectiveError.renamed_mapName (e : DirectiveError) (f : String → String)
    (name : String) : (e.mapName f).renamed name = e.renamed name := by
  cases e <;> rfl

/-- A notice with another name in place of that of the directive. -/
def Notice.mapName (f : String → String) : Notice → Notice
  | .withoutLastName directive => .withoutLastName (f directive)
  | notice => notice

/-- What a directive with another name is filled in with. -/
def Filling.mapName (f : String → String) (filling : Filling) : Filling :=
  { filling with notices := filling.notices.map (Notice.mapName f) }

theorem Filling.ofFullName_mapName (f : String → String) (directive firstName : String)
    (lastName : Option String) :
    ofFullName (f directive) firstName lastName =
      (ofFullName directive firstName lastName).mapName f := by
  cases lastName <;> rfl

section Steps

variable {ε ε' α β : Type}

/-- Errors of two steps are changed by changing those of each. -/
theorem mapError_bind (f : ε → ε') (x : Except ε α) (g : α → Except ε β) :
    (x >>= g).mapError f = x.mapError f >>= fun a => (g a).mapError f := by
  cases x <;> rfl

end Steps

namespace Node

/-- A directive like `n`, written with the name that `f` makes of the name of `n`. -/
structure Respelt (f : String → String) (n m : Node) : Prop where
  attributes : m.attributes = n.attributes
  writtenName : m.writtenName = f n.writtenName

namespace Respelt

variable {f : String → String} {n m : Node} (h : n.Respelt f m) (c : Context)
include h

theorem attribute? (key : String) : m.attribute? key = n.attribute? key := by
  rw [Node.attribute?, h.attributes, Node.attribute?]

theorem relation : m.relation = n.relation := by
  rw [Node.relation, h.attribute?, Node.relation]

theorem pubFor (r : Relation) :
    m.pubFor c r = (n.pubFor c r).mapError (DirectiveError.mapName f) := by
  rw [Node.pubFor, Node.pubFor, h.writtenName]
  cases c.pub? r <;> rfl

theorem storedValue (pub : Pub) (field : String) :
    m.storedValue pub field = (n.storedValue pub field).mapError (DirectiveError.mapName f) := by
  rw [Node.storedValue, Node.storedValue, h.writtenName]
  cases pub.value? field <;> rfl

theorem assignee : m.assignee c = (n.assignee c).mapError (DirectiveError.mapName f) := by
  rw [Node.assignee, Node.assignee, mapError_bind, h.pubFor, h.relation, h.writtenName]
  congr
  funext pub
  cases pub.assignee <;> rfl

theorem filledAttribute? (key : String) :
    m.filledAttribute? key = (n.filledAttribute? key).mapError (DirectiveError.mapName f) := by
  rw [Node.filledAttribute?, Node.filledAttribute?, h.attribute?, h.writtenName]
  cases n.attribute? key with
  | none => rfl
  | some value => dsimp only; split <;> rfl

theorem emailAddress (email : String) :
    m.emailAddress c email = (n.emailAddress c email).mapError (DirectiveError.mapName f) := by
  rw [Node.emailAddress, Node.emailAddress, h.assignee]
  split
  · cases n.assignee c <;> rfl
  · rfl

theorem strictRelation :
    m.strictRelation = n.strictRelation.mapError (DirectiveError.mapName f) := by
  rw [Node.strictRelation, Node.strictRelation, h.attribute?, h.writtenName]
  cases n.attribute? "rel" with
  | none => rfl
  | some rel => dsimp only; split <;> rfl

theorem fieldTarget (field : String) :
    m.fieldTarget c field = (n.fieldTarget c field).mapError (DirectiveError.mapName f) := by
  simp only [Node.fieldTarget, mapError_bind, h.strictRelation, h.pubFor, h.storedValue]
  rfl

/-- The rule for links: each attribute is read only if those before it are absent. -/
theorem linkTarget : m.linkTarget c = (n.linkTarget c).mapError (DirectiveError.mapName f) := by
  have step {α : Type} (key : String) {g g' : Option String → Except DirectiveError α}
      (rest : ∀ value?, g' value? = (g value?).mapError (DirectiveError.mapName f)) :
      m.filledAttribute? key >>= g' =
        (n.filledAttribute? key >>= g).mapError (DirectiveError.mapName f) := by
    rw [mapError_bind, h.filledAttribute?, funext rest]
  refine step "email" fun email? => ?_
  cases email? with
  | some email => simp only [h.emailAddress, mapError_bind]; rfl
  | none =>
    refine step "form" fun form? => ?_
    cases form? with
    | some form => rfl
    | none =>
      refine step "to" fun url? => ?_
      cases url? with
      | some url => rfl
      | none =>
        refine step "field" fun field? => ?_
        cases field? with
        | some field => simp only [h.fieldTarget, mapError_bind]; rfl
        | none => rw [h.writtenName]; rfl

theorem valueFilling :
    m.valueFilling c =
      ((n.valueFilling c).map (Filling.mapName f)).mapError (DirectiveError.mapName f) := by
  rw [Node.valueFilling, Node.valueFilling, h.attribute?, h.writtenName, h.relation]
  cases n.attribute? "field" with
  | none => rfl
  | some field =>
    simp only [h.pubFor, h.storedValue]
    cases n.pubFor c n.relation with
    | error e => rfl
    | ok pub =>
      simp only [bind, Except.bind, Except.mapError]
      cases n.storedValue pub field <;> rfl

/-- What a directive is filled in with if it is written with another name. -/
theorem filling (d : Directive) :
    d.filling c m =
      ((d.filling c n).map (Filling.mapName f)).mapError (DirectiveError.mapName f) := by
  cases d with
  | value => exact h.valueFilling c
  | link =>
    simp only [Directive.filling, h.linkTarget c]
    cases n.linkTarget c with
    | error e => rfl
    | ok target => cases target <;> rfl
  | assigneeName =>
    simp only [Directive.filling, h.assignee c, h.writtenName]
    cases n.assignee c with
    | error e => rfl
    | ok a => exact congrArg Except.ok (Filling.ofFullName_mapName f n.writtenName ..)
  | assigneeFirstName | assigneeLastName =>
    simp only [Directive.filling, h.assignee c]
    cases n.assignee c <;> rfl
  | recipientName =>
    simp only [Directive.filling, h.writtenName]
    exact congrArg Except.ok (Filling.ofFullName_mapName f n.writtenName ..)
  | recipientFirstName | recipientLastName => rfl

end Respelt

end Node

end MailMerge
