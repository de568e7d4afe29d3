import MailMerge.Json.Value

/-!
# What a document is rendered for

A context names the recipient of an e-mail, the publication the e-mail is about and,
possibly, the parent of that publication. Directives are filled in from it.

## Main definitions

* `User`, `Recipient`: the person behind a membership.
* `Assignee`: the person a publication is assigned to.
* `Pub`: a publication with its stored values.
* `Context`: all of it together.
* `Relation`, `Context.pub?`: the publication that a directive is about.
-/

namespace MailMerge

/-- The user behind a membership. -/
structure User where
  id : String
  firstName : String
  lastName : Option String
  email : String
deriving DecidableEq, Repr

/-- The member that an e-mail is addressed to. -/
structure Recipient where
  id : String
  user : User
deriving DecidableEq, Repr

/-- The person that a publication is assigned to. -/
structure Assignee where
  firstName : String
  lastName : Option String
  email : String
deriving DecidableEq, Repr

/-- A publication: its stored values by field and its assignee. -/
structure Pub where
  id : String
  values : Dict Json
  assignee : Option Assignee

/-- Everything that directives are filled in from. -/
structure Context where
  recipient : Recipient
  communitySlug : String
  pub : Pub
  parentPub : Option Pub

/-- The publication that a directive is about. -/
inductive Relation where
  | own
  | parent
deriving DecidableEq, Repr

/-- The value stored for a field. A stored null is a value. -/
def Pub.value? (p : Pub) (field : String) : Option Json := p.values.get? field

/-- The publication that a directive is about; only a parent can be missing. -/
def Context.pub? (c : Context) : Relation → Option Pub
  | .own => some c.pub
  | .parent => c.parentPub

end MailMerge
