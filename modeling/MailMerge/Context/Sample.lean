import MailMerge.Context.Basic
import MailMerge.Text.Lowercase

/-!
# Sample contexts

Contexts to try documents out with. There is one default context, and everything that a
document can depend on can be changed on it.

## Main definitions

* `Assignee.sample`: an assignee with an address made from the first name.
* `Context.sample`: the default context.
* `Context.withRecipient`, `Context.withValues`, …: changes to a context.
-/

namespace MailMerge

/-- An assignee whose address is made from the first name. -/
def Assignee.sample (firstName : String) (lastName : Option String) : Assignee where
  firstName := firstName
  lastName := lastName
  email := Text.lowercase firstName ++ "@example.com"

/-- A publication without values and assignee. -/
def Pub.blank (id : String) : Pub := ⟨id, .empty, none⟩

/-- Stores values in a publication. -/
def Pub.withValues (p : Pub) (values : List (String × Json)) : Pub :=
  { p with values := p.values.insertAll values }

/-- Assigns a publication. -/
def Pub.withAssignee (p : Pub) (assignee : Assignee) : Pub :=
  { p with assignee := some assignee }

namespace Context

/-- The default context: a recipient with both names, a publication with a title and an
address, no assignee and no parent. -/
def sample : Context where
  recipient := {
    id := "member-ada"
    user := {
      id := "user-ada"
      firstName := "Ada"
      lastName := some "Lovelace"
      email := "ada@x.io" } }
  communitySlug := "croccroc"
  pub := (Pub.blank "pub-1").withValues [
    ("croccroc:title", .string "A Pub"),
    ("croccroc:url", .string "https://example.com/pub-1")]
  parentPub := none

/-- Renames the recipient. -/
def withRecipient (c : Context) (firstName : String) (lastName : Option String) : Context :=
  { c with
    recipient.user.firstName := firstName
    recipient.user.lastName := lastName }

/-- Stores values in the publication. -/
def withValues (c : Context) (values : List (String × Json)) : Context :=
  { c with pub := c.pub.withValues values }

/-- Assigns the publication. -/
def withAssignee (c : Context) (assignee : Assignee) : Context :=
  { c with pub := c.pub.withAssignee assignee }

/-- The parent publication, a blank one if there is none. -/
def parentOrBlank (c : Context) : Pub := c.parentPub.getD (.blank "pub-parent")

/-- Stores values in the parent publication. -/
def withParentValues (c : Context) (values : List (String × Json)) : Context :=
  { c with parentPub := some (c.parentOrBlank.withValues values) }

/-- Assigns the parent publication. -/
def withParentAssignee (c : Context) (assignee : Assignee) : Context :=
  { c with parentPub := some (c.parentOrBlank.withAssignee assignee) }

end Context

end MailMerge
