import MailMerge.Context.Basic
import MailMerge.Json.Decode

/-!
# Contexts as JSON

Every record of a context is written as an object with all its fields. It is read from
such an object, in which fields may stand in any order and unknown keys are passed over,
or from the list of its fields in order.

## Main definitions

* `Context.toJson`, `Context.write`: the object of a context.
* `Context.decode`, `Context.read`: the context of an object or a list.
-/

namespace MailMerge

open Json (Draft Read Decoder Row RowReader faulty fromRow once required)

/-! ### Writing -/

/-- The object of a user. -/
def User.toJson (u : User) : Json :=
  .object [
    ("id", .string u.id),
    ("firstName", .string u.firstName),
    ("lastName", .ofString? u.lastName),
    ("email", .string u.email)]

/-- The object of a recipient. -/
def Recipient.toJson (r : Recipient) : Json :=
  .object [("id", .string r.id), ("user", r.user.toJson)]

/-- The object of an assignee. -/
def Assignee.toJson (a : Assignee) : Json :=
  .object [
    ("firstName", .string a.firstName),
    ("lastName", .ofString? a.lastName),
    ("email", .string a.email)]

/-- The value, or null when there is none. -/
def Json.ofOption {α : Type} (toJson : α → Json) : Option α → Json
  | some a => toJson a
  | none => .null

/-- The object of a publication. -/
def Pub.toJson (p : Pub) : Json :=
  .object [
    ("id", .string p.id),
    ("values", .ofDict p.values),
    ("assignee", .ofOption Assignee.toJson p.assignee)]

/-- The object of a context. -/
def Context.toJson (c : Context) : Json :=
  .object [
    ("recipient", c.recipient.toJson),
    ("communitySlug", .string c.communitySlug),
    ("pub", c.pub.toJson),
    ("parentPub", .ofOption Pub.toJson c.parentPub)]

/-- The text of a context. -/
def Context.write (style : Json.Style) (c : Context) : String := c.toJson.write style

/-! ### Reading -/

/-- A user while it is being read. -/
structure UserFields where
  id : Option String
  firstName : Option String
  lastName : Option (Option String)
  email : Option String

/-- How messages name the list of a user. -/
def User.asList : String := "struct RecipientUser with 4 elements"

/-- A user. -/
def User.decode : Decoder User
  | levels, .array items stop =>
    fromRow (fun levels => do
      let id ← Row.take 0 User.asList (Decoder.string levels)
      let firstName ← Row.take 1 User.asList (Decoder.string levels)
      let lastName ← Row.takeOr none (Decoder.optional .string levels)
      let email ← Row.take 3 User.asList (Decoder.string levels)
      return ⟨id, firstName, lastName, email⟩) levels items stop
  | levels, draft => do
    let f ← Decoder.members "struct RecipientUser"
      (fun levels (f : UserFields) key value =>
        if key = "id" then do
          return { f with id := ← once key f.id (Decoder.string levels value) }
        else if key = "firstName" then do
          return { f with firstName := ← once key f.firstName (Decoder.string levels value) }
        else if key = "lastName" then do
          return { f with
            lastName := ← once key f.lastName (Decoder.optional .string levels value) }
        else if key = "email" then do
          return { f with email := ← once key f.email (Decoder.string levels value) }
        else do
          value.skip
          return f)
      ⟨none, none, none, none⟩ levels draft
    return ⟨← required "id" f.id, ← required "firstName" f.firstName, f.lastName.join,
      ← required "email" f.email⟩

/-- A recipient while it is being read. -/
structure RecipientFields where
  id : Option String
  user : Option User

/-- How messages name the list of a recipient. -/
def Recipient.asList : String := "struct Recipient with 2 elements"

/-- A recipient. -/
def Recipient.decode : Decoder Recipient
  | levels, .array items stop =>
    fromRow (fun levels => do
      let id ← Row.take 0 Recipient.asList (Decoder.string levels)
      let user ← Row.take 1 Recipient.asList (User.decode levels)
      return ⟨id, user⟩) levels items stop
  | levels, draft => do
    let f ← Decoder.members "struct Recipient"
      (fun levels (f : RecipientFields) key value =>
        if key = "id" then do
          return { f with id := ← once key f.id (Decoder.string levels value) }
        else if key = "user" then do
          return { f with user := ← once key f.user (User.decode levels value) }
        else do
          value.skip
          return f)
      ⟨none, none⟩ levels draft
    return ⟨← required "id" f.id, ← required "user" f.user⟩

/-- An assignee while it is being read. -/
structure AssigneeFields where
  firstName : Option String
  lastName : Option (Option String)
  email : Option String

/-- How messages name the list of an assignee. -/
def Assignee.asList : String := "struct Assignee with 3 elements"

/-- An assignee. -/
def Assignee.decode : Decoder Assignee
  | levels, .array items stop =>
    fromRow (fun levels => do
      let firstName ← Row.take 0 Assignee.asList (Decoder.string levels)
      let lastName ← Row.takeOr none (Decoder.optional .string levels)
      let email ← Row.take 2 Assignee.asList (Decoder.string levels)
      return ⟨firstName, lastName, email⟩) levels items stop
  | levels, draft => do
    let f ← Decoder.members "struct Assignee"
      (fun levels (f : AssigneeFields) key value =>
        if key = "firstName" then do
          return { f with firstName := ← once key f.firstName (Decoder.string levels value) }
        else if key = "lastName" then do
          return { f with
            lastName := ← once key f.lastName (Decoder.optional .string levels value) }
        else if key = "email" then do
          return { f with email := ← once key f.email (Decoder.string levels value) }
        else do
          value.skip
          return f)
      ⟨none, none, none⟩ levels draft
    return ⟨← required "firstName" f.firstName, f.lastName.join, ← required "email" f.email⟩

/-- A publication while it is being read. -/
structure PubFields where
  id : Option String
  values : Option (Dict Json)
  assignee : Option (Option Assignee)

/-- How messages name the list of a publication. -/
def Pub.asList : String := "struct PubRecord with 3 elements"

/-- A publication. -/
def Pub.decode : Decoder Pub
  | levels, .array items stop =>
    fromRow (fun levels => do
      let id ← Row.take 0 Pub.asList (Decoder.string levels)
      let values ← Row.takeOr .empty (Decoder.dictOf .anything levels)
      let assignee ← Row.takeOr none (Decoder.optional Assignee.decode levels)
      return ⟨id, values, assignee⟩) levels items stop
  | levels, draft => do
    let f ← Decoder.members "struct PubRecord"
      (fun levels (f : PubFields) key value =>
        if key = "id" then do
          return { f with id := ← once key f.id (Decoder.string levels value) }
        else if key = "values" then do
          return { f with values := ← once key f.values (Decoder.dictOf .anything levels value) }
        else if key = "assignee" then do
          return { f with
            assignee := ← once key f.assignee (Decoder.optional Assignee.decode levels value) }
        else do
          value.skip
          return f)
      ⟨none, none, none⟩ levels draft
    return ⟨← required "id" f.id, f.values.getD .empty, f.assignee.join⟩

/-- A context while it is being read. -/
structure ContextFields where
  recipient : Option Recipient
  communitySlug : Option String
  pub : Option Pub
  parentPub : Option (Option Pub)

/-- How messages name the list of a context. -/
def Context.asList : String := "struct RenderContext with 4 elements"

/-- A context. -/
def Context.decode : Decoder Context
  | levels, .array items stop =>
    fromRow (fun levels => do
      let recipient ← Row.take 0 Context.asList (Recipient.decode levels)
      let communitySlug ← Row.take 1 Context.asList (Decoder.string levels)
      let pub ← Row.take 2 Context.asList (Pub.decode levels)
      let parentPub ← Row.takeOr none (Decoder.optional Pub.decode levels)
      return ⟨recipient, communitySlug, pub, parentPub⟩) levels items stop
  | levels, draft => do
    let f ← Decoder.members "struct RenderContext"
      (fun levels (f : ContextFields) key value =>
        if key = "recipient" then do
          return { f with recipient := ← once key f.recipient (Recipient.decode levels value) }
        else if key = "communitySlug" then do
          return { f with
            communitySlug := ← once key f.communitySlug (Decoder.string levels value) }
        else if key = "pub" then do
          return { f with pub := ← once key f.pub (Pub.decode levels value) }
        else if key = "parentPub" then do
          return { f with
            parentPub := ← once key f.parentPub (Decoder.optional Pub.decode levels value) }
        else do
          value.skip
          return f)
      ⟨none, none, none, none⟩ levels draft
    return ⟨← required "recipient" f.recipient, ← required "communitySlug" f.communitySlug,
      ← required "pub" f.pub, f.parentPub.join⟩

/-- Reads a context. -/
def Context.read (text : String) : Read Context := Json.read Context.decode text

end MailMerge
