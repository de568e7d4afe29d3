import MailMerge.Render.Join

/-!
# Records of what has been requested

Whoever has to answer for a mailing wants to know who has been enrolled in what, which links
have been minted for whom, and in which order the requests were made. All of this can be read
off the events of a rendering. An enrolment or a link is recorded when its request has ended,
even if it has failed.

## Main definitions

* `Event.membership?`, `Event.invite?`: what an event adds to the record.
* `Event.call`: an event as a word and a form.
-/

namespace MailMerge

/-- A member and a form. -/
structure Membership where
  member : String
  form : String
deriving DecidableEq, Repr

/-- A user, a form and a publication. -/
structure Invite where
  user : String
  form : String
  pub : String
deriving DecidableEq, Repr

namespace Event

/-- The enrolment that ends with an event. -/
def membership? (e : Event) : Option Membership :=
  match e.happening with
  | .enrolmentEnded member _ => some ⟨member, e.form⟩
  | _ => none

/-- The link whose minting ends with an event. -/
def invite? (e : Event) : Option Invite :=
  match e.happening with
  | .mintingEnded user pub _ => some ⟨user, e.form, pub⟩
  | _ => none

/-- How an event is called. -/
def call (e : Event) : String :=
  match e.happening with
  | .enrolmentStarted _ => "member"
  | .enrolmentEnded _ true => "member ok"
  | .enrolmentEnded _ false => "member failed"
  | .mintingStarted _ _ => "mint"
  | .mintingEnded _ _ true => "mint ok"
  | .mintingEnded _ _ false => "mint failed"

end Event

end MailMerge
