import MailMerge.Dict
import MailMerge.Forms.Service

/-!
# A form service for rehearsals

A mailing is rehearsed against a service that enrols nobody: it mints links that can be
foretold, refuses the forms it is told to refuse, and lets requests wait as long as it is
told to.

## Main definitions

* `Rehearsal`: what the service has been told.
* `Rehearsal.linkTo`: the link that it mints.
* `Rehearsal.service`: the service.
-/

namespace MailMerge

/-- What a service for rehearsals has been told: the forms whose requests fail, the links to
mint instead of the usual ones, and how often the requests for a form are not ready. -/
structure Rehearsal where
  failingMemberships : List String
  failingMints : List String
  links : Dict String
  enrolmentDelays : Dict Nat
  mintDelays : Dict Nat

namespace Rehearsal

/-- A service that has been told nothing refuses nothing. -/
def plain : Rehearsal := ⟨[], [], .empty, .empty, .empty⟩

/-- The usual link. -/
def usualLink (user form : String) : String :=
  "https://forms.test/" ++ form ++ "/fill?token=token-" ++ user

/-- The link that is minted. -/
def linkTo (r : Rehearsal) (user form : String) : String :=
  (r.links.get? form).getD (usualLink user form)

/-- Whether a member is enrolled. -/
def enrol (r : Rehearsal) (form : String) : Except Failure Unit :=
  if form ∈ r.failingMemberships then .error (.plain ("form '" ++ form ++ "' does not exist"))
  else .ok ()

/-- The link that is minted, if the form is not refused. -/
def mint (r : Rehearsal) (user form : String) : Except Failure String :=
  if form ∈ r.failingMints then
    .error (.plain ("token service rejected form '" ++ form ++ "'"))
  else .ok (r.linkTo user form)

/-- The service. It keeps its state, whatever that is. -/
def service (r : Rehearsal) (σ : Type) : FormService σ where
  ensureMembership _ form s := ⟨(r.enrolmentDelays.get? form).getD 0, r.enrol form, s, []⟩
  mintInviteLink user form _ s := ⟨(r.mintDelays.get? form).getD 0, r.mint user form, s, []⟩

end Rehearsal

end MailMerge
