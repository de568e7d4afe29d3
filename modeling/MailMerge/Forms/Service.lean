import MailMerge.Directive.Error
import MailMerge.Notice

/-!
# The form service

A link to a form takes its recipient straight into it. That needs two requests to a service
outside: the recipient is enrolled in the form, and an invite link is minted. A request may
take its time: it reports a number of times that it is not ready before it answers.

## Main definitions

* `Pending`: a request that has been made.
* `FormService`: how a service with state reacts to the two requests.
* `FormService.unconfigured`: the service that refuses everything.
-/

namespace MailMerge

/-- A request that has been made: how often it will report that it is not ready, its answer,
and the service afterwards. -/
structure Pending (σ α : Type) where
  delay : Nat
  answer : Except Failure α
  state : σ
  notices : List Notice

/-- How a service with state `σ` reacts to the two requests of a form link. -/
structure FormService (σ : Type) where
  ensureMembership : (member form : String) → σ → Pending σ Unit
  mintInviteLink : (user form pub : String) → σ → Pending σ String

namespace FormService

/-- Why nothing can be requested without a configuration. -/
def notConfigured : Failure :=
  .plain "no form API is configured (add a [forms] section to the configuration)"

/-- The service that refuses everything. -/
def unconfigured (σ : Type) : FormService σ where
  ensureMembership _ _ s := ⟨0, .error notConfigured, s, []⟩
  mintInviteLink _ _ _ s := ⟨0, .error notConfigured, s, []⟩

end FormService

end MailMerge
