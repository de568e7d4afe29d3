import MailMerge.Forms.Http
import MailMerge.Forms.Rehearsal

/-!
# Ways to the form service

A document is rendered without a service, in a rehearsal, or with the service that the
settings name.

## Main definitions

* `Access`: the ways, with all the state that they have.
* `Access.service`: the service that a way leads to.
-/

namespace MailMerge

/-- A way to the form service. -/
inductive Access where
  | unconfigured
  | rehearsal (told : Rehearsal)
  | http (api : FormApi) (wire : Wire)

namespace Access

/-- The requests that have been sent. -/
def requests : Access → List Request
  | .http _ wire => wire.sent
  | _ => []

/-- The service that a way leads to. Only the wire of a service over HTTP ever changes. -/
def service : FormService Access where
  ensureMembership member form
    | .unconfigured => (FormService.unconfigured Access).ensureMembership member form .unconfigured
    | .rehearsal told => (told.service Access).ensureMembership member form (.rehearsal told)
    | .http api wire =>
      let request := api.service.ensureMembership member form wire
      { request with state := .http api request.state }
  mintInviteLink user form pub
    | .unconfigured =>
      (FormService.unconfigured Access).mintInviteLink user form pub .unconfigured
    | .rehearsal told => (told.service Access).mintInviteLink user form pub (.rehearsal told)
    | .http api wire =>
      let request := api.service.mintInviteLink user form pub wire
      { request with state := .http api request.state }

end Access

end MailMerge
