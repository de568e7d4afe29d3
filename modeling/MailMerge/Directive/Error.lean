import MailMerge.Json.Fault
import MailMerge.Tree.Path

/-!
# What can go wrong

A directive that cannot be filled in fails with one of five errors. Everything else that
can go wrong around it, such as a file that is missing or a service that refuses, is a
`Failure`. Failures can be wrapped in descriptions of what was being done, and the failure
of a service is part of the error of the directive that needed it.

## Main definitions

* `DirectiveError`, `Failure`: the causes.
* `DirectiveError.message`, `Failure.text`: their wording.
* `Failure.chain`: a failure and what is behind it, from outside in.
-/

namespace MailMerge

/-- What a context lacks. -/
inductive Missing where
  | parentPub
  | assignee
  | parentAssignee
  | stated (what : String)
deriving DecidableEq, Repr

/-- What a context lacks, in messages. -/
def Missing.text : Missing → String
  | .parentPub => "a parent pub"
  | .assignee => "an assignee on the pub"
  | .parentAssignee => "an assignee on the parent pub"
  | .stated what => what

/-- Why a directive is rejected. -/
inductive Reason where
  | unrecognized
  | alreadyRendered
  | badRelation (value : String)
  | noTarget
  | gone (path : Path)
  | stated (why : String)
deriving DecidableEq, Repr

/-- Why a directive is rejected, in messages. -/
def Reason.text : Reason → String
  | .unrecognized => "unrecognized directive"
  | .alreadyRendered => "directive has already been rendered"
  | .badRelation value => "invalid value '" ++ value ++ "' for the \"rel\" attribute"
  | .noTarget => "link needs one of the email, form, to or field attributes"
  | .gone path => "deferred link at " ++ path.text ++ " is gone"
  | .stated why => why

/-- The two requests that a form link needs. -/
inductive Operation where
  | ensureMembership
  | mintInviteLink
deriving DecidableEq, Repr

/-- The name of a request in messages. -/
def Operation.text : Operation → String
  | .ensureMembership => "ensure form membership"
  | .mintInviteLink => "mint invite link"

/-- Why a file operation failed. -/
inductive FileFault where
  | notFound
  | permissionDenied
  | isDirectory
  | notDirectory
  | nameTooLong
  | invalidData
  | other
deriving DecidableEq, Repr

mutual

/-- Why a directive cannot be filled in. Every error names the directive as it is written. -/
inductive DirectiveError where
  | missingAttribute (directive key : String)
  | missingContext (directive : String) (missing : Missing)
  | missingValue (directive field : String)
  | invalidDirective (directive : String) (reason : Reason)
  | serviceFailure (operation : Operation) (form : String) (source : Failure)

/-- Why something failed. `wrapped` adds what was being done. A failed file operation can have a
cause of its own, which `fileFrom` keeps, and a document can be unreadable since its text could not
be obtained, which is `jsonFrom`. -/
inductive Failure where
  | directive (error : DirectiveError)
  | file (fault : FileFault) (text : String)
  | fileFrom (fault : FileFault) (text : String) (source : Failure)
  | json (error : Json.ReadError)
  | jsonFrom (text : String) (source : Failure)
  | plain (text : String)
  | wrapped (doing : String) (inner : Failure)

end

namespace DirectiveError

/-- The wording of an error. -/
def message : DirectiveError → String
  | .missingAttribute directive key =>
    "Directive '" ++ directive ++ "' is missing the '" ++ key ++ "' attribute"
  | .missingContext directive missing =>
    "Directive '" ++ directive ++ "' requires " ++ missing.text
  | .missingValue directive field =>
    "Directive '" ++ directive ++ "' references field '" ++ field ++ "' which has no value"
  | .invalidDirective directive reason =>
    "Invalid directive '" ++ directive ++ "': " ++ reason.text
  | .serviceFailure operation form _ =>
    "Failed to " ++ operation.text ++ " for form '" ++ form ++ "'"

end DirectiveError

namespace Failure

/-- The outermost text of a failure. -/
def text : Failure → String
  | .directive error => error.message
  | .file _ text => text
  | .fileFrom _ text _ => text
  | .json error => error.message
  | .jsonFrom text _ => text
  | .plain text => text
  | .wrapped doing _ => doing

/-- Describes what was being done when a failure happened. -/
def doing {α : Type} (what : String) : Except Failure α → Except Failure α
  | .ok a => .ok a
  | .error failure => .error (.wrapped what failure)

mutual

/-- A failure and the failures behind it, from outside in. -/
def chain : Failure → List Failure
  | .directive error => .directive error :: sources error
  | .wrapped what inner => .wrapped what inner :: chain inner
  | .file fault text => [.file fault text]
  | .fileFrom fault text source => .fileFrom fault text source :: chain source
  | .json error => [.json error]
  | .jsonFrom text source => .jsonFrom text source :: chain source
  | .plain text => [.plain text]

/-- What is behind the error of a directive. -/
def sources : DirectiveError → List Failure
  | .serviceFailure _ _ source => chain source
  | _ => []

end

/-- The first error of a directive in a chain. -/
def directive? : Failure → Option DirectiveError
  | .directive error => some error
  | _ => none

/-- The fault and the text of a failed file operation. -/
def file? : Failure → Option (FileFault × String)
  | .file fault text => some (fault, text)
  | .fileFrom fault text _ => some (fault, text)
  | _ => none

/-- What is wrong with a document that could not be read. -/
def json? : Failure → Option String
  | .json error => some error.message
  | .jsonFrom text _ => some text
  | _ => none

end Failure

end MailMerge
