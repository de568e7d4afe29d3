import MailMerge.Directive.Name
import MailMerge.Tree.Path

/-!
# Notices

What happens during a rendering is noted step by step. Notices never influence a result.

## Main definitions

* `Notice`: the steps that are noted.
* `Notice.level`, `Notice.message`: how a notice is shown.
-/

namespace MailMerge

/-- How much a notice matters. -/
inductive Level where
  | debug
  | info
  | warn
deriving DecidableEq, Repr

/-- The name of a level. -/
def Level.name : Level → String
  | .debug => "DEBUG"
  | .info => "INFO"
  | .warn => "WARN"

/-- The steps that are noted. -/
inductive Notice where
  | rendering (directive : Directive)
  | withoutLastName (directive : String)
  | deferring (form : String) (path : Path)
  | resolving (links : Nat)
  | enrolling (member form : String)
  | minting (form user : String)
  | posting (url : String)
  | rendered (directives links : Nat)
  | noForms
  | written (path : String)
deriving DecidableEq, Repr

namespace Notice

/-- How much a notice matters. -/
def level : Notice → Level
  | .withoutLastName _ => .warn
  | .rendered _ _ => .info
  | _ => .debug

/-- The wording of a notice. -/
def message : Notice → String
  | .rendering directive => "Rendering :" ++ directive.name ++ " directive"
  | .withoutLastName directive => ":" ++ directive ++ " rendered without a last name"
  | .deferring form path => "Deferring link to form '" ++ form ++ "' at " ++ path.text
  | .resolving links => "Resolving " ++ toString links ++ " deferred form links"
  | .enrolling member form =>
    "Ensuring member " ++ member ++ " belongs to form '" ++ form ++ "'"
  | .minting form user => "Minting invite link to form '" ++ form ++ "' for user " ++ user
  | .posting url => "POST " ++ url
  | .rendered directives links =>
    "Rendered " ++ toString directives ++ " directives (" ++ toString links ++ " form links)"
  | .noForms => "No [forms] section configured; form links cannot be resolved"
  | .written path => "Wrote rendered tree to " ++ path

end Notice

end MailMerge
