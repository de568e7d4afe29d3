import MailMerge.Directive.Error
import MailMerge.Directive.Name

/-!
# Reports to the user

A failure is reported with a message, perhaps details and perhaps a suggestion. The error
of a directive is reported for what it is, however it has been wrapped; otherwise a failed
file operation or an unreadable document decides, wherever it stands in the chain.

## Main definitions

* `Report`: message, details, suggestion.
* `Report.ofDirectiveError`, `Report.ofFailure`: what is reported.
* `Report.text`, `Report.lines`: a report as text and on the terminal.
-/

namespace MailMerge

/-- What the user is told about a failure. -/
structure Report where
  message : String
  details : Option String
  suggestion : Option String
deriving DecidableEq, Repr

namespace Report

/-- A message alone. -/
def plain (message : String) : Report := ⟨message, none, none⟩

/-- The message of an error alone. -/
def ofMessage (error : DirectiveError) : Report := plain error.message

/-- Replaces the details. -/
def withDetails (r : Report) (details : String) : Report := { r with details := some details }

/-- Replaces the suggestion. -/
def withSuggestion (r : Report) (suggestion : String) : Report :=
  { r with suggestion := some suggestion }

/-- The list of all directives. -/
def availableDirectives : String :=
  "Available directives: " ++ ", ".intercalate (Directive.all.map Directive.name)

/-- What is reported about the error of a directive. -/
def ofDirectiveError (error : DirectiveError) : Report :=
  let report := ofMessage error
  match error with
  | .missingAttribute _ key =>
    report.withSuggestion ("Add a non-empty " ++ key ++ "=... attribute to the directive")
  | .missingContext _ _ =>
    (report.withDetails
      "The pub this email is sent for does not provide the required data").withSuggestion
      "Remove rel=parent or the assignee directive, or send from a pub that has it"
  | .missingValue _ field =>
    (report.withDetails ("No value is stored for field '" ++ field ++ "'")).withSuggestion
      "Check the field slug, including its community prefix"
  | .invalidDirective directive _ =>
    match Directive.suggestion? directive with
    | some d => report.withSuggestion ("Did you mean ':" ++ d.name ++ "'?")
    | none => report.withDetails availableDirectives
  | .serviceFailure _ _ source =>
    (report.withDetails source.text).withSuggestion
      "Check the [forms] section of the configuration and that the form exists"

/-- What is suggested about a failed file operation. -/
def fileSuggestion? : FileFault → Option String
  | .notFound => some "Check that the file exists and the path is correct"
  | .permissionDenied => some "Check the file permissions"
  | _ => none

/-- What is suggested about an unreadable document. -/
def jsonSuggestion : String :=
  "The tree must be an mdast JSON document and the context must use camelCase keys"

/-- What is reported about a failure. -/
def ofFailure (failure : Failure) : Report :=
  let chain := failure.chain
  match chain.findSome? Failure.directive? with
  | some error => ofDirectiveError error
  | none =>
    match chain.findSome? Failure.file? with
    | some (fault, text) => ⟨failure.text, some text, fileSuggestion? fault⟩
    | none =>
      match chain.findSome? Failure.json? with
      | some text => ⟨failure.text, some text, some jsonSuggestion⟩
      | none =>
        match chain.tail.map Failure.text with
        | [] => plain failure.text
        | texts => (plain failure.text).withDetails (": ".intercalate texts)

/-- A report as one text. -/
def text (r : Report) : String :=
  r.message
    ++ (match r.details with | some d => "\nDetails: " ++ d | none => "")
    ++ (match r.suggestion with | some s => "\nSuggestion: " ++ s | none => "")

/-- A report on the terminal. -/
def lines (r : Report) : String :=
  "error: " ++ r.message ++ "\n"
    ++ (match r.details with | some d => "details: " ++ d ++ "\n" | none => "")
    ++ (match r.suggestion with | some s => "suggestion: " ++ s ++ "\n" | none => "")

end Report

end MailMerge
