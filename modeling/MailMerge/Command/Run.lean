import MailMerge.Command.Arguments
import MailMerge.Command.Disk
import MailMerge.Config.Configuration
import MailMerge.Context.Codec
import MailMerge.Directive.Report
import MailMerge.Forms.Access
import MailMerge.Render.Render
import MailMerge.Tree.Codec

/-!
# Running a command

There are two commands. `render` renders a document for a context and prints it or writes it to
a file; `check` only fills the directives in and prints what there is to do. Everything that a
command depends on is a value: the files, the environment and the wire to the form service.

Nothing is printed and nothing is written before everything else has succeeded.

## Main definitions

* `Machine`: what a command depends on.
* `Effect`: what a command does.
* `Machine.check`, `Machine.render`: the commands.
* `Finish`, `Machine.run`: a whole run, from the command line to the exit code.

## Main results

* `disk_check`, `requests_check`: checking writes no file and sends no request.
-/

namespace MailMerge

/-- Everything that a command depends on: the files, the environment, the home directory of the
account if it has one, the HTTP client or why there is none, and the wire to the form service. -/
structure Machine where
  disk : Disk
  environment : Dict String
  accountHome : Option String
  client : Except Failure Client
  wire : Wire

/-- What a command does: the text that it prints or the failure that it ends with, the files
afterwards, the requests that it sends, and what is noted. -/
structure Effect where
  result : Except Failure String
  disk : Disk
  requests : List Request
  notices : List Notice

namespace Machine

/-! ### Input -/

/-- The text of a file that is needed for something. -/
def readText (m : Machine) (what path : String) : Except Failure String :=
  Failure.doing ("Failed to read " ++ what ++ " from " ++ path)
    ((m.disk.read path).mapError FileFault.failure)

/-- The document in a file. -/
def readDocument {α : Type} (m : Machine) (what : String) (read : String → Json.Read α)
    (path : String) : Except Failure α := do
  let text ← m.readText what path
  Failure.doing ("Failed to parse " ++ what ++ " from " ++ path) ((read text).mapError .json)

/-- The document and the context that a command is about. -/
def inputs (m : Machine) (tree context : String) : Except Failure (Node × Context) := do
  let tree ← m.readDocument "tree" Node.read tree
  let context ← m.readDocument "render context" Context.read context
  return (tree, context)

/-- The configuration in a file. -/
def readConfiguration (m : Machine) (path : String) : Except Failure Configuration := do
  let text ← m.readText "config" path
  Failure.doing ("Failed to parse config from " ++ path) (Configuration.read text)

/-- Where the configuration is looked for unless the command line says so. -/
def configurationPath (m : Machine) : Except Failure String :=
  Configuration.location (Configuration.homeDirectory (m.environment.get? "HOME") m.accountHome)
    (m.environment.get? "PUBMAIL_CONFIG_PATH")

/-- The configuration. Only a file that the command line names has to be there. -/
def configuration (m : Machine) (path : Option String) : Except Failure Configuration :=
  match path with
  | some path => m.readConfiguration path
  | none => do
    let path ← m.configurationPath
    if m.disk.holds path then m.readConfiguration path else .ok .silent

/-- The way to the form service that a configuration names. -/
def access (m : Machine) (c : Configuration) : Except Failure Access :=
  match c.forms with
  | none => .ok .unconfigured
  | some settings => do
    let api ← FormApi.ofSettings settings (m.environment.get? "PUBMAIL_API_TOKEN") m.client
    return .http api m.wire

/-- What is noted about a configuration. -/
def accessNotices (c : Configuration) : List Notice :=
  if c.forms.isNone then [.noForms] else []

/-! ### Commands -/

/-- Nothing but a failure. -/
def failed (m : Machine) (f : Failure) (notices : List Notice) : Effect :=
  ⟨.error f, m.disk, [], notices⟩

/-- A link that is to be resolved, in a summary. -/
def linkLine (l : DeferredLink) : String := "  " ++ l.form ++ " at " ++ l.path.text

/-- What a check has found. -/
def summary (found : Found) : String :=
  let directives := "✓ " ++ toString found.directives ++
    (if found.directives = 1 then " directive" else " directives")
  let links :=
    if found.deferred.isEmpty then ["No form links"]
    else (toString found.deferred.length ++ " form link(s) to resolve:") ::
      found.deferred.map linkLine
  "\n".intercalate (directives :: links)

/-- Fills the directives of a document in and prints what there is to do. -/
def check (m : Machine) (tree context : String) : Effect :=
  match m.inputs tree context with
  | .error f => m.failed f []
  | .ok (tree, context) =>
    let walk := tree.walk context
    match walk.outcome with
    | .error e => m.failed (.directive e) walk.notices
    | .ok found => ⟨.ok (summary found ++ "\n"), m.disk, [], walk.notices⟩

/-- Prints a rendered document, or writes it to a file. -/
def deliver (m : Machine) (text : String) (output : Option String) (requests : List Request)
    (notices : List Notice) : Effect :=
  match output with
  | none => ⟨.ok text, m.disk, requests, notices⟩
  | some path =>
    match m.disk.write path text with
    | .error fault =>
      ⟨.error (.wrapped ("Failed to write rendered tree to " ++ path) fault.failure), m.disk,
        requests, notices⟩
    | .ok disk => ⟨.ok "", disk, requests, notices ++ [.written path]⟩

/-- The text of a rendered document. -/
def documentText (pretty : Bool) (tree : Node) : String :=
  tree.write (if pretty then .indented else .compact) ++ "\n"

/-- Renders a document and hands it out. -/
def renderWith (m : Machine) (access : Access) (notices : List Notice) (tree : Node)
    (context : Context) (output : Option String) (pretty : Bool) : Effect :=
  let out := tree.render Access.service context access
  let notices := notices ++ out.notices
  match out.result with
  | .error e => ⟨.error (.directive e), m.disk, out.state.requests, notices⟩
  | .ok rendered =>
    m.deliver (documentText pretty rendered.tree) output out.state.requests notices

/-- What has to be known before a document can be rendered. -/
def preparation (m : Machine) (config : Option String) :
    Except Failure (Access × List Notice) := do
  let configuration ← m.configuration config
  let access ← m.access configuration
  return (access, accessNotices configuration)

/-- Renders a document for a context. -/
def render (m : Machine) (config : Option String) (tree context : String)
    (output : Option String) (pretty : Bool) : Effect :=
  match m.preparation config with
  | .error f => m.failed f []
  | .ok (access, notices) =>
    match m.inputs tree context with
    | .error f => m.failed f notices
    | .ok (tree, context) => m.renderWith access notices tree context output pretty

/-- Carries out what a command line asks for. -/
def execute (m : Machine) (i : Invocation) : Effect :=
  match i.command with
  | .check tree context => m.check tree context
  | .render tree context output pretty => m.render i.config tree context output pretty

end Machine

/-! ### Runs -/

/-- What a run leaves behind. -/
structure Finish where
  exitCode : Nat
  stdout : String
  stderr : String
  disk : Disk
  requests : List Request
  notices : List Notice

/-- The answer to a question for the version. -/
def versionText : String := "pubmail 0.1.0\n"

/-- The answer to a question for help. -/
def helpText : String :=
  "Usage: pubmail [-v|-q] [-c FILE] <COMMAND>\n\n" ++
  "  render --tree FILE --context FILE [-o FILE] [--pretty]\n" ++
  "  check --tree FILE --context FILE\n"

/-- What is printed instead of the output of a command. -/
def UsageFault.stdout : UsageFault → String
  | .help => helpText
  | .version => versionText
  | _ => ""

/-- What is reported about a command line. -/
def UsageFault.stderr : UsageFault → String
  | .help | .version => ""
  | _ => "error: the command line is not understood\n\n" ++ helpText

/-- What an effect leaves behind. A failure is reported, and nothing is printed then. -/
def Effect.finish (e : Effect) : Finish :=
  match e.result with
  | .ok text => ⟨0, text, "", e.disk, e.requests, e.notices⟩
  | .error f => ⟨1, "", (Report.ofFailure f).lines, e.disk, e.requests, e.notices⟩

namespace Machine

/-- A whole run. -/
def run (m : Machine) (words : List String) : Finish :=
  match Invocation.parse words with
  | .error fault => ⟨fault.exitCode, fault.stdout, fault.stderr, m.disk, [], []⟩
  | .ok i => (m.execute i).finish

/-- Checking writes no file. -/
@[simp] theorem disk_check (m : Machine) (tree context : String) :
    (m.check tree context).disk = m.disk := by
  unfold check failed
  split
  · rfl
  · dsimp only
    split <;> rfl

/-- Checking sends no request. -/
@[simp] theorem requests_check (m : Machine) (tree context : String) :
    (m.check tree context).requests = [] := by
  unfold check failed
  split
  · rfl
  · dsimp only
    split <;> rfl

end Machine

end MailMerge
