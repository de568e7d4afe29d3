import MailMerge.Decimal.Numeral
import MailMerge.Directive.Error
import MailMerge.Forms.Settings
import MailMerge.Toml.Read
import MailMerge.Toml.Write

/-!
# The configuration

The configuration is a settings file that says how to reach the form service. Without a section
about forms it says nothing; whatever else it holds is passed over.

## Main definitions

* `Configuration`: what a configuration says.
* `Configuration.ofRows?`, `Configuration.read`: the configuration of a file.
* `Configuration.write`: the file of a configuration.
* `Configuration.location`: where the configuration is looked for.
-/

namespace MailMerge

open Toml (Rows Value)

/-- What a configuration says. -/
structure Configuration where
  forms : Option FormSettings
deriving DecidableEq, Repr

/-- The text of a value. -/
def Toml.Value.text? : Value → Option String
  | .string s => some s
  | _ => none

/-- The unsigned word of a value. -/
def Toml.Value.word? : Value → Option Nat
  | .whole i => if 0 ≤ i ∧ i < Int.pow 2 64 then some i.toNat else none
  | _ => none

/-- What `read` makes of a value that may be missing. -/
def Toml.Value.maybe? {α : Type} (read : Value → Option α) : Option Value → Option (Option α)
  | none => some none
  | some value => (read value).map some

open Toml.Value (text? word? maybe?)

namespace FormSettings

/-- The settings of a table, or of a list of all fields in order. -/
def ofValue? : Value → Option FormSettings
  | .table _ rows => do
    let apiUrl ← text? (← rows.lookup "api_url")
    let apiToken ← maybe? text? (rows.lookup "api_token")
    let timeoutSeconds ← maybe? word? (rows.lookup "timeout_secs")
    return ⟨apiUrl, apiToken, timeoutSeconds⟩
  | .list _ items => do
    let apiUrl ← text? (← items[0]?)
    let apiToken ← maybe? text? items[1]?
    let timeoutSeconds ← maybe? word? items[2]?
    return ⟨apiUrl, apiToken, timeoutSeconds⟩
  | _ => none

/-- A line with a key and a value. -/
def line (key : String) (value : List Char) : List Char :=
  key.toList ++ " = ".toList ++ value ++ ['\n']

/-- The section about forms. -/
def chars (s : FormSettings) : List Char :=
  "[forms]\n".toList ++ line "api_url" (Toml.stringChars s.apiUrl) ++
    (match s.apiToken with
      | some token => line "api_token" (Toml.stringChars token)
      | none => []) ++
    match s.timeoutSeconds with
      | some seconds => line "timeout_secs" (Decimal.natChars seconds)
      | none => []

end FormSettings

namespace Configuration

/-- The configuration that says nothing. -/
def silent : Configuration := ⟨none⟩

/-- The configuration of a table. -/
def ofRows? (rows : Rows) : Option Configuration := do
  return ⟨← maybe? FormSettings.ofValue? (rows.lookup "forms")⟩

/-- What a text that is no configuration is reported as. -/
def unreadable : Failure := .plain "<toml>"

/-- The configuration of a file. -/
def read (text : String) : Except Failure Configuration :=
  match (Toml.read? text).bind ofRows? with
  | some configuration => .ok configuration
  | none => .error unreadable

/-- The file of a configuration. -/
def write (c : Configuration) : String := String.ofList ((c.forms.map FormSettings.chars).getD [])

/-- True if the file of a configuration says the same as the configuration. -/
def isKept (c : Configuration) : Bool :=
  match read c.write with
  | .ok again => again == c
  | .error _ => false

/-- A path below a directory. -/
def below (directory name : String) : String :=
  if directory.isEmpty || directory.endsWith "/" then directory ++ name
  else directory ++ "/" ++ name

/-- The home directory, if there is one: what the environment says, unless that is nothing; then the
account's. -/
def homeDirectory (stated account : Option String) : Option String :=
  (stated.filter fun home => !home.isEmpty) <|> account.filter fun home => !home.isEmpty

/-- Where the configuration is looked for: in the place that the environment names, else below
the home directory. -/
def location (home environment : Option String) : Except Failure String :=
  match environment, home with
  | some path, _ => .ok path
  | none, some home => .ok (below (below home ".pubmail") "config.toml")
  | none, none => .error (.plain "Unable to determine home directory")

end Configuration

end MailMerge
