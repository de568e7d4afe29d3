import MailMerge.Json.Decode

/-!
# Settings of the form service

The service is reached under a URL, perhaps with a token. The token of the environment takes
precedence over the stored one.

## Main definitions

* `FormSettings`: what is stored about the service.
* `FormSettings.timeout`, `FormSettings.token?`: what is used.
* `FormSettings.decode`: the settings of an object or a list.
-/

namespace MailMerge

open Json (Read Decoder Row fromRow once required)

/-- What is stored about the form service. -/
structure FormSettings where
  apiUrl : String
  apiToken : Option String
  timeoutSeconds : Option Nat
deriving DecidableEq, Repr

namespace FormSettings

/-- How long to wait for an answer unless something else is stored, in seconds. -/
def defaultTimeout : Nat := 30

/-- How long to wait for an answer, in seconds. -/
def timeout (s : FormSettings) : Nat := s.timeoutSeconds.getD defaultTimeout

/-- The token to send, `environment` being the one of the environment. -/
def token? (s : FormSettings) (environment : Option String) : Option String :=
  match environment with
  | some token => if token.isEmpty then s.apiToken else some token
  | none => s.apiToken

/-- Settings while they are being read. -/
structure Fields where
  apiUrl : Option String
  apiToken : Option (Option String)
  timeoutSeconds : Option (Option Nat)

/-- How messages name the list of the settings. -/
def asList : String := "struct FormApiConfig with 3 elements"

/-- The settings. -/
def decode : Decoder FormSettings
  | levels, .array items stop =>
    fromRow (fun levels => do
      let apiUrl ← Row.take 0 asList (Decoder.string levels)
      let apiToken ← Row.takeOr none (Decoder.optional .string levels)
      let timeoutSeconds ← Row.takeOr none (Decoder.optional .word levels)
      return ⟨apiUrl, apiToken, timeoutSeconds⟩) levels items stop
  | levels, draft => do
    let f ← Decoder.members "struct FormApiConfig"
      (fun levels (f : Fields) key value =>
        if key = "api_url" then do
          return { f with apiUrl := ← once key f.apiUrl (Decoder.string levels value) }
        else if key = "api_token" then do
          return { f with
            apiToken := ← once key f.apiToken (Decoder.optional .string levels value) }
        else if key = "timeout_secs" then do
          return { f with
            timeoutSeconds := ← once key f.timeoutSeconds (Decoder.optional .word levels value) }
        else do
          value.skip
          return f)
      ⟨none, none, none⟩ levels draft
    return ⟨← required "api_url" f.apiUrl, f.apiToken.join, f.timeoutSeconds.join⟩

/-- Reads the settings. -/
def read (text : String) : Read FormSettings := Json.read decode text

/-- Reads settings that may be missing. -/
def read? (text : String) : Read (Option FormSettings) := Json.read (Decoder.optional decode) text

end FormSettings

end MailMerge
