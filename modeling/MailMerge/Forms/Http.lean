import MailMerge.Context.Codec
import MailMerge.Forms.Service
import MailMerge.Forms.Settings
import MailMerge.Forms.Status
import MailMerge.Url.Parse

/-!
# The form service over HTTP

Both requests are posted to endpoints below the URL of the service: `forms`, the form, and
`members` or `invites`. Any answer of success enrols a member; an invite link is minted by an
answer of success that holds a link.

What is on the other end of the wire is a list of replies. Every request that is sent takes
the next one, and with none left the connection is closed without an answer.

Between the service and the wire there is an HTTP client. It may follow a reply that redirects it
to another place, with requests of its own, and what comes of that is left open here. Any other
reply it hands on as it is. How long a client waits, and what it makes of a name and a password in
the URL of the service, is left out.

## Main definitions

* `Request`, `Reply`, `Wire`: what goes out, what comes back, and what does so next.
* `Reply.redirects`, `Wire.Direct`: replies that a client may follow, and wires without any.
* `Client`: what is known of an HTTP client.
* `FormApi`: a service that can be reached, `FormApi.ofSettings` from its settings.
* `FormApi.endpoint`: where a request is posted.
* `FormApi.service`: the service over a wire.
-/

namespace MailMerge

open Json (Read Decoder Row fromRow once required)

/-! ### The wire -/

/-- A request: what it asks for, the token that it shows, and what it says. -/
structure Request where
  method : String
  url : Url
  authorization : Option String
  body : Option Json

namespace Request

/-- What is said is said in JSON. -/
def contentType (r : Request) : Option String := r.body.map fun _ => "application/json"

/-- The URL as it is sent. -/
def target (r : Request) : String := String.ofList r.url.writeTarget

/-- The body as it is sent. -/
def text (r : Request) : String := r.body.elim "" (Json.write .compact)

end Request

/-- An answer. It may name another place to go to. -/
structure Reply where
  status : Status
  location : Option String
  body : String
deriving DecidableEq, Repr

/-- Whether a client may follow an answer to the place that it names. -/
def Reply.redirects (r : Reply) : Bool := r.status.isRedirection && r.location.isSome

/-- The state of a wire: whether the server can be reached at all, the replies that are left,
how often the next requests will not be ready before their answers are there, and the
requests that have been sent. -/
structure Wire where
  reachable : Bool
  replies : List Reply
  lags : List Nat
  sent : List Request

namespace Wire

/-- The wire to a server that cannot be reached. -/
def unreachable : Wire := ⟨false, [], [], []⟩

/-- A wire with replies that come at once. -/
def ofReplies (replies : List Reply) : Wire := ⟨true, replies, [], []⟩

/-- No reply redirects a client. -/
def Direct (w : Wire) : Prop := ∀ r ∈ w.replies, r.redirects = false

instance (w : Wire) : Decidable w.Direct :=
  List.decidableBAll (fun r : Reply => r.redirects = false) w.replies

end Wire

/-- What has come of a request: the answer, if there is one, how often the request will report that
it is not ready, and the wire afterwards. -/
structure Exchange where
  reply : Option Reply
  delay : Nat
  after : Wire

/-- Sends a request and takes the next reply. Nothing reaches an unreachable server. -/
def Wire.send (w : Wire) (r : Request) : Exchange :=
  if w.reachable then
    ⟨w.replies.head?, w.lags.headD 0, ⟨true, w.replies.tail, w.lags.tail, w.sent ++ [r]⟩⟩
  else ⟨none, w.lags.headD 0, w⟩

/-- An HTTP client. Unless the next reply redirects it, it sends the request and hands the reply
on. -/
structure Client where
  exchange : Request → Wire → Exchange
  exchange_eq_send : ∀ r w, (∀ reply, w.replies.head? = some reply → reply.redirects = false) →
    exchange r w = w.send r

/-- The client that hands every reply on. -/
def Client.plain : Client := ⟨fun r w => w.send r, fun _ _ _ => rfl⟩

/-! ### The adapter -/

/-- A service that can be reached: its URL has a path to put the endpoints behind. -/
structure FormApi where
  url : Url
  token : Option String
  client : Client
  hasPath : url.hasPath = true

namespace FormApi

/-- The service with the given settings, `environment` being the token of the environment, and
`client` the HTTP client that there is, or why there is none. -/
def ofSettings (s : FormSettings) (environment : Option String) (client : Except Failure Client) :
    Except Failure FormApi :=
  match Url.parse s.apiUrl with
  | .error e =>
    .error (.wrapped ("Invalid form API URL '" ++ s.apiUrl ++ "'") (.plain e.message))
  | .ok url =>
    if h : url.hasPath = true then
      match client with
      | .error f => .error (.wrapped "Failed to build HTTP client for the form API" f)
      | .ok client => .ok ⟨url, s.token? environment, client, h⟩
    else .error (.plain ("Form API URL '" ++ url.write ++ "' cannot be used as a base URL"))

/-- Where a request about a form is posted. -/
def endpoint (api : FormApi) (form action : String) : Url :=
  api.url.extendPath ["forms", form, action]

/-- True for texts that a header can hold. -/
def isHeaderText (s : String) : Bool :=
  s.toList.all fun c => c = '\t' || (' ' ≤ c && c ≠ '\x7f')

/-- Requests are sent with these schemes only. -/
def canSend (api : FormApi) : Bool :=
  (api.url.scheme == "http".toList || api.url.scheme == "https".toList) &&
    api.token.all isHeaderText

/-- Blanks around the text of a header are not part of it. -/
def trimHeader (s : String) : String :=
  let blank (c : Char) : Bool := c = ' ' || c = '\t'
  String.ofList ((s.toList.dropWhile blank).reverse.dropWhile blank).reverse

/-- The request that posts `body` to an endpoint. -/
def request (api : FormApi) (form action : String) (body : Json) : Request where
  method := "POST"
  url := api.endpoint form action
  authorization := api.token.map fun token => trimHeader ("Bearer " ++ token)
  body := some body

/-- What is posted to enrol a member. -/
def enrolment (member : String) : Json := .object [("memberId", .string member)]

/-- What is posted to mint an invite link. -/
def invitation (user pub : String) : Json :=
  .object [("userId", .string user), ("pubId", .string pub)]

/-- Why nothing came back. -/
def noAnswer : Failure := .plain "Failed to reach the form API"

/-- What an answer means; without one the service has not been reached. -/
def answerTo {α : Type} (use : Reply → Except Failure α) : Option Reply → Except Failure α
  | some reply => use reply
  | none => .error noAnswer

/-- What comes of a request, which is left to the client if it can be sent at all. -/
def exchange (api : FormApi) (r : Request) (w : Wire) : Exchange :=
  if api.canSend then api.client.exchange r w else ⟨none, 0, w⟩

/-- Posts a request; `use` says what its answer means. -/
def post {α : Type} (api : FormApi) (form action : String) (body : Json)
    (use : Reply → Except Failure α) (w : Wire) : Pending Wire α :=
  let request := api.request form action body
  let exchange := api.exchange request w
  ⟨exchange.delay, answerTo use exchange.reply, exchange.after, [.posting request.url.write]⟩

/-- An answer that is not one of success. -/
def refusal (r : Reply) (doing : String) : Failure :=
  .plain ("Form API answered HTTP " ++ r.status.text ++ " when " ++ doing ++ ": " ++ r.body)

/-- An answer of success enrols the member, whatever else it says. -/
def useEnrolment (r : Reply) : Except Failure Unit :=
  if r.status.isSuccess then .ok () else .error (refusal r "adding member")

/-- How messages name the list of an invitation. -/
def invitationList : String := "struct InviteResponse with 1 element"

/-- The link in an answer. -/
def decodeInvitation : Decoder String
  | levels, .array items stop =>
    fromRow (fun levels => Row.take 0 invitationList (Decoder.string levels)) levels items stop
  | levels, draft => do
    let url ← Decoder.members "struct InviteResponse"
      (fun levels (found : Option String) key value =>
        if key = "url" then once key found (Decoder.string levels value)
        else do
          value.skip
          return found)
      none levels draft
    required "url" url

/-- An answer of success that holds a link mints it. -/
def useInvitation (r : Reply) : Except Failure String :=
  if r.status.isSuccess then
    match Json.read decodeInvitation r.body with
    | .error e => .error (.wrapped "Form API returned an invalid invite response" (.json e))
    | .ok url =>
      if url.isEmpty then .error (.plain "Form API returned an empty invite URL") else .ok url
  else .error (refusal r "minting invite")

/-- The service over a wire. -/
def service (api : FormApi) : FormService Wire where
  ensureMembership member form := api.post form "members" (enrolment member) useEnrolment
  mintInviteLink user form pub := api.post form "invites" (invitation user pub) useInvitation

end FormApi

end MailMerge
