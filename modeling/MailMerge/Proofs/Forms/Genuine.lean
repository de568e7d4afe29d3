import MailMerge.Proofs.Forms.Sent
import MailMerge.Proofs.Render.Heard
import MailMerge.Proofs.Render.Interleaved

/-!
# Links that are minted over HTTP

Every call posts a request, and is answered by what the HTTP client hands on for it. An enrolment is
served by any reply of success, and minting by a reply of success that holds a link which is not
empty. A rendering succeeds only if all of its calls have been served, and then the target of every
open link has come from the reply to the request of this link.

This holds with any client, for the replies that it hands on. Without a redirection they are the
replies of the server, one for each request, in turn.

## Main definitions

* `Call.answerOf`: how a call is answered by a reply.
* `FormApi.Serves`: a reply serves what a call asks for.
* `FormApi.Genuine`: a link that a recipient has been given after having been enrolled.

## Main results

* `logs_answersTo`: the service over HTTP keeps a log of its answers.
* `genuine_of_ended`: all links of a join that has ended without failure are genuine.
* `render_genuine`: a rendering over HTTP hands out genuine links only.
-/

namespace MailMerge

/-- How a call is answered by what comes back for its request. -/
def Call.answerOf : Call → Option Reply → Answer
  | .ensureMembership _ _, reply => .enrolment (FormApi.answerTo FormApi.useEnrolment reply)
  | .mintInviteLink _ _ _, reply => .minting (FormApi.answerTo FormApi.useInvitation reply)

namespace FormApi

variable {api : FormApi} {w : Wire}

/-! ## A log of the answers -/

/-- The answers to calls whose requests are posted one after the other. -/
def answersTo (api : FormApi) (w : Wire) (calls : List Call) : List Answer :=
  List.zipWith Call.answerOf calls (api.replies w (calls.map api.requestOf))

theorem answersTo_concat (api : FormApi) (w : Wire) (calls : List Call) (call : Call) :
    api.answersTo w (calls ++ [call]) = api.answersTo w calls ++ [call.answerOf
      (api.exchange (api.requestOf call) (api.wireAfter w (calls.map api.requestOf))).reply] := by
  have length : calls.length = (api.replies w (calls.map api.requestOf)).length := by simp
  rw [answersTo, answersTo, List.map_append, List.map_singleton, replies_concat,
    List.zipWith_append length]
  rfl

/-- A call is answered by the reply with its number. -/
theorem getElem?_answersTo {calls : List Call} {i : Nat} {call : Call} {reply : Option Reply}
    (hcall : calls[i]? = some call)
    (hreply : (api.replies w (calls.map api.requestOf))[i]? = some reply) :
    (api.answersTo w calls)[i]? = some (call.answerOf reply) := by
  rw [answersTo, List.getElem?_zipWith, hcall, hreply]

/-- The service over HTTP keeps a log of its answers, as its calls tell them. -/
theorem logs_answersTo (api : FormApi) (w : Wire) :
    Access.service.recording.Logs (fun s => api.answersTo w s.2) (Posted api w) where
  enrolment member form s hs := by
    refine ⟨(keeps_posted api w).enrolment member form s hs, ?_⟩
    obtain ⟨a, calls⟩ := s
    obtain rfl : a = .http api (api.wireAfter w (calls.map api.requestOf)) := hs
    exact answersTo_concat api w calls (.ensureMembership member form)
  minting user form pub s hs := by
    refine ⟨(keeps_posted api w).minting user form pub s hs, ?_⟩
    obtain ⟨a, calls⟩ := s
    obtain rfl : a = .http api (api.wireAfter w (calls.map api.requestOf)) := hs
    exact answersTo_concat api w calls (.mintInviteLink user form pub)

/-! ## Replies that serve -/

/-- A reply enrols a member if it is one of success. -/
def Enrols (reply : Option Reply) : Prop := ∃ r, reply = some r ∧ r.status.isSuccess = true

/-- A reply mints a link if it is one of success and holds this link, which is not empty. -/
def Mints (reply : Option Reply) (url : String) : Prop :=
  ∃ r, reply = some r ∧ r.status.isSuccess = true ∧
    Json.read decodeInvitation r.body = .ok url ∧ url ≠ ""

/-- A reply serves the call that begins with what happens. -/
def Serves (reply : Option Reply) : Happening → Prop
  | .enrolmentStarted _ => Enrols reply
  | .mintingStarted _ _ => ∃ url, Mints reply url
  | _ => True

theorem answerTo_useEnrolment_eq_ok_iff {reply : Option Reply} :
    answerTo useEnrolment reply = .ok () ↔ Enrols reply := by
  cases reply with
  | none => simp [answerTo, Enrols]
  | some r => cases success : r.status.isSuccess <;> simp [answerTo, useEnrolment, Enrols, success]

theorem useInvitation_eq_ok_iff {r : Reply} {url : String} :
    useInvitation r = .ok url ↔
      r.status.isSuccess = true ∧ Json.read decodeInvitation r.body = .ok url ∧ url ≠ "" := by
  rw [useInvitation]
  cases success : r.status.isSuccess with
  | false => simp
  | true =>
    cases read : Json.read decodeInvitation r.body with
    | error e => simp
    | ok found =>
      by_cases empty : found = ""
      · subst empty
        simp
      · simp only [if_true, true_and, Except.ok.injEq]
        rw [if_neg (by simpa using empty), Except.ok.injEq]
        exact ⟨fun eq => ⟨eq, eq ▸ empty⟩, And.left⟩

theorem answerTo_useInvitation_eq_ok_iff {reply : Option Reply} {url : String} :
    answerTo useInvitation reply = .ok url ↔ Mints reply url := by
  cases reply with
  | none => simp [answerTo, Mints]
  | some r => simp [answerTo, Mints, useInvitation_eq_ok_iff]

/-- A call is refused unless its reply serves. -/
theorem refusal?_answerOf_eq_none_iff {e : Event} {call : Call} (h : e.call? = some call)
    (reply : Option Reply) : (call.answerOf reply).refusal? = none ↔ Serves reply e.happening := by
  obtain ⟨link, form, happening⟩ := e
  cases happening with
  | enrolmentEnded _ _ | mintingEnded _ _ _ => cases h
  | enrolmentStarted member =>
    obtain rfl := Option.some.inj h
    rw [Serves, ← answerTo_useEnrolment_eq_ok_iff, Call.answerOf]
    cases answerTo useEnrolment reply <;> simp [Answer.refusal?]
  | mintingStarted user pub =>
    obtain rfl := Option.some.inj h
    simp only [Serves, ← answerTo_useInvitation_eq_ok_iff, Call.answerOf]
    cases answerTo useInvitation reply <;> simp [Answer.refusal?]

/-! ## Genuine links -/

/-- The link with index `k`, which is to `form`, has rightly been given the target `url`. Just the
requests with the numbers `a` and `b` have been posted for this link. The first one has asked the
endpoint for members of the form to enrol the recipient, and has been answered with success. When
this was known, and `b` requests had been posted in all, the second one asked the endpoint for
invites of the form for a link of the recipient to the publication, and the reply, one of success,
holds the target, which is not empty. -/
structure Genuine (api : FormApi) (c : Context) (posted : List Request)
    (replies : List (Option Reply)) (events : List Event) (k : Nat) (form url : String)
    (a b : Nat) : Prop where
  order : a < b
  own : ((Event.calls events).findIdxs fun e => e.link = k) = [a, b]
  enrolment : posted[a]? = some {
    method := "POST"
    url := api.endpoint form "members"
    authorization := api.token.map fun token => trimHeader ("Bearer " ++ token)
    body := some (.object [("memberId", .string c.recipient.id)]) }
  enrolled : ∃ reply, replies[a]? = some (some reply) ∧ reply.status.isSuccess = true
  minting : posted[b]? = some {
    method := "POST"
    url := api.endpoint form "invites"
    authorization := api.token.map fun token => trimHeader ("Bearer " ++ token)
    body := some (.object [("userId", .string c.recipient.user.id), ("pubId", .string c.pub.id)]) }
  minted : ∃ reply, replies[b]? = some (some reply) ∧ reply.status.isSuccess = true ∧
    Json.read decodeInvitation reply.body = .ok url
  filled : url ≠ ""
  waited : ∃ before after,
    events = before ++ ⟨k, form, .mintingStarted c.recipient.user.id c.pub.id⟩ :: after ∧
      (Event.calls before).length = b ∧ ⟨k, form, .enrolmentEnded c.recipient.id true⟩ ∈ before

section Ended

variable {c : Context} {forms : List String} {schedule : List Nat}

/-- In every interleaving over HTTP the log has one answer for each call, and every task holds the
answers to its own calls. -/
theorem heard_follow (api : FormApi) (w : Wire) (c : Context) (forms : List String)
    (schedule : List Nat) :
    ((Join.start forms (Access.http api w)).follow Access.service c schedule).recorded.Heard
      (fun s => api.answersTo w s.2) (Posted api w) := by
  have start : (Join.start forms (Access.http api w)).recorded.Heard
      (fun s => api.answersTo w s.2) (Posted api w) := Join.heard_start forms rfl rfl
  rw [← Join.follow_recorded]
  exact start.follow (logs_answersTo api w) c schedule

theorem sound_recorded {j : Join Access} (sound : j.Sound c forms) : j.recorded.Sound c forms :=
  ⟨sound.ownForm, sound.past, sound.named, sound.ended⟩

theorem length_postedBy (api : FormApi) (events : List Event) :
    (api.postedBy events).length = (Event.calls events).length := by
  rw [postedBy, List.length_map, List.length_filterMap_eq_countP, Event.calls,
    ← List.countP_eq_length_filter]
  exact List.countP_congr fun e _ => by rw [Join.isSome_call?]

/-- A call and the request that it posts have the same number. -/
theorem getElem?_postedBy (api : FormApi) {j : Join Access} {i : Nat} {e : Event} {call : Call}
    (he : j.asked[i]? = some e) (hcall : e.call? = some call) :
    (api.postedBy j.events)[i]? = some (api.requestOf call) := by
  rw [postedBy, List.getElem?_map, Join.getElem?_calls, he, Option.bind_some, hcall]
  rfl

/-- The answer in the log with the number of a call is the one to its reply. -/
theorem answer_of_reply {j : Join Access} {i : Nat} {e : Event} {call : Call}
    {reply : Option Reply} (he : j.asked[i]? = some e) (hcall : e.call? = some call)
    (hreply : (api.replies w (api.postedBy j.events))[i]? = some reply) :
    (api.answersTo w (j.events.filterMap Event.call?))[i]? = some (call.answerOf reply) := by
  refine getElem?_answersTo ?_ hreply
  rw [Join.getElem?_calls, he, Option.bind_some, hcall]

theorem exists_reply (api : FormApi) (w : Wire) {j : Join Access} {i : Nat} {e : Event}
    {call : Call} (he : j.asked[i]? = some e) (hcall : e.call? = some call) :
    ∃ reply, (api.replies w (api.postedBy j.events))[i]? = some reply := by
  have lt := (List.getElem?_eq_some_iff.mp (getElem?_postedBy api he hcall)).1
  rw [← length_replies api w] at lt
  exact ⟨_, List.getElem?_eq_getElem lt⟩

/-- All links of a join that has ended without failure are genuine, and no request has been posted
but the two for each of them. -/
theorem genuine_of_ended (api : FormApi) (w : Wire)
    (ok : ((Join.start forms (Access.http api w)).follow Access.service c schedule).failure = none)
    (done : ((Join.start forms (Access.http api w)).follow Access.service c
      schedule).unfinished = []) :
    let j := (Join.start forms (Access.http api w)).follow Access.service c schedule
    let posted := api.postedBy j.events
    posted.length = 2 * forms.length ∧
      ∀ (k : Nat) (form : String), forms[k]? = some form → ∃ url a b,
        j.tasks[k]? = some ⟨form, .finished url⟩ ∧
          Genuine api c posted (api.replies w posted) j.events k form url a b := by
  intro j posted
  have sound : j.Sound c forms := (Join.sound_start c forms _).follow Access.service schedule
  refine ⟨?_, fun k form hk => ?_⟩
  · have count := (sound.calls_perm ok done).length_eq
    simp only [List.length_append, List.length_map] at count
    simp only [posted, postedBy, List.length_map]
    omega
  obtain ⟨a, b, url, order, own, first, second, enrolled, minted, ht⟩ :=
    (heard_follow api w c forms schedule).finished (sound_recorded sound) ok done hk
  obtain ⟨before, after, eq, number⟩ := exists_split_of_getElem?_filter second
  obtain ⟨reply, first_reply⟩ := exists_reply api w first rfl
  obtain ⟨reply', second_reply⟩ := exists_reply api w second rfl
  -- what the log has for a call is what its reply has been taken for
  have enrols := enrolled.symm.trans (answer_of_reply first rfl first_reply)
  have mints := minted.symm.trans (answer_of_reply second rfl second_reply)
  obtain ⟨r, rfl, success⟩ := answerTo_useEnrolment_eq_ok_iff.mp
    (Answer.enrolment.inj (Option.some.inj enrols)).symm
  obtain ⟨r', rfl, success', read, filled⟩ := answerTo_useInvitation_eq_ok_iff.mp
    (Answer.minting.inj (Option.some.inj mints)).symm
  refine ⟨url, a, b, ht, ?_⟩
  constructor
  case order => exact order
  case own => exact own
  case enrolment => exact getElem?_postedBy api first rfl
  case enrolled => exact ⟨r, first_reply, success⟩
  case minting => exact getElem?_postedBy api second rfl
  case minted => exact ⟨r', second_reply, success', read⟩
  case filled => exact filled
  case waited => exact ⟨before, after, eq, number, sound.enrolled eq rfl⟩

/-- All calls of a join that has ended without failure have been served. -/
theorem serves_of_ended (ok : ((Join.start forms (Access.http api w)).follow Access.service c
      schedule).failure = none)
    (done : ((Join.start forms (Access.http api w)).follow Access.service c
      schedule).unfinished = []) :
    let j := (Join.start forms (Access.http api w)).follow Access.service c schedule
    ∀ (i : Nat) (e : Event) (reply : Option Reply), j.asked[i]? = some e →
      (api.replies w (api.postedBy j.events))[i]? = some reply → Serves reply e.happening := by
  intro j i e reply he hreply
  have sound : j.Sound c forms := (Join.sound_start c forms _).follow Access.service schedule
  obtain ⟨call, hcall⟩ := Join.exists_call?_of_asked he
  refine (refusal?_answerOf_eq_none_iff hcall reply).mp ?_
  exact (heard_follow api w c forms schedule).refusal?_eq_none (sound_recorded sound) ok done
    (answer_of_reply he hcall hreply)

/-- A join that has failed names the form and the operation of a call that has not been served. -/
theorem exists_unserved {e : DirectiveError}
    (failed : ((Join.start forms (Access.http api w)).follow Access.service c
      schedule).failure = some e) :
    let j := (Join.start forms (Access.http api w)).follow Access.service c schedule
    ∃ (i : Nat) (call : Event) (reply : Option Reply) (operation : Operation) (source : Failure),
      j.asked[i]? = some call ∧
      forms[call.link]? = some call.form ∧ call.happening.operation? = some operation ∧
      (api.replies w (api.postedBy j.events))[i]? = some reply ∧
      ¬ Serves reply call.happening ∧ e = .serviceFailure operation call.form source := by
  intro j
  have sound : j.Sound c forms := (Join.sound_start c forms _).follow Access.service schedule
  obtain ⟨i, call, answer, operation, source, asked, asks, answered, refused, rfl⟩ :=
    (heard_follow api w c forms schedule).exists_refusal (sound_recorded sound) failed
  have asked : j.asked[i]? = some call := asked
  obtain ⟨request, hcall⟩ := Join.exists_call?_of_asked asked
  obtain ⟨reply, hreply⟩ := exists_reply api w asked hcall
  refine ⟨i, call, reply, operation, source, asked, ?_, asks, hreply, fun serves => ?_, rfl⟩
  · exact sound.named call (List.mem_of_mem_filter (List.mem_of_getElem? asked))
  · obtain rfl := Option.some.inj (answered.symm.trans (answer_of_reply asked hcall hreply))
    rw [(refusal?_answerOf_eq_none_iff hcall reply).mpr serves] at refused
    cases refused

end Ended

end FormApi

/-- A join hands out the link that each of its tasks has finished with. -/
theorem Join.Sound.getElem?_of_outcome {σ : Type} {c : Context} {forms urls : List String}
    {j : Join σ} (sound : j.Sound c forms) (ok : j.failure = none) (done : j.unfinished = [])
    (outcome : j.outcome = .ok urls) {k : Nat} {form url : String}
    (ht : j.tasks[k]? = some ⟨form, .finished url⟩) : urls[k]? = some url := by
  obtain ⟨urls', outcome', length, answered⟩ := sound.outcome_eq_ok ok done
  obtain rfl : urls = urls' := Except.ok.inj (outcome.symm.trans outcome')
  have lt : k < urls.length := by
    have inside := (List.getElem?_eq_some_iff.mp ht).1
    rwa [length, ← sound.ownForm, List.length_map]
  obtain ⟨t, ht', eq⟩ := answered k urls[k] (List.getElem?_eq_getElem lt)
  obtain rfl := Option.some.inj (ht.symm.trans ht')
  rw [List.getElem?_eq_getElem lt]
  exact eq.symm

namespace Node

open FormApi (Genuine Serves)
open Event (calls)

/-- In every interleaving the wire is what the requests of a rendering have left of it. -/
theorem state_renderBy_http (api : FormApi) (w : Wire) (c : Context) (tree : Node)
    (schedule : List Nat) (settled : tree.SettledBy Access.service c (.http api w) schedule) :
    let out := tree.renderBy (Join.follow Access.service c schedule) c (.http api w)
    out.state = .http api (api.wireAfter w (api.postedBy out.events)) := by
  cases h : (tree.walk c).outcome with
  | error e =>
    -- nothing is requested for a document that cannot be filled in
    rw [renderBy_of_failure _ _ h]
    rfl
  | ok found =>
    obtain ⟨state, events, -⟩ := renderBy_follow Access.service (.http api w) h (settled found h)
    dsimp only
    rw [state, events]
    exact FormApi.state_follow api w c _ schedule

/-- The links that a successful rendering has written are genuine, and no request has been posted
but two for each of them. -/
theorem genuine_of_rendered (api : FormApi) (w : Wire) {c : Context} {tree : Node}
    {schedule : List Nat} (settled : tree.SettledBy Access.service c (.http api w) schedule) :
    let out := tree.renderBy (Join.follow Access.service c schedule) c (.http api w)
    let posted := api.postedBy out.events
    ∀ rendered, out.result = .ok rendered → ∃ found, (tree.walk c).outcome = .ok found ∧
      posted.length = 2 * found.deferred.length ∧
      ∀ (k : Nat) (link : DeferredLink), found.deferred[k]? = some link → ∃ n url a b,
        rendered.tree.at? link.path = some n ∧ n.href? = some url ∧
          Genuine api c posted (api.replies w posted) out.events k link.form url a b := by
  intro out posted rendered success
  cases h : (tree.walk c).outcome with
  | error e =>
    simp only [out, renderBy_of_failure _ _ h] at success
    cases success
  | ok found =>
    have sound := (Join.sound_start c (found.deferred.map DeferredLink.form)
      (Access.http api w)).follow Access.service schedule
    obtain ⟨-, events, ⟨e, -, result⟩ | ⟨ok, done, urls, after, outcome, -, written, result⟩⟩ :=
      renderBy_follow Access.service (.http api w) h (settled found h)
    · cases success.symm.trans result
    obtain rfl := Except.ok.inj (result.symm.trans success)
    obtain ⟨count, genuine⟩ := FormApi.genuine_of_ended api w ok done
    rw [← events, List.length_map] at count
    refine ⟨found, rfl, count, fun k link hlink => ?_⟩
    have hform : (found.deferred.map DeferredLink.form)[k]? = some link.form := by
      rw [List.getElem?_map, hlink]
      rfl
    obtain ⟨url, a, b, ht, genuine⟩ := genuine k link.form hform
    rw [← events] at genuine
    -- what has been written for this link is what its task has finished with
    have hurl : urls[k]? = some url := sound.getElem?_of_outcome ok done outcome ht
    have mem : (link, url) ∈ found.deferred.zip urls :=
      List.mem_of_getElem? (List.getElem?_zip_eq_some.mpr ⟨hlink, hurl⟩)
    obtain ⟨n, m, -, hm, shows⟩ := written.written link url mem
    exact ⟨m, url, a, b, hm, shows.href, genuine⟩

/-- Without a redirection a successful rendering has sent the requests that it has posted. -/
theorem requests_of_rendered {api : FormApi} {w : Wire} {c : Context} {tree : Node}
    {schedule : List Nat} (direct : w.Direct)
    (settled : tree.SettledBy Access.service c (.http api w) schedule) :
    let out := tree.renderBy (Join.follow Access.service c schedule) c (.http api w)
    ∀ rendered, out.result = .ok rendered →
      out.state.requests = w.sent ++ api.postedBy out.events := by
  intro out rendered success
  have state : out.state = .http api (api.wireAfter w (api.postedBy out.events)) :=
    state_renderBy_http api w c tree schedule settled
  by_cases carries : w.Carries api
  · rw [state, FormApi.wireAfter_of_carries direct carries]
    rfl
  · -- nothing is handed on then, so there was no link to mint
    obtain ⟨found, -, count, genuine⟩ := genuine_of_rendered api w settled rendered success
    have no_links : found.deferred = [] := by
      refine List.eq_nil_iff_forall_not_mem.mpr fun link mem => ?_
      obtain ⟨k, hk⟩ := List.getElem?_of_mem mem
      obtain ⟨n, url, a, b, -, -, genuine⟩ := genuine k link hk
      obtain ⟨reply, answered, -⟩ := genuine.enrolled
      rw [FormApi.replies_of_not_carries direct carries] at answered
      cases List.eq_of_mem_replicate (List.mem_of_getElem? answered)
    rw [no_links] at count
    have nothing : api.postedBy out.events = [] := List.eq_nil_of_length_eq_zero count
    rw [state, FormApi.wireAfter_of_not_carries direct carries, nothing]
    exact (List.append_nil _).symm

/-- A rendering with a call that has not been served fails, and names such a call. -/
theorem unserved_of_rendered (api : FormApi) (w : Wire) {c : Context} {tree : Node}
    {schedule : List Nat} (settled : tree.SettledBy Access.service c (.http api w) schedule) :
    let out := tree.renderBy (Join.follow Access.service c schedule) c (.http api w)
    let replies := api.replies w (api.postedBy out.events)
    ∀ (i : Nat) (call : Event) (reply : Option Reply), (calls out.events)[i]? = some call →
      replies[i]? = some reply → ¬ Serves reply call.happening →
      ∃ found link operation source, ∃ (i' : Nat) (call' : Event) (reply' : Option Reply),
        (tree.walk c).outcome = .ok found ∧
        out.result = .error (.serviceFailure operation link.form source) ∧
        (calls out.events)[i']? = some call' ∧ found.deferred[call'.link]? = some link ∧
        call'.happening.operation? = some operation ∧
        replies[i']? = some reply' ∧ ¬ Serves reply' call'.happening := by
  intro out replies i call reply hcall hreply unserved
  cases h : (tree.walk c).outcome with
  | error e =>
    simp only [out, renderBy_of_failure _ _ h] at hcall
    cases hcall
  | ok found =>
    obtain ⟨-, events, ⟨e, failure, result⟩ | ⟨ok, done, -⟩⟩ :=
      renderBy_follow Access.service (.http api w) h (settled found h)
    · -- the failure is the answer to a call that has not been served, which may be another one
      obtain ⟨i', call', reply', operation, source, hcall', named, asked, hreply', unserved',
        rfl⟩ := FormApi.exists_unserved (w := w) failure
      rw [List.getElem?_map] at named
      obtain ⟨link, hlink, form⟩ := Option.map_eq_some_iff.mp named
      rw [← form] at result
      rw [← events] at hreply'
      refine ⟨found, link, operation, source, i', call', reply', rfl, result, ?_, hlink, asked,
        hreply', unserved'⟩
      rw [events]
      exact hcall'
    · -- a join that ends without failure leaves no call unserved
      rw [events] at hcall
      simp only [replies, out, events] at hreply
      exact absurd (FormApi.serves_of_ended ok done i call reply hcall hreply) unserved

end Node

end MailMerge
