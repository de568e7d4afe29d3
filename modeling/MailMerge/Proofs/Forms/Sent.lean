import MailMerge.Forms.Access
import MailMerge.Proofs.Render.Calls

/-!
# What goes over the wire

Every call of the form service posts one request, so the calls that a join has made tell what the
HTTP client has been asked for, and the client alone makes of it what it makes. As long as no reply
redirects the client, the requests that are sent are those that have been posted, and each of them
takes the next reply. If nothing can be sent at all, then nothing comes back for any of them.

## Main definitions

* `FormService.Keeps`: properties of its state that a service keeps.
* `FormApi.requestOf`: the request that a call posts.
* `FormApi.wireAfter`, `FormApi.replies`: what comes of requests that are posted in turn.
* `Wire.Carries`: requests can be sent.

## Main results

* `Keeps.follow`: what every call keeps is kept in every interleaving.
* `state_follow`: the wire is what the requests of the calls have left of it.
* `wireAfter_of_carries`, `replies_of_carries`: without a redirection each request takes one reply.
-/

namespace MailMerge

variable {σ : Type} {service : FormService σ} {c : Context}

/-! ## Properties of the state of a service -/

/-- A property of the state of a service that no call destroys. -/
structure FormService.Keeps (service : FormService σ) (P : σ → Prop) : Prop where
  enrolment : ∀ member form s, P s → P (service.ensureMembership member form s).state
  minting : ∀ user form pub s, P s → P (service.mintInviteLink user form pub s).state

namespace FormService.Keeps

variable {P : σ → Prop}

theorem mint (c : Context) (form : String) {s : σ} (hs : P s) (answer : Except Failure String)
    (left : Nat) : P (Polled.mint c form s answer left).state := by
  cases left with
  | succ left => exact hs
  | zero => cases answer <;> exact hs

theorem startMint (h : service.Keeps P) (c : Context) (form : String) {s : σ} (hs : P s) :
    P (Polled.startMint service c form s).state :=
  mint c form (h.minting _ form _ s hs) _ _

theorem enrol (h : service.Keeps P) (c : Context) (form : String) {s : σ} (hs : P s)
    (answer : Except Failure Unit) (left : Nat) :
    P (Polled.enrol service c form s answer left).state := by
  cases left with
  | succ left => exact hs
  | zero =>
    cases answer with
    | error failure => exact hs
    | ok _ => exact h.startMint c form hs

/-- One poll of one task makes at most the two calls. -/
theorem poll (h : service.Keeps P) (c : Context) (t : Task) {s : σ} (hs : P s) :
    P (t.poll service c s).state := by
  obtain ⟨form, stage⟩ := t
  cases stage with
  | waiting => exact h.enrol c form (h.enrolment _ form s hs) _ _
  | enrolling left answer => exact h.enrol c form hs answer left
  | minting left answer => exact mint c form hs answer left
  | finished url => exact hs
  | failed => exact hs

/-- What every call keeps is kept in every interleaving. -/
theorem follow (h : service.Keeps P) (c : Context) (schedule : List Nat) {j : Join σ}
    (hj : P j.state) : P (j.follow service c schedule).state := by
  -- a poll that does nothing leaves the state, and any other is one poll of one task
  induction schedule generalizing j with
  | nil => exact hj
  | cons i schedule ih =>
    refine ih (j := j.poll service c i) ?_
    rcases Join.poll_cases service c j i with same | ⟨t, -, -, -, polled⟩
    · rw [same]
      exact hj
    · rw [polled]
      exact h.poll c t hj

/-- The calls that have been made go along with a property of state and calls together. -/
theorem follow_recording {P : σ × List Call → Prop} (h : service.recording.Keeps P) (c : Context)
    (forms : List String) (s : σ) (schedule : List Nat) (hs : P (s, [])) :
    P (((Join.start forms s).follow service c schedule).state,
      ((Join.start forms s).follow service c schedule).events.filterMap Event.call?) := by
  have kept := h.follow c schedule (j := (Join.start forms s).recorded) hs
  rw [Join.follow_recorded] at kept
  exact kept

end FormService.Keeps

/-! ## Requests over HTTP -/

/-- The request that a call posts. -/
def FormApi.requestOf (api : FormApi) : Call → Request
  | .ensureMembership member form => api.request form "members" (enrolment member)
  | .mintInviteLink user form pub => api.request form "invites" (invitation user pub)

/-- The requests that the calls of some events post. -/
def FormApi.postedBy (api : FormApi) (events : List Event) : List Request :=
  (events.filterMap Event.call?).map api.requestOf

/-- Requests can be sent: their parts are allowed, and the server can be reached. -/
def Wire.Carries (api : FormApi) (w : Wire) : Prop := api.canSend = true ∧ w.reachable = true

namespace FormApi

variable {api : FormApi} {w : Wire} {r : Request}

/-- The wire after requests that have been posted one after the other. -/
def wireAfter (api : FormApi) (w : Wire) (requests : List Request) : Wire :=
  requests.foldl (fun w r => (api.exchange r w).after) w

/-- What has come back for requests that have been posted one after the other. -/
def replies (api : FormApi) (w : Wire) : List Request → List (Option Reply)
  | [] => []
  | r :: requests => (api.exchange r w).reply :: replies api (api.exchange r w).after requests

theorem wireAfter_cons (api : FormApi) (w : Wire) (r : Request) (requests : List Request) :
    api.wireAfter w (r :: requests) = api.wireAfter (api.exchange r w).after requests := rfl

theorem wireAfter_concat (api : FormApi) (w : Wire) (requests : List Request) (r : Request) :
    api.wireAfter w (requests ++ [r]) = (api.exchange r (api.wireAfter w requests)).after := by
  rw [wireAfter, List.foldl_append]
  rfl

theorem replies_concat (api : FormApi) (w : Wire) (requests : List Request) (r : Request) :
    api.replies w (requests ++ [r]) =
      api.replies w requests ++ [(api.exchange r (api.wireAfter w requests)).reply] := by
  induction requests generalizing w with
  | nil => rfl
  | cons first requests ih => exact congrArg (_ :: ·) (ih _)

@[simp] theorem length_replies (api : FormApi) (w : Wire) (requests : List Request) :
    (api.replies w requests).length = requests.length := by
  induction requests generalizing w with
  | nil => rfl
  | cons r requests ih => exact congrArg Nat.succ (ih _)

/-! ### The requests of calls -/

/-- A service over HTTP whose wire is what the calls that have been made have left of `w`. -/
def Posted (api : FormApi) (w : Wire) (s : Access × List Call) : Prop :=
  s.1 = .http api (api.wireAfter w (s.2.map api.requestOf))

/-- One more call posts its request. -/
theorem posted_concat (api : FormApi) (w : Wire) (calls : List Call) (call : Call) :
    Posted api w
      (.http api (api.exchange (api.requestOf call)
        (api.wireAfter w (calls.map api.requestOf))).after, calls ++ [call]) := by
  rw [Posted, List.map_append, List.map_singleton, wireAfter_concat]

theorem keeps_posted (api : FormApi) (w : Wire) :
    Access.service.recording.Keeps (Posted api w) where
  enrolment member form s hs := by
    obtain ⟨a, calls⟩ := s
    obtain rfl : a = .http api (api.wireAfter w (calls.map api.requestOf)) := hs
    exact posted_concat api w calls (.ensureMembership member form)
  minting user form pub s hs := by
    obtain ⟨a, calls⟩ := s
    obtain rfl : a = .http api (api.wireAfter w (calls.map api.requestOf)) := hs
    exact posted_concat api w calls (.mintInviteLink user form pub)

/-- In every interleaving the wire is what the requests of the calls have left of it. -/
theorem state_follow (api : FormApi) (w : Wire) (c : Context) (forms : List String)
    (schedule : List Nat) :
    let j := (Join.start forms (Access.http api w)).follow Access.service c schedule
    j.state = .http api (api.wireAfter w (api.postedBy j.events)) :=
  (keeps_posted api w).follow_recording c forms (.http api w) schedule rfl

/-! ### Wires without redirections -/

/-- Without a redirection a request that can be sent is sent, and takes the next reply. -/
theorem exchange_of_carries (direct : w.Direct) (h : w.Carries api) (r : Request) :
    api.exchange r w = ⟨w.replies.head?, w.lags.headD 0,
      ⟨true, w.replies.tail, w.lags.tail, w.sent ++ [r]⟩⟩ := by
  obtain ⟨canSend, reachable⟩ := h
  rw [exchange, if_pos canSend,
    api.client.exchange_eq_send r w fun _ next => direct _ (List.mem_of_head? next), Wire.send,
    if_pos reachable]

/-- Where nothing can be sent, nothing changes, and nothing comes back. -/
theorem exchange_of_not_carries (direct : w.Direct) (h : ¬ w.Carries api) (r : Request) :
    (api.exchange r w).reply = none ∧ (api.exchange r w).after = w := by
  rw [exchange]
  by_cases canSend : api.canSend = true
  · have reachable : ¬ w.reachable = true := fun reachable => h ⟨canSend, reachable⟩
    rw [if_pos canSend,
      api.client.exchange_eq_send r w fun _ next => direct _ (List.mem_of_head? next), Wire.send,
      if_neg reachable]
    exact ⟨rfl, rfl⟩
  · rw [if_neg canSend]
    exact ⟨rfl, rfl⟩

/-- Without a redirection the requests that have been posted have been sent, and have taken one
reply each. -/
theorem wireAfter_of_carries (direct : w.Direct) (h : w.Carries api) (requests : List Request) :
    api.wireAfter w requests = ⟨true, w.replies.drop requests.length,
      w.lags.drop requests.length, w.sent ++ requests⟩ := by
  induction requests generalizing w with
  | nil =>
    obtain ⟨reachable, replies, lags, sent⟩ := w
    obtain rfl : reachable = true := h.2
    simp [wireAfter]
  | cons r requests ih =>
    rw [wireAfter_cons, exchange_of_carries direct h]
    rw [ih (fun r mem => direct r (List.mem_of_mem_tail mem)) ⟨h.1, rfl⟩]
    simp

theorem replies_of_carries (direct : w.Direct) (h : w.Carries api) {requests : List Request}
    {i : Nat} (hi : i < requests.length) : (api.replies w requests)[i]? = some w.replies[i]? := by
  induction requests generalizing w i with
  | nil => cases hi
  | cons r requests ih =>
    rw [replies, exchange_of_carries direct h]
    cases i with
    | zero => rw [List.getElem?_cons_zero, List.head?_eq_getElem?]
    | succ i =>
      have later := ih (w := ⟨true, w.replies.tail, w.lags.tail, w.sent ++ [r]⟩)
        (fun r mem => direct r (List.mem_of_mem_tail mem)) ⟨h.1, rfl⟩ (Nat.lt_of_succ_lt_succ hi)
      rw [List.getElem?_cons_succ, later, List.getElem?_tail]

theorem wireAfter_of_not_carries (direct : w.Direct) (h : ¬ w.Carries api)
    (requests : List Request) : api.wireAfter w requests = w := by
  induction requests with
  | nil => rfl
  | cons r requests ih => rw [wireAfter_cons, (exchange_of_not_carries direct h r).2, ih]

theorem replies_of_not_carries (direct : w.Direct) (h : ¬ w.Carries api)
    (requests : List Request) : api.replies w requests = List.replicate requests.length none := by
  induction requests with
  | nil => rfl
  | cons r requests ih =>
    obtain ⟨reply, after⟩ := exchange_of_not_carries direct h r
    rw [replies, reply, after, ih]
    rfl

end FormApi

end MailMerge
