import MailMerge.Command.Run
import MailMerge.Proofs.Forms.Genuine
import MailMerge.Proofs.Render.Resolve
import MailMerge.Proofs.Render.Timing

/-!
# A check foretells a rendering

The command `check` fills a document in without a form service, and `render` goes on from there. So
whatever a check complains about, a rendering complains about in the same words, before anything is
requested. What a check accepts can only fail for want of an answer to one of the links that it has
listed, or in writing the result, and with any service whatever the calls are foretold by that list.

## Main definitions

* `Node.callsOf`: the calls that a rendering makes of a service.
* `Node.Foretold`: a rendering that comes out as a check has foretold it.
* `Finish.Reports`: a run that ends with a report.

## Main results

* `foretold_render`: with any service a rendering comes out as foretold.
* `state_render`, `requests_render`: what a rendering over HTTP posts and sends.
* `run_check_foretells_run_render`: what the command `check` says about the command `render`.
-/

namespace MailMerge

variable {σ : Type} {service : FormService σ} {c : Context} {s : σ}

namespace Join

/-- Polling round by round is not disturbed by a record of the calls. -/
theorem run_recorded (service : FormService σ) (c : Context) (j : Join σ) :
    j.recorded.run service.recording c = (j.run service c).recorded := by
  induction j using run.induct service c with
  | case1 j more ih =>
    have round : j.recorded.round service.recording c = (j.round service c).recorded :=
      follow_recorded service c j.unfinished j
    rw [run_of_more more.1 more.2, ← ih, ← round]
    exact run_of_more (j := j.recorded) more.1 more.2
  | case2 j stop =>
    have ended : j.failure ≠ none ∨ j.unfinished = [] := by
      by_contra going
      push Not at going
      exact stop going
    rw [run_of_ended ended]
    exact run_of_ended (j := j.recorded) ended

/-- A join that hands out its links has made the calls for every form, each of them once. -/
theorem calls_run_of_ok (service : FormService σ) (c : Context) {forms : List String} {s : σ}
    {urls : List String} (h : ((start forms s).run service c).outcome = .ok urls) :
    (((start forms s).run service c).events.filterMap Event.call?).Perm
      (forms.map (Call.ensureMembership c.recipient.id) ++
        forms.map fun form => .mintInviteLink c.recipient.user.id form c.pub.id) := by
  obtain ⟨schedule, run, ends⟩ := exists_schedule_run service c (start forms s)
  have ok : ((start forms s).run service c).failure = none := failure_eq_none_of_outcome h
  have done := ends ok
  rw [run] at ok done ⊢
  exact ((sound_start c forms s).follow service schedule).calls_perm ok done

end Join

namespace Node

variable {tree : Node} {found : Found}

/-! ## A rendering with any service -/

/-- The calls that a rendering makes of a service. -/
def callsOf (service : FormService σ) (c : Context) (s : σ) (tree : Node) : List Call :=
  (tree.render service.recording c (s, [])).state.2

/-- A rendering that comes out as a check has foretold it, with the calls that it has made: it fails
only for want of an answer to one of the listed links, and if it succeeds, it has rendered what has
been counted, and has enrolled the recipient and minted a link once for each of the listed links. -/
structure Foretold (c : Context) (found : Found) (s : σ) (out : Outcome σ Rendered)
    (made : List Call) : Prop where
  failure : ∀ e, out.result = .error e → ∃ link ∈ found.deferred, ∃ operation source,
    e = .serviceFailure operation link.form source
  counts : ∀ rendered, out.result = .ok rendered →
    rendered.directives = found.directives ∧ rendered.deferredLinks = found.deferred.length
  calls : ∀ rendered, out.result = .ok rendered →
    made.Perm
      (found.deferred.map (fun link => Call.ensureMembership c.recipient.id link.form) ++
        found.deferred.map fun link =>
          .mintInviteLink c.recipient.user.id link.form c.pub.id)
  idle : found.deferred = [] → made = [] ∧ out.state = s

/-- After the first phase a rendering is decided by the join of the second one. -/
theorem render_of_walk (service : FormService σ) (s : σ) (h : (tree.walk c).outcome = .ok found) :
    let join := (Join.start (found.deferred.map DeferredLink.form) s).run service c
    let out := tree.render service c s
    out.state = join.state ∧ out.events = join.events ∧
      ((∃ link ∈ found.deferred, ∃ operation source,
          out.result = .error (.serviceFailure operation link.form source)) ∨
        ∃ after urls, join.outcome = .ok urls ∧
          out.result = .ok ⟨after, found.directives, found.deferred.length⟩ ∧
          .rendered found.directives found.deferred.length ∈ out.notices) := by
  intro join out
  let resolved := (tree.walk c).result.resolve service c found.deferred s
  obtain ⟨state, events⟩ : resolved.outcome.state = join.state ∧
      resolved.outcome.events = join.events :=
    state_resolveBy (Join.run_start_nil service c s) found.deferred (tree.walk c).result
  rcases resolve_cases service c s (nodup_deferred h) (isSome_at?_deferred h) with
    ⟨operation, form, source, outcome, result, -⟩ | ⟨urls, -, outcome, result, -⟩
  · -- the failed request is one for a listed link
    rcases Join.outcome_run service c (found.deferred.map DeferredLink.form) s with
      ⟨operation', form', source', named, outcome'⟩ | ⟨urls, -, outcome', -⟩
    · cases outcome.symm.trans outcome'
      obtain ⟨link, mem, rfl⟩ := List.mem_map.mp named
      have eq : out = ⟨.error (.serviceFailure operation link.form source), resolved.outcome.state,
          resolved.outcome.events, (tree.walk c).notices ++ resolved.outcome.notices⟩ := by
        simp only [out, render, h, result, resolved]
      rw [eq]
      exact ⟨state, events, .inl ⟨link, mem, operation, source, rfl⟩⟩
    · cases outcome.symm.trans outcome'
  · have eq : out = ⟨.ok ⟨resolved.tree, found.directives, found.deferred.length⟩,
        resolved.outcome.state, resolved.outcome.events,
        (tree.walk c).notices ++ resolved.outcome.notices ++
          [.rendered found.directives found.deferred.length]⟩ := by
      simp only [out, render, h, result, resolved]
    rw [eq]
    exact ⟨state, events, .inr ⟨resolved.tree, urls, outcome, rfl, by simp⟩⟩

/-- The calls that a rendering makes are told by its events. -/
theorem callsOf_eq (service : FormService σ) (s : σ) (h : (tree.walk c).outcome = .ok found) :
    tree.callsOf service c s = (tree.render service c s).events.filterMap Event.call? := by
  obtain ⟨recorded, -⟩ := render_of_walk service.recording (s, []) h
  obtain ⟨-, events, -⟩ := render_of_walk service s h
  rw [callsOf, recorded, events]
  have run := Join.run_recorded service c (Join.start (found.deferred.map DeferredLink.form) s)
  rw [show (Join.start (found.deferred.map DeferredLink.form) s).recorded =
    Join.start (found.deferred.map DeferredLink.form) (s, []) from rfl] at run
  rw [run]
  rfl

/-- With any service a rendering comes out as a check has foretold it. -/
theorem foretold_render (service : FormService σ) (s : σ) (h : (tree.walk c).outcome = .ok found) :
    Foretold c found s (tree.render service c s) (tree.callsOf service c s) := by
  have told := callsOf_eq service s h
  obtain ⟨state, events, cases⟩ := render_of_walk service s h
  constructor
  case failure =>
    intro e error
    rcases cases with ⟨link, mem, operation, source, result⟩ | ⟨after, urls, -, result, -⟩
    · cases error.symm.trans result
      exact ⟨link, mem, operation, source, rfl⟩
    · cases error.symm.trans result
  case counts =>
    intro rendered ok
    rcases cases with ⟨link, -, operation, source, result⟩ | ⟨after, urls, -, result, -⟩
    · cases ok.symm.trans result
    · cases ok.symm.trans result
      exact ⟨rfl, rfl⟩
  case calls =>
    intro rendered ok
    rcases cases with ⟨link, -, operation, source, result⟩ | ⟨after, urls, outcome, -⟩
    · cases ok.symm.trans result
    · have perm := Join.calls_run_of_ok service c outcome
      rw [List.map_map, List.map_map] at perm
      rw [told, events]
      exact perm
  case idle =>
    intro none
    rw [told, state, events, none, List.map_nil, Join.run_start_nil]
    exact ⟨rfl, rfl⟩

/-- A rendering over HTTP is an interleaving that leaves nothing to do, and posts the requests of its
calls. -/
theorem exists_schedule_posted (api : FormApi) (w : Wire) (h : (tree.walk c).outcome = .ok found) :
    ∃ schedule, tree.SettledBy Access.service c (.http api w) schedule ∧
      tree.render Access.service c (.http api w) =
        tree.renderBy (Join.follow Access.service c schedule) c (.http api w) ∧
      (tree.callsOf Access.service c (.http api w)).map api.requestOf =
        api.postedBy
          (tree.renderBy (Join.follow Access.service c schedule) c (.http api w)).events := by
  obtain ⟨schedule, settled, rendering⟩ :=
    exists_schedule_render Access.service c (.http api w) tree
  refine ⟨schedule, settled, rendering, ?_⟩
  rw [callsOf_eq Access.service _ h, rendering]
  rfl

/-- What a rendering over HTTP leaves of the wire is what the requests of its calls have left of
it. -/
theorem state_render (api : FormApi) (w : Wire) (h : (tree.walk c).outcome = .ok found) :
    (tree.render Access.service c (.http api w)).state =
      .http api (api.wireAfter w ((tree.callsOf Access.service c (.http api w)).map
        api.requestOf)) := by
  obtain ⟨schedule, settled, rendering, posted⟩ := exists_schedule_posted api w h
  rw [posted, rendering]
  exact state_renderBy_http api w c tree schedule settled

/-- A rendering over HTTP that succeeds without being redirected has sent the requests of its calls
and nothing else. -/
theorem requests_render {api : FormApi} {w : Wire} {rendered : Rendered} (direct : w.Direct)
    (h : (tree.walk c).outcome = .ok found)
    (ok : (tree.render Access.service c (.http api w)).result = .ok rendered) :
    (tree.render Access.service c (.http api w)).state.requests =
      w.sent ++ (tree.callsOf Access.service c (.http api w)).map api.requestOf := by
  obtain ⟨schedule, settled, rendering, posted⟩ := exists_schedule_posted api w h
  rw [rendering] at ok
  rw [posted, rendering]
  exact requests_of_rendered direct settled rendered ok

end Node

/-! ## The two commands -/

/-- A run that ends with a report: nothing is printed, and the report is all that is said. -/
structure Finish.Reports (finish : Finish) (report : Report) : Prop where
  exitCode : finish.exitCode = 1
  stdout : finish.stdout = ""
  stderr : finish.stderr = report.lines

namespace Effect

variable {effect : Effect}

theorem reports_finish {f : Failure} (h : effect.result = .error f) :
    effect.finish.Reports (.ofFailure f) := by
  rw [finish, h]
  exact ⟨rfl, rfl, rfl⟩

theorem finish_of_ok {text : String} (h : effect.result = .ok text) :
    effect.finish.exitCode = 0 ∧ effect.finish.stdout = text := by
  rw [finish, h]
  exact ⟨rfl, rfl⟩

@[simp] theorem disk_finish (effect : Effect) : effect.finish.disk = effect.disk := by
  rw [finish]
  split <;> rfl

@[simp] theorem requests_finish (effect : Effect) : effect.finish.requests = effect.requests := by
  rw [finish]
  split <;> rfl

@[simp] theorem notices_finish (effect : Effect) : effect.finish.notices = effect.notices := by
  rw [finish]
  split <;> rfl

end Effect

namespace Machine

variable {m : Machine} {words : List String} {i : Invocation} {tree context : String}
  {output : Option String} {pretty : Bool} {access : Access} {notices : List Notice}

theorem run_eq_finish (parsed : Invocation.parse words = .ok i) :
    m.run words = (m.execute i).finish := by
  rw [run, parsed]

/-- A check fails for its inputs or for a directive of the document; otherwise it says what it has
found. -/
theorem check_cases (m : Machine) (tree context : String) :
    (∃ f, m.inputs tree context = .error f ∧ (m.check tree context).result = .error f) ∨
    ∃ document c, m.inputs tree context = .ok (document, c) ∧
      ((∃ e, (document.walk c).outcome = .error e ∧
        (m.check tree context).result = .error (.directive e)) ∨
      ∃ found, (document.walk c).outcome = .ok found ∧
        (m.check tree context).result = .ok (summary found ++ "\n")) := by
  rw [check]
  cases inputs : m.inputs tree context with
  | error f => exact .inl ⟨f, rfl, rfl⟩
  | ok given =>
    obtain ⟨document, c⟩ := given
    refine .inr ⟨document, c, rfl, ?_⟩
    dsimp only
    cases outcome : (document.walk c).outcome with
    | error e => exact .inl ⟨e, rfl, rfl⟩
    | ok found => exact .inr ⟨found, rfl, rfl⟩

/-- A rendering that is ready to begin fails for its inputs as a check does. -/
theorem render_of_inputs_error {config : Option String} {f : Failure}
    (ready : m.preparation config = .ok (access, notices))
    (h : m.inputs tree context = .error f) :
    (m.render config tree context output pretty).result = .error f ∧
      (m.render config tree context output pretty).requests = [] := by
  rw [render, ready]
  dsimp only
  rw [h]
  exact ⟨rfl, rfl⟩

theorem render_of_inputs_ok {config : Option String} {document : Node} {c : Context}
    (ready : m.preparation config = .ok (access, notices))
    (h : m.inputs tree context = .ok (document, c)) :
    m.render config tree context output pretty =
      m.renderWith access notices document c output pretty := by
  rw [render, ready]
  dsimp only
  rw [h]

/-- What has been requested has been requested in rendering the document. -/
theorem requests_renderWith (m : Machine) (access : Access) (notices : List Notice)
    (document : Node) (c : Context) (output : Option String) (pretty : Bool) :
    (m.renderWith access notices document c output pretty).requests =
      (document.render Access.service c access).state.requests := by
  unfold renderWith
  dsimp only
  split
  · rfl
  · unfold deliver
    split
    · rfl
    · split <;> rfl

/-- A rendering that fails is reported. -/
theorem result_renderWith_of_error {document : Node} {c : Context} {e : DirectiveError}
    (h : (document.render Access.service c access).result = .error e) :
    (m.renderWith access notices document c output pretty).result = .error (.directive e) := by
  rw [renderWith, h]

/-- A rendering that succeeds is delivered; only writing it can still fail. -/
theorem renderWith_of_ok (m : Machine) (notices : List Notice) (output : Option String)
    (pretty : Bool) {document : Node} {c : Context} {rendered : Rendered}
    (h : (document.render Access.service c access).result = .ok rendered) :
    (∀ notice ∈ (document.render Access.service c access).notices,
        notice ∈ (m.renderWith access notices document c output pretty).notices) ∧
      ((∃ path fault, output = some path ∧
        m.disk.write path (documentText pretty rendered.tree) = .error fault ∧
        (m.renderWith access notices document c output pretty).result =
          .error (.wrapped ("Failed to write rendered tree to " ++ path) fault.failure)) ∨
      ∃ text, (m.renderWith access notices document c output pretty).result = .ok text) := by
  rw [renderWith, h]
  dsimp only
  cases output with
  | none => exact ⟨fun notice mem => List.mem_append_right _ mem, .inr ⟨_, rfl⟩⟩
  | some path =>
    rw [deliver]
    split
    · rename_i fault failed
      exact ⟨fun notice mem => List.mem_append_right _ mem, .inl ⟨path, fault, rfl, failed, rfl⟩⟩
    · exact ⟨fun notice mem => by simp [mem], .inr ⟨_, rfl⟩⟩

/-- The way to the service that a rendering has is the one of the machine. -/
theorem access_of_preparation {config : Option String}
    (ready : m.preparation config = .ok (access, notices)) :
    access = .unconfigured ∨ ∃ api, access = .http api m.wire := by
  obtain ⟨configuration, -, ready⟩ := bind_eq_ok_iff.mp ready
  obtain ⟨access', found, ready⟩ := bind_eq_ok_iff.mp ready
  cases ready
  rw [Machine.access] at found
  split at found
  · cases found
    exact .inl rfl
  · obtain ⟨api, -, found⟩ := bind_eq_ok_iff.mp found
    cases found
    exact .inr ⟨api, rfl⟩

/-- Nothing has been sent before the first call. -/
theorem requests_of_preparation {config : Option String} (fresh : m.wire.sent = [])
    (ready : m.preparation config = .ok (access, notices)) : access.requests = [] := by
  rcases access_of_preparation ready with rfl | ⟨api, rfl⟩
  · rfl
  · exact fresh

/-- What a check complains about, a rendering that is ready to begin complains about as well, and
nothing is sent then. -/
theorem render_of_check_error (output : Option String) (pretty : Bool) {config : Option String}
    {f : Failure} (fresh : m.wire.sent = []) (ready : m.preparation config = .ok (access, notices))
    (h : (m.check tree context).result = .error f) :
    (m.render config tree context output pretty).result = .error f ∧
      (m.render config tree context output pretty).requests = [] := by
  rcases check_cases m tree context with
    ⟨f', inputs, result⟩ | ⟨document, c, inputs, ⟨e, outcome, result⟩ | ⟨found, -, result⟩⟩
  · -- both commands read the same files in the same order
    cases h.symm.trans result
    exact render_of_inputs_error ready inputs
  · -- both commands fill the same document in, and nothing has been requested by then
    cases h.symm.trans result
    have failed := Node.render_of_failure Access.service c access outcome
    rw [render_of_inputs_ok ready inputs, requests_renderWith, failed]
    refine ⟨result_renderWith_of_error ?_, requests_of_preparation fresh ready⟩
    rw [failed]
  · cases h.symm.trans result

/-- How a rendering ends after a check that has found `found`: in the report of a failed request for
a listed link, or with everything rendered that has been counted, everything posted that is needed
for the listed links, and perhaps a report that the result cannot be written. What is posted is what
is sent, unless the HTTP client is redirected. -/
def EndsAs (m : Machine) (access : Access) (document : Node) (c : Context) (output : Option String)
    (pretty : Bool) (found : Found) (finish : Finish) : Prop :=
  (∃ link ∈ found.deferred, ∃ operation source,
    finish.Reports (.ofDirectiveError (.serviceFailure operation link.form source))) ∨
  ∃ rendered, (document.render Access.service c access).result = .ok rendered ∧
    rendered.directives = found.directives ∧ rendered.deferredLinks = found.deferred.length ∧
    .rendered found.directives found.deferred.length ∈ finish.notices ∧
    (∀ api, access = .http api m.wire → ∃ posted : List Request,
      posted.Perm
        ((found.deferred.map fun link =>
            api.request link.form "members" (FormApi.enrolment c.recipient.id)) ++
          found.deferred.map fun link =>
            api.request link.form "invites" (FormApi.invitation c.recipient.user.id c.pub.id)) ∧
      finish.requests = (api.wireAfter m.wire posted).sent ∧
      (m.wire.Direct → finish.requests = posted)) ∧
    ((∃ path fault, output = some path ∧
      m.disk.write path (documentText pretty rendered.tree) = .error fault ∧
      finish.Reports (.ofFailure
        (.wrapped ("Failed to write rendered tree to " ++ path) fault.failure))) ∨
    finish.exitCode = 0)

/-- What a check accepts can only fail for want of an answer to a listed link, or in writing. -/
theorem endsAs_renderWith {document : Node} {c : Context} {found : Found}
    (fresh : m.wire.sent = []) (outcome : (document.walk c).outcome = .ok found) :
    m.EndsAs access document c output pretty found
      (m.renderWith access notices document c output pretty).finish := by
  have foretold := Node.foretold_render Access.service access outcome
  obtain ⟨-, -, cases⟩ := Node.render_of_walk Access.service access outcome
  rcases cases with ⟨link, mem, operation, source, failed⟩ | ⟨after, urls, -, ok, noticed⟩
  · exact .inl ⟨link, mem, operation, source,
      Effect.reports_finish (result_renderWith_of_error failed)⟩
  · obtain ⟨kept, delivered⟩ := renderWith_of_ok m notices output pretty ok
    refine .inr ⟨_, ok, rfl, rfl, ?_, ?_, ?_⟩
    · rw [Effect.notices_finish]
      exact kept _ noticed
    · rintro api rfl
      have posted := (foretold.calls _ ok).map api.requestOf
      rw [List.map_append, List.map_map, List.map_map] at posted
      refine ⟨_, posted, ?_, fun direct => ?_⟩
      · rw [Effect.requests_finish, requests_renderWith, Node.state_render api m.wire outcome]
        rfl
      · rw [Effect.requests_finish, requests_renderWith, Node.requests_render direct outcome ok,
          fresh]
        rfl
    · rcases delivered with ⟨path, fault, named, failed, result⟩ | ⟨text, result⟩
      · exact .inl ⟨path, fault, named, failed, Effect.reports_finish result⟩
      · exact .inr (Effect.finish_of_ok result).1

/-- **A check foretells a rendering.** If `check` complains about its files, `render` complains
about them in the same words, as soon as it has its configuration, and without sending anything. If
`check` accepts them, `render` can only fail because a request for one of the listed links has
failed, or in writing what has been rendered. What it has rendered are the directives and links that
have been counted, and what it has posted are an enrolment and an invitation for each of the listed
links and nothing else. Without listed links nothing is sent at all. With whatever service the calls
are made, they are the ones that have been foretold. -/
theorem run_check_foretells_run_render {checking rendering : List String} {i j : Invocation}
    (fresh : m.wire.sent = []) (parsed : Invocation.parse checking = .ok i)
    (asked : i.command = .check tree context) (parsed' : Invocation.parse rendering = .ok j)
    (asked' : j.command = .render tree context output pretty)
    (ready : m.preparation j.config = .ok (access, notices)) :
    ((m.run checking).exitCode = 1 → ∃ report,
      (m.run checking).Reports report ∧ (m.run rendering).Reports report ∧
        (m.run rendering).requests = []) ∧
    ((m.run checking).exitCode = 0 → ∃ document c found,
      m.inputs tree context = .ok (document, c) ∧ (document.walk c).outcome = .ok found ∧
        (m.run checking).stdout = summary found ++ "\n" ∧
        m.EndsAs access document c output pretty found (m.run rendering) ∧
        (found.deferred = [] → (m.run rendering).requests = []) ∧
        ∀ {σ : Type} (service : FormService σ) (s : σ),
          Node.Foretold c found s (document.render service c s)
            (document.callsOf service c s)) := by
  rw [run_eq_finish parsed, run_eq_finish parsed', execute, execute, asked, asked']
  dsimp only
  cases result : (m.check tree context).result with
  | error f =>
    have reports := Effect.reports_finish result
    obtain ⟨result', requests⟩ := render_of_check_error output pretty fresh ready result
    refine ⟨fun _ => ⟨_, reports, Effect.reports_finish result', ?_⟩, fun zero => ?_⟩
    · rw [Effect.requests_finish, requests]
    · cases zero.symm.trans reports.exitCode
  | ok text =>
    obtain ⟨exitCode, stdout⟩ := Effect.finish_of_ok result
    refine ⟨fun one => ?_, fun _ => ?_⟩
    · cases exitCode.symm.trans one
    · rcases check_cases m tree context with
        ⟨f, -, failed⟩ | ⟨document, c, inputs, ⟨e, -, failed⟩ | ⟨found, outcome, said⟩⟩
      · cases result.symm.trans failed
      · cases result.symm.trans failed
      · cases result.symm.trans said
        rw [render_of_inputs_ok ready inputs]
        refine ⟨document, c, found, inputs, outcome, stdout, endsAs_renderWith fresh outcome,
          fun none => ?_, fun service s => Node.foretold_render service s outcome⟩
        have idle := (Node.foretold_render Access.service access outcome).idle none
        rw [Effect.requests_finish, requests_renderWith, idle.2]
        exact requests_of_preparation fresh ready

/-- A desk with a letter that holds a link to a form, and with a form service that answers
nothing. -/
def desk : Machine where
  disk := {
    directories := []
    files := [
      (["letter.json"], "\x7b\"type\":\"root\",\"children\":[\x7b\"type\":\"textDirective\"," ++
        "\"name\":\"link\",\"attributes\":\x7b\"form\":\"review\"\x7d\x7d]\x7d"),
      (["ada.json"], "\x7b\"recipient\":\x7b\"id\":\"m\",\"user\":\x7b\"id\":\"u\"," ++
        "\"firstName\":\"Ada\",\"email\":\"ada@x\"\x7d\x7d,\"communitySlug\":\"c\"," ++
        "\"pub\":\x7b\"id\":\"p\"\x7d\x7d"),
      (["config.toml"], "[forms]\napi_url = \"http://[::1]\"\n")]
    refusals := []
    here := [] }
  environment := .empty
  accountHome := some "/root"
  client := .ok .plain
  wire := .ofReplies []

theorem run_check_foretells_run_render_desk :
    let files := ["--tree", "letter.json", "--context", "ada.json"]
    let missing := ["--tree", "missing.json", "--context", "ada.json"]
    (desk.run ("check" :: files)).exitCode = 0 ∧
      (∃ document c, desk.inputs "letter.json" "ada.json" = .ok (document, c) ∧
        Node.Foretold c ⟨1, [⟨[0], "review"⟩]⟩ () (document.render (.unconfigured Unit) c ())
          (document.callsOf (.unconfigured Unit) c ())) ∧
      ∃ report, (desk.run ("check" :: missing)).Reports report ∧
        (desk.run ("render" :: "--config" :: "config.toml" :: missing)).Reports report := by
  intro files missing
  obtain ⟨⟨access, notices⟩, ready⟩ :
      ∃ prepared, desk.preparation (some "config.toml") = .ok prepared := by
    have ready : (desk.preparation (some "config.toml")).toOption.isSome = true := by
      decide +kernel
    match prepared : desk.preparation (some "config.toml") with
    | .error f => simp [prepared, Except.toOption] at ready
    | .ok given => exact ⟨given, rfl⟩
  have accepted : (desk.run ("check" :: files)).exitCode = 0 := by decide +kernel
  have refused : (desk.run ("check" :: missing)).exitCode = 1 := by decide +kernel
  have counted : ((desk.inputs "letter.json" "ada.json").toOption.map fun given =>
      (given.1.walk given.2).outcome.toOption) = some (some ⟨1, [⟨[0], "review"⟩]⟩) := by
    decide +kernel
  obtain ⟨-, foretold⟩ := run_check_foretells_run_render (m := desk) rfl
    (show Invocation.parse ("check" :: files) = .ok _ from rfl) rfl
    (show Invocation.parse ("render" :: "--config" :: "config.toml" :: files) = .ok _ from rfl)
    rfl ready
  obtain ⟨reported, -⟩ := run_check_foretells_run_render (m := desk) rfl
    (show Invocation.parse ("check" :: missing) = .ok _ from rfl) rfl
    (show Invocation.parse ("render" :: "--config" :: "config.toml" :: missing) = .ok _ from rfl)
    rfl ready
  obtain ⟨document, c, found, inputs, outcome, -, -, -, calls⟩ := foretold accepted
  obtain ⟨report, check, render, -⟩ := reported refused
  rw [inputs] at counted
  simp only [Except.toOption, outcome, Option.map_some, Option.some.injEq] at counted
  rw [counted] at calls
  exact ⟨accepted, ⟨document, c, inputs, calls _ _⟩, report, check, render⟩

end Machine

end MailMerge
