import MailMerge.Context.Sample
import MailMerge.Forms.Rehearsal
import MailMerge.Proofs.Render.Histories

/-!
# What the form service is asked

The events of a join are told by the join itself. A service that keeps a record of its calls tells
them from the other side: its record holds the calls that the events name, in the same order, with
the ids and forms that the events name. So what is known about the histories of the links is known
about the requests that reach the service, whatever the service is.

## Main definitions

* `Call`: a call of the service.
* `Context.calls`: the calls that the link to a form needs.
* `Event.call?`: the call that an event begins.
* `FormService.recording`: a service that keeps a record of its calls.

## Main results

* `follow_recorded`: keeping a record changes nothing else, and the events tell the calls.
* `calls_perm`: a join without failure makes the calls of every link, each of them once.
* `resolution_discipline`: which calls are made, and in which order.
-/

namespace MailMerge

/-- A call of the form service. -/
inductive Call where
  | ensureMembership (member form : String)
  | mintInviteLink (user form pub : String)
deriving DecidableEq, Repr

/-- The calls that the link to a form needs, in order. -/
def Context.calls (c : Context) (form : String) : List Call :=
  [.ensureMembership c.recipient.id form, .mintInviteLink c.recipient.user.id form c.pub.id]

/-- The call that begins with what happens to the link to a form. -/
def Happening.call? (form : String) : Happening → Option Call
  | .enrolmentStarted member => some (.ensureMembership member form)
  | .mintingStarted user pub => some (.mintInviteLink user form pub)
  | _ => none

/-- The call that an event begins. -/
def Event.call? (e : Event) : Option Call :=
  e.happening.call? e.form

/-- A service that keeps a record of its calls. -/
def FormService.recording {σ : Type} (service : FormService σ) : FormService (σ × List Call) where
  ensureMembership member form s :=
    let request := service.ensureMembership member form s.1
    { request with state := (request.state, s.2 ++ [.ensureMembership member form]) }
  mintInviteLink user form pub s :=
    let request := service.mintInviteLink user form pub s.1
    { request with state := (request.state, s.2 ++ [.mintInviteLink user form pub]) }

/-! ## The record of a service -/

section Recorded

variable {σ : Type} (service : FormService σ) (c : Context)

/-- A polled task with a record of the calls that have been made for it. -/
def Polled.recorded (form : String) (calls : List Call) (p : Polled σ) : Polled (σ × List Call) :=
  { p with state := (p.state, calls ++ p.events.filterMap (Happening.call? form)) }

/-- A join with a record of the calls that have been made. -/
def Join.recorded (j : Join σ) : Join (σ × List Call) :=
  { j with state := (j.state, j.events.filterMap Event.call?) }

theorem mint_recorded (form : String) (s : σ) (calls : List Call)
    (answer : Except Failure String) (left : Nat) :
    Polled.mint c form (s, calls) answer left =
      (Polled.mint c form s answer left).recorded form calls := by
  cases left with
  | succ left => simp [Polled.mint, Polled.recorded]
  | zero => cases answer <;> simp [Polled.mint, Polled.recorded, Happening.call?]

theorem after_recorded (form : String) (calls : List Call) (events : List Happening)
    (notices : List Notice) (p : Polled σ) :
    (p.recorded form (calls ++ events.filterMap (Happening.call? form))).after events notices =
      (p.after events notices).recorded form calls := by
  simp [Polled.after, Polled.recorded]

theorem startMint_recorded (form : String) (s : σ) (calls : List Call) :
    Polled.startMint service.recording c form (s, calls) =
      (Polled.startMint service c form s).recorded form calls := by
  rw [Polled.startMint, Polled.startMint, ← after_recorded, ← mint_recorded]
  rfl

theorem enrol_recorded (form : String) (s : σ) (calls : List Call)
    (answer : Except Failure Unit) (left : Nat) :
    Polled.enrol service.recording c form (s, calls) answer left =
      (Polled.enrol service c form s answer left).recorded form calls := by
  cases left with
  | succ left => simp [Polled.enrol, Polled.recorded]
  | zero =>
    cases answer with
    | ok _ =>
      -- that the enrolment has ended is no call
      have same := after_recorded form calls [.enrolmentEnded c.recipient.id true] []
        (Polled.startMint service c form s)
      rw [show [Happening.enrolmentEnded c.recipient.id true].filterMap (Happening.call? form) = []
        from rfl, List.append_nil, ← startMint_recorded] at same
      exact same
    | error failure => simp [Polled.enrol, Polled.recorded, Happening.call?]

theorem startEnrol_recorded (form : String) (s : σ) (calls : List Call) :
    Polled.startEnrol service.recording c form (s, calls) =
      (Polled.startEnrol service c form s).recorded form calls := by
  rw [Polled.startEnrol, Polled.startEnrol, ← after_recorded, ← enrol_recorded]
  rfl

theorem poll_recorded (t : Task) (s : σ) (calls : List Call) :
    t.poll service.recording c (s, calls) = (t.poll service c s).recorded t.form calls := by
  obtain ⟨form, stage⟩ := t
  cases stage with
  | waiting => exact startEnrol_recorded service c form s calls
  | enrolling left answer => exact enrol_recorded service c form s calls answer left
  | minting left answer => exact mint_recorded c form s calls answer left
  | finished url => simp [Task.poll, Polled.recorded]
  | failed e => simp [Task.poll, Polled.recorded]

namespace Join

theorem record_recorded (j : Join σ) (i : Nat) (t : Task) (p : Polled σ) :
    j.recorded.record i t (p.recorded t.form (j.events.filterMap Event.call?)) =
      (j.record i t p).recorded := by
  simp [record, recorded, Polled.recorded, List.filterMap_map, Function.comp_def, Event.call?]

/-- Keeping a record changes nothing else, and the events tell the calls. -/
theorem follow_recorded (schedule : List Nat) (j : Join σ) :
    j.recorded.follow service.recording c schedule = (j.follow service c schedule).recorded := by
  induction schedule generalizing j with
  | nil => rfl
  | cons i schedule ih =>
    -- whether a poll does anything does not depend on the service
    have step : j.recorded.poll service.recording c i = (j.poll service c i).recorded := by
      by_cases ok : j.failure = none
      · cases ht : j.tasks[i]? with
        | none =>
          rw [poll_of_getElem?_eq_none service c ht]
          exact poll_of_getElem?_eq_none service.recording c (j := j.recorded) ht
        | some t =>
          cases isOver : t.stage.isOver with
          | true =>
            rw [poll_of_isOver service c ht isOver]
            exact poll_of_isOver service.recording c (j := j.recorded) ht isOver
          | false =>
            rw [poll_of_unfinished service c ok ht isOver, ← record_recorded, ← poll_recorded]
            exact poll_of_unfinished service.recording c (j := j.recorded) ok ht isOver
      · rw [poll_of_failure service c ok]
        exact poll_of_failure service.recording c (j := j.recorded) ok i
    rw [follow, List.foldl_cons, step]
    exact ih _

end Join

end Recorded

/-! ## Which calls are made -/

namespace Stage.Past

variable {c : Context} {form : String} {stage : Stage} {past : List Happening}

/-- The calls that have been made for a link are a beginning of those that it needs. -/
theorem isPrefix_calls (h : stage.Past c form past) :
    past.filterMap (Happening.call? form) <+: c.calls form := by
  cases h with
  | waiting => exact List.nil_prefix
  | enrolling _ _ | notEnrolled _ => exact ⟨[_], rfl⟩
  | minting _ _ | finished _ | notMinted _ => exact List.prefix_rfl

/-- A link is minted for a recipient who has been enrolled. -/
theorem enrolled (h : stage.Past c form past) {before after : List Happening} {user pub : String}
    (eq : past = before ++ .mintingStarted user pub :: after) :
    .enrolmentEnded c.recipient.id true ∈ before := by
  -- minting is neither the first nor the second thing that happens
  rcases before with _ | ⟨x, _ | ⟨y, before⟩⟩
  · cases h <;> simp [Context.course] at eq
  · cases h <;> simp [Context.course] at eq
  · cases h <;> simp [Context.course] at eq <;> simp [eq]

end Stage.Past

/-- A list falls into the parts that a numbering of its elements makes. -/
theorem filter_lt_perm {α : Type} (f : α → Nat) (l : List α) (n : Nat) :
    (l.filter fun a => f a < n).Perm ((List.range n).flatMap fun k => l.filter fun a => f a = k) := by
  induction n with
  | zero => simp
  | succ n ih =>
    -- what has a number below `n + 1` has one below `n`, or `n` itself
    have split := List.filter_append_perm (fun a => f a < n) (l.filter fun a => f a < n + 1)
    have lower : ((l.filter fun a => f a < n + 1).filter fun a => f a < n) =
        l.filter fun a => f a < n := by
      rw [List.filter_filter]
      apply List.filter_congr
      intro a _
      rw [← Bool.decide_and, decide_eq_decide]
      omega
    have upper : ((l.filter fun a => f a < n + 1).filter fun a => !decide (f a < n)) =
        l.filter fun a => f a = n := by
      rw [List.filter_filter]
      apply List.filter_congr
      intro a _
      rw [← decide_not, ← Bool.decide_and, decide_eq_decide]
      omega
    rw [lower, upper] at split
    rw [List.range_succ, List.flatMap_append, List.flatMap_singleton]
    exact split.symm.trans (ih.append_right _)

namespace Join

variable {σ : Type} {c : Context} {forms : List String} {j : Join σ}

/-- The calls for a link are told by what has happened to it. -/
theorem Sound.calls_eq (h : j.Sound c forms) {k : Nat} {form : String}
    (hk : forms[k]? = some form) :
    (j.events.filter fun e => e.link = k).filterMap Event.call? =
      (j.eventsOf k).filterMap (Happening.call? form) := by
  rw [eventsOf, List.filterMap_map]
  apply List.filterMap_congr
  intro e he
  obtain ⟨he, link⟩ := List.mem_filter.mp he
  have named := h.named e he
  rw [of_decide_eq_true link, hk] at named
  rw [Event.call?, Function.comp_apply, Option.some.inj named]

theorem Sound.exists_task (h : j.Sound c forms) {k : Nat} {form : String}
    (hk : forms[k]? = some form) : ∃ t, j.tasks[k]? = some t := by
  rw [← h.ownForm, List.getElem?_map] at hk
  obtain ⟨t, ht, -⟩ := Option.map_eq_some_iff.mp hk
  exact ⟨t, ht⟩

/-- When a join has ended without failure, every link has gone its whole course. -/
theorem Sound.eventsOf_eq (h : j.Sound c forms) (ok : j.failure = none)
    (done : j.unfinished = []) {k : Nat} {t : Task} (ht : j.tasks[k]? = some t) :
    j.eventsOf k = c.course :=
  (h.past k t ht).eq_course_iff.mpr (exists_finished_of_ended ok done t (List.mem_of_getElem? ht))

/-- A join without failure makes the calls of every link, each of them once. -/
theorem Sound.calls_perm (h : j.Sound c forms) (ok : j.failure = none)
    (done : j.unfinished = []) :
    (j.events.filterMap Event.call?).Perm
      (forms.map (Call.ensureMembership c.recipient.id) ++
        forms.map fun form => .mintInviteLink c.recipient.user.id form c.pub.id) := by
  have all : (j.events.filter fun e => e.link < forms.length) = j.events := by
    apply List.filter_eq_self.mpr
    intro e he
    obtain ⟨lt, -⟩ := List.getElem?_eq_some_iff.mp (h.named e he)
    exact decide_eq_true lt
  have parts := filter_lt_perm Event.link j.events forms.length
  rw [all] at parts
  -- sorted by links, the calls are those of whole courses
  have each : ((List.range forms.length).flatMap fun k =>
      (j.events.filter fun e => e.link = k).filterMap Event.call?) = forms.flatMap c.calls := by
    rw [List.flatMap_def, List.flatMap_def]
    refine congrArg List.flatten (List.ext_getElem (by simp) fun k hk hk' => ?_)
    have lt : k < forms.length := by simpa using hk
    have form : forms[k]? = some forms[k] := List.getElem?_eq_getElem lt
    obtain ⟨t, ht⟩ := h.exists_task form
    rw [List.getElem_map, List.getElem_map, List.getElem_range, h.calls_eq form,
      h.eventsOf_eq ok done ht]
    rfl
  have course := List.map_append_flatMap_perm forms (Call.ensureMembership c.recipient.id)
    fun form => [.mintInviteLink c.recipient.user.id form c.pub.id]
  rw [← List.map_eq_flatMap] at course
  have calls := parts.filterMap Event.call?
  rw [List.filterMap_flatMap, each] at calls
  exact calls.trans course.symm

/-- A failure is the last event of its link. -/
theorem Sound.ne_of_isFailure (h : j.Sound c forms) {before after : List Event} {e : Event}
    (eq : j.events = before ++ e :: after) (bad : e.happening.isFailure = true) :
    ∀ e' ∈ after, e'.link ≠ e.link := by
  obtain ⟨t, ht, -⟩ := h.exists_task_of_mem (e := e) (by rw [eq]; simp)
  have events : j.eventsOf e.link =
      (before.filter fun e' => e'.link = e.link).map Event.happening ++ e.happening ::
        (after.filter fun e' => e'.link = e.link).map Event.happening := by
    rw [eventsOf, eq, List.filter_append, List.filter_cons_of_pos (by simp), List.map_append,
      List.map_cons]
  obtain ⟨last, -⟩ := (h.past e.link t ht).of_isFailure events bad
  intro e' he' link
  rw [List.map_eq_nil_iff, List.filter_eq_nil_iff] at last
  exact last e' he' (decide_eq_true link)

/-- Among a few links a failure is the last event of all. -/
theorem Sound.eq_nil_of_isFailure (h : j.Sound c forms) (atMost : forms.length ≤ few)
    {before after : List Event} {e : Event} (eq : j.events = before ++ e :: after)
    (bad : e.happening.isFailure = true) : after = [] := by
  have failed : j.failure ≠ none := by
    intro ok
    have none := error?_eq_none (by rwa [h.length_tasks]) ok
    rw [h.not_isFailure none e (by rw [eq]; simp)] at bad
    cases bad
  obtain ⟨before', last, eq', -, good⟩ := h.ended atMost failed
  rcases List.eq_nil_or_concat after with nil | ⟨after, x, concat⟩
  · exact nil
  · -- anything after it would put the failure among the events that are none
    rw [eq, concat, List.concat_eq_append, ← List.cons_append, ← List.append_assoc] at eq'
    obtain ⟨rfl, -⟩ := List.append_inj' eq' rfl
    rw [good e (by simp)] at bad
    cases bad

/-- What a failure of the join tells: which link has failed, and, if the links are many, that all
links before it have gone their whole course. -/
theorem Sound.failed_link (h : j.Sound c forms) {e : DirectiveError} (failed : j.failure = some e) :
    ∃ k form operation source, forms[k]? = some form ∧
      e = .serviceFailure operation form source ∧
      (∃ x ∈ j.eventsOf k, x.isFailure = true) ∧
      (few < forms.length → ∀ k' < k, j.eventsOf k' = c.course) := by
  obtain ⟨k, ⟨form, stage⟩, ht, rfl, before⟩ := exists_failed_of_failure failed
  obtain ⟨⟨operation, source, eq⟩, _, last, past, bad, -⟩ := (h.past k _ ht).of_failed
  refine ⟨k, form, operation, source, ?_, eq, ⟨last, by rw [past]; simp, bad⟩, fun many k' lt => ?_⟩
  · rw [← h.ownForm, List.getElem?_map, ht]
    rfl
  · obtain ⟨t', url, ht', minted⟩ := before (by rwa [h.length_tasks]) k' lt
    exact (h.past k' t' ht').eq_course_iff.mpr ⟨url, minted⟩

/-- A link that has failed ends everything, one of many only if all links before it have gone their
whole course. -/
theorem Sound.failure_ne_none (h : j.Sound c forms) {k : Nat} {x : Happening}
    (mem : x ∈ j.eventsOf k) (bad : x.isFailure = true)
    (before : few < forms.length → ∀ k' < k, j.eventsOf k' = c.course) : j.failure ≠ none := by
  obtain ⟨e, he, rfl, rfl⟩ := mem_eventsOf.mp mem
  obtain ⟨t, ht, -⟩ := h.exists_task_of_mem he
  obtain ⟨front, back, past⟩ := List.append_of_mem mem
  obtain ⟨-, error, stage⟩ := (h.past e.link t ht).of_isFailure past bad
  refine Join.failure_ne_none ht stage fun many k' lt => ?_
  have lt' : k' < j.tasks.length := lt.trans (List.getElem?_eq_some_iff.mp ht).1
  have here : j.tasks[k']? = some j.tasks[k'] := List.getElem?_eq_getElem lt'
  obtain ⟨url, minted⟩ := (h.past k' _ here).eq_course_iff.mp
    (before (by rwa [← h.length_tasks]) k' lt)
  exact ⟨_, url, here, minted⟩

/-- Before a link is minted, the recipient has been enrolled for this very link. -/
theorem Sound.enrolled (h : j.Sound c forms) {before after : List Event} {e : Event}
    {user pub : String} (eq : j.events = before ++ e :: after)
    (minting : e.happening = .mintingStarted user pub) :
    ⟨e.link, e.form, .enrolmentEnded c.recipient.id true⟩ ∈ before := by
  have own : forms[e.link]? = some e.form := h.named e (by rw [eq]; simp)
  obtain ⟨t, ht⟩ := h.exists_task own
  have past := h.past e.link t ht
  have events : j.eventsOf e.link =
      (before.filter fun e' => e'.link = e.link).map Event.happening ++
        .mintingStarted user pub ::
          (after.filter fun e' => e'.link = e.link).map Event.happening := by
    rw [eventsOf, eq, List.filter_append, List.filter_cons_of_pos (by simp), List.map_append,
      List.map_cons, minting]
  -- the enrolment is an earlier event of the same link, hence one for the same form
  obtain ⟨e', he', ended⟩ := List.mem_map.mp (past.enrolled events)
  obtain ⟨mem, link⟩ := List.mem_filter.mp he'
  have named : forms[e'.link]? = some e'.form := h.named e' (by rw [eq]; simp [mem])
  rw [of_decide_eq_true link, own] at named
  obtain ⟨link', form', happening'⟩ := e'
  simp only [decide_eq_true_eq, Option.some.injEq] at link named ended
  rw [named, ← link, ← ended]
  exact mem

theorem Sound.begun (h : j.Sound c forms) (k : Nat) : c.Begun (j.eventsOf k) := by
  cases ht : j.tasks[k]? with
  | some t => exact (h.past k t ht).begun
  | none =>
    -- no event is about a link that there is not
    have none : j.eventsOf k = [] := by
      rw [eventsOf, List.map_eq_nil_iff, List.filter_eq_nil_iff]
      intro e he link
      have named := h.named e he
      rw [of_decide_eq_true link, ← h.ownForm, List.getElem?_map, ht] at named
      cases named
    rw [none]
    exact .inl List.nil_prefix

/-- **Which calls are made, and in which order**, in every interleaving of the tasks and so in the
rounds of a run: for each link a beginning of its own course, so that minting waits for the link's
own enrolment and no call is made twice, and with the ids of the context. Without a failure the
calls for all links are made, once each.

A failure ends its own link at once. Among a few links nothing happens after it at all. Many links
end with the failure of one of them just when all links before it have gone their whole course;
until then the others go on. -/
theorem resolution_discipline (service : FormService σ) (c : Context) (forms : List String)
    (s : σ) :
    (∃ schedule, (start forms s).run service c = (start forms s).follow service c schedule ∧
      (((start forms s).run service c).failure = none →
        ((start forms s).run service c).unfinished = [])) ∧
    ∀ schedule,
      let j := (start forms s).follow service c schedule
      let calls := j.events.filterMap Event.call?
      (start forms (s, [])).follow service.recording c schedule =
        { j with state := (j.state, calls) } ∧
      (∀ k, c.Begun (j.eventsOf k)) ∧
      (∀ e ∈ j.events, forms[e.link]? = some e.form) ∧
      (∀ k form, forms[k]? = some form →
        (j.events.filter fun e => e.link = k).filterMap Event.call? <+: c.calls form) ∧
      (∀ before e after user pub, j.events = before ++ e :: after →
        e.happening = .mintingStarted user pub →
          ⟨e.link, e.form, .enrolmentEnded c.recipient.id true⟩ ∈ before) ∧
      (j.failure = none → j.unfinished = [] →
        calls.Perm (forms.map (Call.ensureMembership c.recipient.id) ++
          forms.map fun form => .mintInviteLink c.recipient.user.id form c.pub.id)) ∧
      (∀ before e after, j.events = before ++ e :: after → e.happening.isFailure = true →
        (∀ e' ∈ after, e'.link ≠ e.link) ∧ (forms.length ≤ few → after = [])) ∧
      (∀ e, j.failure = some e → ∃ k form operation source, forms[k]? = some form ∧
        e = .serviceFailure operation form source ∧ (∃ x ∈ j.eventsOf k, x.isFailure = true) ∧
        (few < forms.length → ∀ k' < k, j.eventsOf k' = c.course)) ∧
      (∀ k, (∃ x ∈ j.eventsOf k, x.isFailure = true) →
        (few < forms.length → ∀ k' < k, j.eventsOf k' = c.course) → j.failure ≠ none) ∧
      (j.failure ≠ none → ∀ more, j.follow service c more = j) := by
  refine ⟨exists_schedule_run service c _, fun schedule => ?_⟩
  have sound : ((start forms s).follow service c schedule).Sound c forms :=
    (sound_start c forms s).follow service schedule
  refine ⟨follow_recorded service c schedule (start forms s), sound.begun, sound.named,
    fun k form hk => ?_, fun before e after user pub eq minting => sound.enrolled eq minting,
    sound.calls_perm, fun before e after eq bad => ?_, fun e failed => sound.failed_link failed,
    ?_, follow_of_failure service c⟩
  · obtain ⟨t, ht⟩ := sound.exists_task hk
    have own : forms[k]? = some t.form := by rw [← sound.ownForm, List.getElem?_map, ht]; rfl
    obtain rfl := Option.some.inj (hk.symm.trans own)
    rw [sound.calls_eq hk]
    exact (sound.past k t ht).isPrefix_calls
  · exact ⟨sound.ne_of_isFailure eq bad, fun atMost => sound.eq_nil_of_isFailure atMost eq bad⟩
  · rintro k ⟨x, mem, bad⟩ before
    exact sound.failure_ne_none mem bad before

/-- A service that needs one more poll to enrol anyone in the menu, and refuses every rsvp. -/
def slowMenu : FormService Unit :=
  Rehearsal.service
    { Rehearsal.plain with
      failingMemberships := ["rsvp"], enrolmentDelays := Dict.empty.insert "menu" 1 } Unit

/-- Two links in turns: the second one overtakes the first one, which is not ready. A third one then
fails, and that is the end of all three. -/
theorem resolution_discipline_menu :
    let j := (start ["menu", "review"] ()).follow slowMenu .sample [0, 1, 0]
    let failed := (start ["menu", "rsvp"] ()).follow slowMenu .sample [0, 1, 0]
    j.failure = none ∧ j.unfinished = [] ∧
      j.events.filterMap Event.call? =
        [.ensureMembership "member-ada" "menu", .ensureMembership "member-ada" "review",
          .mintInviteLink "user-ada" "review" "pub-1", .mintInviteLink "user-ada" "menu" "pub-1"] ∧
      (j.events.filterMap Event.call?).Perm
        [.ensureMembership "member-ada" "menu", .ensureMembership "member-ada" "review",
          .mintInviteLink "user-ada" "menu" "pub-1",
          .mintInviteLink "user-ada" "review" "pub-1"] ∧
      failed.failure ≠ none ∧ failed.follow slowMenu .sample [0] = failed := by
  obtain ⟨-, discipline⟩ := resolution_discipline slowMenu .sample ["menu", "review"] ()
  obtain ⟨-, refused⟩ := resolution_discipline slowMenu .sample ["menu", "rsvp"] ()
  obtain ⟨-, -, -, -, -, all, -⟩ := discipline [0, 1, 0]
  obtain ⟨-, -, -, -, -, -, -, -, ends, idle⟩ := refused [0, 1, 0]
  have failed := ends 1 ⟨.enrolmentEnded "member-ada" false, by decide, rfl⟩ (by decide)
  exact ⟨rfl, by decide, rfl, all rfl (by decide), failed, idle failed [0]⟩

/-- More than a few links: the first one is slow, the second one is refused. -/
def manyForms : List String := "menu" :: "rsvp" :: List.replicate 29 "review"

set_option maxRecDepth 4000 in
/-- **The other links are not dropped where they stand** when one of many fails: the first link is
not ready when the second one fails, so that all the others, and then the first one, are resolved
before the failure ends the join. -/
theorem not_dropped :
    let j := (start manyForms ()).run slowMenu .sample
    j.failure = some (.serviceFailure .ensureMembership "rsvp"
        (.plain "form 'rsvp' does not exist")) ∧
      ∃ before after,
        j.events = before ++ ⟨1, "rsvp", .enrolmentEnded "member-ada" false⟩ :: after ∧
        (∀ k < 31, k ≠ 1 →
          ⟨k, manyForms.getD k "", .mintingEnded "user-ada" "pub-1" true⟩ ∈ after) := by
  have run : (start manyForms ()).run slowMenu .sample =
      ((start manyForms ()).round slowMenu .sample).round slowMenu .sample := by
    rw [Join.run, if_pos (by decide +kernel), Join.run, if_pos (by decide +kernel), Join.run,
      if_neg (by decide +kernel)]
  intro j
  have events : j.events =
      j.events.take 2 ++ ⟨1, "rsvp", .enrolmentEnded "member-ada" false⟩ :: j.events.drop 3 := by
    simp only [j, run]
    decide +kernel
  refine ⟨?_, _, _, events, ?_⟩
  · simp only [j, run]
    rfl
  · simp only [j, run]
    decide +kernel

end Join

end MailMerge
