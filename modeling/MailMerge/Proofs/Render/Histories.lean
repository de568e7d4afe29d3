import Mathlib
import MailMerge.Render.Join

/-!
# The history of a link

However the tasks of a join are interleaved, and whatever the service answers and how long it
takes, what has happened to a link is determined by the stage of its task: the recipient is
enrolled before a link is minted, no request is made twice, and a failure is the end of the link.
It is the end of the whole join if the links are few, or if all links before the failed one have
been minted.

## Main definitions

* `Context.course`: what happens to a link until it is resolved.
* `Stage.Past`: what has happened to a link at each stage.
* `Join.eventsOf`: what has happened to one link.
* `Join.Sound`: the invariant of all joins.

## Main results

* `exists_failed_of_failure`, `failure_ne_none`: the task that has ended everything.
* `exists_finished_of_ended`: a join that has ended without failure has minted all links.
* `Stage.Past.poll`: a poll continues the history of its link.
* `Sound.follow`: the invariant is kept in every interleaving.
* `follow_of_failure`: nothing happens once a failure has ended everything.
* `exists_schedule_run`: polling round by round is one of the interleavings.
-/

namespace MailMerge

/-- What happens to a link until it is resolved. -/
def Context.course (c : Context) : List Happening :=
  [.enrolmentStarted c.recipient.id, .enrolmentEnded c.recipient.id true,
    .mintingStarted c.recipient.user.id c.pub.id, .mintingEnded c.recipient.user.id c.pub.id true]

/-- A beginning of the course of a link, or one that the failure of a request has ended. -/
def Context.Begun (c : Context) (past : List Happening) : Prop :=
  past <+: c.course ∨
    past = [.enrolmentStarted c.recipient.id, .enrolmentEnded c.recipient.id false] ∨
    past = [.enrolmentStarted c.recipient.id, .enrolmentEnded c.recipient.id true,
      .mintingStarted c.recipient.user.id c.pub.id,
      .mintingEnded c.recipient.user.id c.pub.id false]

/-- Whether a request has failed. -/
def Happening.isFailure : Happening → Bool
  | .enrolmentEnded _ success | .mintingEnded _ _ success => !success
  | _ => false

/-- What has happened to the link to a form whose task is at a stage. A failure is that of a request
for this form. -/
inductive Stage.Past (c : Context) (form : String) : Stage → List Happening → Prop
  | waiting : Past c form .waiting []
  | enrolling (left : Nat) (answer : Except Failure Unit) :
    Past c form (.enrolling left answer) [.enrolmentStarted c.recipient.id]
  | minting (left : Nat) (answer : Except Failure String) :
    Past c form (.minting left answer)
      [.enrolmentStarted c.recipient.id, .enrolmentEnded c.recipient.id true,
        .mintingStarted c.recipient.user.id c.pub.id]
  | finished (url : String) : Past c form (.finished url) c.course
  | notEnrolled (source : Failure) :
    Past c form (.failed (.serviceFailure .ensureMembership form source))
      [.enrolmentStarted c.recipient.id, .enrolmentEnded c.recipient.id false]
  | notMinted (source : Failure) :
    Past c form (.failed (.serviceFailure .mintInviteLink form source))
      [.enrolmentStarted c.recipient.id, .enrolmentEnded c.recipient.id true,
        .mintingStarted c.recipient.user.id c.pub.id,
        .mintingEnded c.recipient.user.id c.pub.id false]

/-! ## The failure that ends everything -/

namespace Stage

variable {stage : Stage}

theorem error?_eq_some_iff {e : DirectiveError} : stage.error? = some e ↔ stage = .failed e := by
  cases stage <;> simp [error?]

end Stage

namespace Join

variable {σ : Type} {j : Join σ}

theorem failure_of_few (h : j.tasks.length ≤ few) : j.failure = anyError j.tasks := if_pos h

theorem failure_of_many (h : few < j.tasks.length) : j.failure = orderedError j.tasks :=
  if_neg (Nat.not_le.mpr h)

theorem anyError_eq_none_iff {ts : List Task} :
    anyError ts = none ↔ ∀ t ∈ ts, t.stage.error? = none :=
  List.findSome?_eq_none_iff

/-- As long as no task has failed there is no failure. -/
theorem failure_eq_none (h : ∀ t ∈ j.tasks, t.stage.error? = none) : j.failure = none := by
  rw [failure]
  split
  · exact anyError_eq_none_iff.mpr h
  · exact Option.bind_eq_none_iff.mpr fun t found => h t (List.mem_of_find?_eq_some found)

/-- Among a few tasks there is no failure only if no task has failed. -/
theorem error?_eq_none (h : j.tasks.length ≤ few) (ok : j.failure = none) :
    ∀ t ∈ j.tasks, t.stage.error? = none :=
  anyError_eq_none_iff.mp ((failure_of_few h).symm.trans ok)

/-- The task that has ended everything: it has failed, and if it is one of many, all tasks before it
have minted their links. -/
theorem exists_failed_of_failure {e : DirectiveError} (failed : j.failure = some e) :
    ∃ (k : Nat) (t : Task), j.tasks[k]? = some t ∧ t.stage = .failed e ∧
      (few < j.tasks.length → ∀ k' < k, ∃ t' url, j.tasks[k']? = some t' ∧
        t'.stage = .finished url) := by
  rcases Nat.lt_or_ge few j.tasks.length with many | atMost
  · rw [failure_of_many many] at failed
    obtain ⟨t, found, error⟩ := Option.bind_eq_some_iff.mp failed
    obtain ⟨-, k, lt, eq, before⟩ := List.find?_eq_some_iff_getElem.mp found
    refine ⟨k, t, List.getElem?_eq_some_iff.mpr ⟨lt, eq⟩, Stage.error?_eq_some_iff.mp error, ?_⟩
    intro _ k' lt'
    have minted : j.tasks[k'].stage.url?.isNone = false := by simpa using before k' lt'
    obtain ⟨url, hurl⟩ := Option.isSome_iff_exists.mp (Option.isNone_eq_false_iff.mp minted)
    refine ⟨j.tasks[k'], url, List.getElem?_eq_getElem _, ?_⟩
    generalize j.tasks[k'].stage = stage at hurl ⊢
    cases stage <;> simp_all [Stage.url?]
  · rw [failure_of_few atMost] at failed
    obtain ⟨t, mem, error⟩ := List.exists_of_findSome?_eq_some failed
    obtain ⟨k, hk⟩ := List.getElem?_of_mem mem
    exact ⟨k, t, hk, Stage.error?_eq_some_iff.mp error, fun many => by omega⟩

/-- The failure of the first task of all ends everything. -/
theorem failure_of_head {t : Task} {ts : List Task} {e : DirectiveError}
    (tasks : j.tasks = t :: ts) (stage : t.stage = .failed e) : j.failure = some e := by
  rw [failure, tasks]
  split
  · rw [anyError, List.findSome?_cons, stage]
    rfl
  · rw [orderedError, List.find?_cons, stage]
    simp only [Stage.url?, Option.isNone_none, Option.bind_some]
    rw [stage]
    rfl

/-- A join that hands out its links has not failed. -/
theorem failure_eq_none_of_outcome {urls : List String} (h : j.outcome = .ok urls) :
    j.failure = none := by
  rw [outcome] at h
  split at h
  · cases h
  · assumption

theorem failure_of_outcome {e : DirectiveError} (h : j.outcome = .error e) :
    j.failure = some e := by
  rw [outcome] at h
  split at h
  · rwa [← Except.error.inj h]
  · cases h

/-- A failed task ends everything, one of many only if all tasks before it have minted their
links. -/
theorem failure_ne_none {k : Nat} {t : Task} {e : DirectiveError} (ht : j.tasks[k]? = some t)
    (stage : t.stage = .failed e)
    (before : few < j.tasks.length → ∀ k' < k, ∃ t' url, j.tasks[k']? = some t' ∧
      t'.stage = .finished url) : j.failure ≠ none := by
  have error : t.stage.error? = some e := Stage.error?_eq_some_iff.mpr stage
  rcases Nat.lt_or_ge few j.tasks.length with many | atMost
  · obtain ⟨lt, here⟩ := List.getElem?_eq_some_iff.mp ht
    have found : (j.tasks.find? fun t => t.stage.url?.isNone) = some t := by
      refine List.find?_eq_some_iff_getElem.mpr ⟨by rw [stage]; rfl, k, lt, here, ?_⟩
      intro k' lt'
      obtain ⟨t', url, ht', minted⟩ := before many k' lt'
      rw [(List.getElem?_eq_some_iff.mp ht').2, minted]
      rfl
    rw [failure_of_many many, orderedError, found, Option.bind_some, error]
    exact nofun
  · rw [failure_of_few atMost]
    intro ok
    rw [anyError_eq_none_iff.mp ok t (List.mem_of_getElem? ht)] at error
    cases error

theorem isOver_of_unfinished (done : j.unfinished = []) {k : Nat} {t : Task}
    (ht : j.tasks[k]? = some t) : t.stage.isOver = true := by
  obtain ⟨lt, -⟩ := List.getElem?_eq_some_iff.mp ht
  have := List.filter_eq_nil_iff.mp done k (List.mem_range.mpr lt)
  simpa [ht] using this

/-- A join that has ended without failure has minted all links: the first task that has not would
have failed, and so ended everything. -/
theorem exists_finished_of_ended (ok : j.failure = none) (done : j.unfinished = []) :
    ∀ t ∈ j.tasks, ∃ url, t.stage = .finished url := by
  intro t mem
  -- by induction on the index of the task, as one of many only ends everything after all before
  obtain ⟨k, hk⟩ := List.getElem?_of_mem mem
  induction k using Nat.strongRecOn generalizing t with
  | ind k ih =>
    have isOver := isOver_of_unfinished done hk
    cases stage : t.stage with
    | finished url => exact ⟨url, rfl⟩
    | failed e =>
      refine absurd ok (failure_ne_none hk stage fun _ k' lt => ?_)
      have lt' : k' < j.tasks.length := lt.trans (List.getElem?_eq_some_iff.mp hk).1
      obtain ⟨url, minted⟩ := ih k' lt j.tasks[k'] (List.getElem_mem lt')
        (List.getElem?_eq_getElem lt')
      exact ⟨_, url, List.getElem?_eq_getElem lt', minted⟩
    | waiting | enrolling _ _ | minting _ _ => rw [stage] at isOver; cases isOver

end Join

/-! ## One poll of one task -/

section Poll

variable {σ : Type} (service : FormService σ) (c : Context) (form : String) (s : σ)

theorem past_mint (answer : Except Failure String) (left : Nat) :
    (Polled.mint c form s answer left).stage.Past c form
      ([.enrolmentStarted c.recipient.id, .enrolmentEnded c.recipient.id true,
        .mintingStarted c.recipient.user.id c.pub.id] ++
          (Polled.mint c form s answer left).events) := by
  cases left with
  | succ left => exact .minting left answer
  | zero =>
    cases answer with
    | ok url => exact .finished url
    | error failure => exact .notMinted failure

theorem past_startMint :
    (Polled.startMint service c form s).stage.Past c form
      ([.enrolmentStarted c.recipient.id, .enrolmentEnded c.recipient.id true] ++
        (Polled.startMint service c form s).events) :=
  past_mint c form _ _ _

theorem past_enrol (answer : Except Failure Unit) (left : Nat) :
    (Polled.enrol service c form s answer left).stage.Past c form
      ([.enrolmentStarted c.recipient.id] ++
        (Polled.enrol service c form s answer left).events) := by
  cases left with
  | succ left => exact .enrolling left answer
  | zero =>
    cases answer with
    | ok _ => exact past_startMint service c form s
    | error failure => exact .notEnrolled failure

theorem past_startEnrol :
    (Polled.startEnrol service c form s).stage.Past c form
      (Polled.startEnrol service c form s).events :=
  past_enrol service c form _ _ _

variable {service c form s}

/-- A poll continues the history of its link. -/
theorem Stage.Past.poll {t : Task} {past : List Happening} (h : t.stage.Past c t.form past)
    (service : FormService σ) (s : σ) :
    (t.poll service c s).stage.Past c t.form (past ++ (t.poll service c s).events) := by
  obtain ⟨form, stage⟩ := t
  dsimp only at h
  cases h with
  | waiting => exact past_startEnrol service c form s
  | enrolling left answer => exact past_enrol service c form s answer left
  | minting left answer => exact past_mint c form s answer left
  | finished url => exact .finished url
  | notEnrolled source => exact .notEnrolled source
  | notMinted source => exact .notMinted source

end Poll

namespace Stage.Past

variable {c : Context} {form : String} {stage : Stage} {past : List Happening}

/-- Nothing has failed as long as the task has not. -/
theorem not_isFailure (h : stage.Past c form past) (ok : stage.error? = none) :
    ∀ e ∈ past, e.isFailure = false := by
  cases h with
  | notEnrolled source | notMinted source => cases ok
  | waiting | enrolling _ _ | minting _ _ | finished _ => simp [Context.course, Happening.isFailure]

/-- A failure is the last thing that happens to a link, and a request for its form has failed. -/
theorem of_failed {e : DirectiveError} (h : (Stage.failed e).Past c form past) :
    (∃ operation source, e = .serviceFailure operation form source) ∧
      ∃ before last, past = before ++ [last] ∧ last.isFailure = true ∧
        ∀ e ∈ before, e.isFailure = false := by
  cases h with
  | notEnrolled source =>
    exact ⟨⟨_, _, rfl⟩, [_], _, rfl, rfl, by simp [Happening.isFailure]⟩
  | notMinted source =>
    exact ⟨⟨_, _, rfl⟩, [_, _, _], _, rfl, rfl, by simp [Happening.isFailure]⟩

/-- The whole course of a link ends with its being minted. -/
theorem eq_course_iff (h : stage.Past c form past) :
    past = c.course ↔ ∃ url, stage = .finished url := by
  cases h <;> simp [Context.course]

/-- A task that fails has just been told so: what is new ends in the failure. -/
theorem ends_of_failed {e : DirectiveError} {new : List Happening}
    (h : (Stage.failed e).Past c form (past ++ new)) (good : ∀ e ∈ past, e.isFailure = false) :
    ∃ before last, new = before ++ [last] ∧ last.isFailure = true ∧
      ∀ e ∈ before, e.isFailure = false := by
  obtain ⟨-, before, last, eq, bad, rest⟩ := h.of_failed
  rcases List.eq_nil_or_concat new with rfl | ⟨new, x, rfl⟩
  · -- without anything new the failure would have been there before
    rw [List.append_nil] at eq
    rw [good last (by rw [eq]; simp)] at bad
    cases bad
  · rw [List.concat_eq_append, ← List.append_assoc] at eq
    obtain ⟨rfl, same⟩ := List.append_inj' eq rfl
    obtain rfl : x = last := List.singleton_inj.mp same
    refine ⟨new, x, List.concat_eq_append, bad, ?_⟩
    intro e he
    exact rest e (List.mem_append_right _ he)

/-- A failure that has happened to a link is the failure of its task, and nothing has happened to
the link since. -/
theorem of_isFailure (h : stage.Past c form past) {before after : List Happening} {e : Happening}
    (eq : past = before ++ e :: after) (bad : e.isFailure = true) :
    after = [] ∧ ∃ error, stage = .failed error := by
  cases ok : stage.error? with
  | none =>
    rw [h.not_isFailure ok e (by rw [eq]; simp)] at bad
    cases bad
  | some error =>
    obtain rfl := Stage.error?_eq_some_iff.mp ok
    obtain ⟨-, before', last, eq', -, good⟩ := h.of_failed
    refine ⟨?_, error, rfl⟩
    rcases List.eq_nil_or_concat after with nil | ⟨after, x, concat⟩
    · exact nil
    · -- anything after it would put the failure among the events that are none
      rw [eq, concat, List.concat_eq_append, ← List.cons_append, ← List.append_assoc] at eq'
      obtain ⟨rfl, -⟩ := List.append_inj' eq' rfl
      rw [good e (by simp)] at bad
      cases bad

/-- What has happened to a link is a beginning of its course, possibly ended by one failure. -/
theorem begun (h : stage.Past c form past) : c.Begun past := by
  cases h with
  | waiting => exact .inl ⟨_, rfl⟩
  | enrolling _ _ => exact .inl ⟨_, rfl⟩
  | minting _ _ => exact .inl ⟨_, rfl⟩
  | finished _ => exact .inl ⟨[], rfl⟩
  | notEnrolled _ => exact .inr (.inl rfl)
  | notMinted _ => exact .inr (.inr rfl)

end Stage.Past

/-! ## All tasks -/

namespace Join

variable {σ : Type}

/-- What has happened to the link with index `k`. -/
def eventsOf (j : Join σ) (k : Nat) : List Happening :=
  (j.events.filter fun e => e.link = k).map Event.happening

/-- The invariant of a join for some forms: each task is for its form, what has happened to its
link fits its stage, and the failure of one of a few tasks is the last event of all. -/
structure Sound (c : Context) (forms : List String) (j : Join σ) : Prop where
  ownForm : j.tasks.map Task.form = forms
  past : ∀ (k : Nat) (t : Task), j.tasks[k]? = some t → t.stage.Past c t.form (j.eventsOf k)
  named : ∀ e ∈ j.events, forms[e.link]? = some e.form
  ended : forms.length ≤ few → j.failure ≠ none → ∃ before last, j.events = before ++ [last] ∧
    last.happening.isFailure = true ∧ ∀ e ∈ before, e.happening.isFailure = false

variable {service : FormService σ} {c : Context} {forms : List String} {j : Join σ}

theorem failure_start (forms : List String) (s : σ) : (start forms s).failure = none := by
  refine failure_eq_none fun t mem => ?_
  obtain ⟨form, -, rfl⟩ := List.mem_map.mp mem
  rfl

theorem sound_start (c : Context) (forms : List String) (s : σ) :
    (start forms s).Sound c forms where
  ownForm := by simp [start, Function.comp_def]
  past k t h := by
    obtain ⟨form, -, rfl⟩ := List.mem_map.mp (List.mem_of_getElem? h)
    exact .waiting
  named e h := nomatch h
  ended _ h := absurd (failure_start forms s) h

theorem Sound.length_tasks (h : j.Sound c forms) : j.tasks.length = forms.length := by
  rw [← h.ownForm, List.length_map]

/-- What has happened has happened to a link that there is. -/
theorem Sound.exists_task_of_mem (h : j.Sound c forms) {e : Event} (he : e ∈ j.events) :
    ∃ t, j.tasks[e.link]? = some t ∧ t.form = e.form := by
  have named := h.named e he
  rw [← h.ownForm, List.getElem?_map] at named
  obtain ⟨t, ht, form⟩ := Option.map_eq_some_iff.mp named
  exact ⟨t, ht, form⟩

theorem mem_eventsOf {k : Nat} {h : Happening} :
    h ∈ j.eventsOf k ↔ ∃ e ∈ j.events, e.link = k ∧ e.happening = h := by
  simp [eventsOf, and_assoc]

/-- As long as no task has failed, nothing has. -/
theorem Sound.not_isFailure (h : j.Sound c forms) (ok : ∀ t ∈ j.tasks, t.stage.error? = none) :
    ∀ e ∈ j.events, e.happening.isFailure = false := by
  intro e he
  obtain ⟨t, ht, -⟩ := h.exists_task_of_mem he
  exact (h.past e.link t ht).not_isFailure (ok t (List.mem_of_getElem? ht)) _
    (mem_eventsOf.mpr ⟨e, he, rfl, rfl⟩)

/-- The failure that has ended everything is that of a request for one of the forms. -/
theorem Sound.explained (h : j.Sound c forms) {e : DirectiveError} (failed : j.failure = some e) :
    ∃ operation form source, form ∈ forms ∧ e = .serviceFailure operation form source := by
  obtain ⟨k, ⟨form, stage⟩, ht, rfl, -⟩ := exists_failed_of_failure failed
  obtain ⟨⟨operation, source, eq⟩, -⟩ := (h.past k _ ht).of_failed
  refine ⟨operation, form, source, ?_, eq⟩
  rw [← h.ownForm]
  exact List.mem_map_of_mem (List.mem_of_getElem? ht)

/-- An unfinished task that is polled adds its events to those of its link and to no other. -/
theorem eventsOf_record (j : Join σ) (i : Nat) (t : Task) (p : Polled σ) (k : Nat) :
    (j.record i t p).eventsOf k = j.eventsOf k ++ if i = k then p.events else [] := by
  rw [eventsOf, eventsOf, record, List.filter_append, List.map_append, List.filter_map]
  by_cases eq : i = k
  · simp [eq, Function.comp_def]
  · simp [eq, Function.comp_def]

/-- Polling an unfinished task keeps the invariant. -/
theorem Sound.record (h : j.Sound c forms) (ok : j.failure = none) {i : Nat} {t : Task}
    (ht : j.tasks[i]? = some t) (service : FormService σ) :
    (j.record i t (t.poll service c j.state)).Sound c forms := by
  obtain ⟨lt, -⟩ := List.getElem?_eq_some_iff.mp ht
  have past := (h.past i t ht).poll service j.state
  have form : forms[i]? = some t.form := by rw [← h.ownForm, List.getElem?_map, ht]; rfl
  constructor
  case ownForm =>
    -- a poll does not change what a task is for
    obtain ⟨_, form⟩ := List.getElem?_eq_some_iff.mp form
    rw [Join.record, List.map_set, h.ownForm, ← form]
    exact List.set_getElem_self ..
  case past =>
    -- the history of the polled link goes on, all others stay
    intro k u hu
    rw [eventsOf_record]
    rw [Join.record, List.getElem?_set] at hu
    by_cases eq : i = k
    · subst eq
      rw [if_pos rfl, if_pos lt] at hu
      rw [if_pos rfl, ← Option.some.inj hu]
      exact past
    · rw [if_neg eq] at hu
      rw [if_neg eq, List.append_nil]
      exact h.past k u hu
  case named =>
    intro e he
    rcases List.mem_append.mp he with he | he
    · exact h.named e he
    · obtain ⟨_, -, rfl⟩ := List.mem_map.mp he
      exact form
  case ended =>
    -- no task had failed before, so it is the poll that has added the failure, at its end
    intro atMost failed
    have none := error?_eq_none (by rwa [h.length_tasks]) ok
    have good := h.not_isFailure none
    obtain ⟨e, isFailed⟩ : ∃ e, (t.poll service c j.state).stage = .failed e := by
      by_contra notFailed
      refine failed (failure_eq_none fun u hu => ?_)
      rcases List.mem_or_eq_of_mem_set hu with hu | rfl
      · exact none u hu
      · exact Option.eq_none_iff_forall_ne_some.mpr fun e error =>
          notFailed ⟨e, Stage.error?_eq_some_iff.mp error⟩
    have goodHere : ∀ x ∈ j.eventsOf i, x.isFailure = false := by
      intro x hx
      obtain ⟨e, he, -, rfl⟩ := mem_eventsOf.mp hx
      exact good e he
    rw [isFailed] at past
    obtain ⟨new, last, added, bad, rest⟩ := past.ends_of_failed goodHere
    refine ⟨j.events ++ new.map fun h => ⟨i, t.form, h⟩, ⟨i, t.form, last⟩, ?_, bad, ?_⟩
    · simp [Join.record, added]
    · intro e he
      rcases List.mem_append.mp he with he | he
      · exact good e he
      · obtain ⟨x, hx, rfl⟩ := List.mem_map.mp he
        exact rest x hx

/-! ### Single polls -/

theorem poll_of_failure (service : FormService σ) (c : Context) (failed : j.failure ≠ none)
    (i : Nat) : j.poll service c i = j := by
  obtain ⟨e, failure⟩ := Option.ne_none_iff_exists'.mp failed
  rw [poll, failure]

theorem poll_of_getElem?_eq_none (service : FormService σ) (c : Context) {i : Nat}
    (ht : j.tasks[i]? = none) : j.poll service c i = j := by
  rw [poll, ht]
  cases j.failure <;> rfl

theorem poll_of_isOver (service : FormService σ) (c : Context) {i : Nat} {t : Task}
    (ht : j.tasks[i]? = some t) (isOver : t.stage.isOver = true) : j.poll service c i = j := by
  cases failure : j.failure with
  | some e => exact poll_of_failure service c (by rw [failure]; nofun) i
  | none =>
    rw [poll, failure, ht]
    exact if_pos isOver

theorem poll_of_unfinished (service : FormService σ) (c : Context) (ok : j.failure = none)
    {i : Nat} {t : Task} (ht : j.tasks[i]? = some t) (unfinished : t.stage.isOver = false) :
    j.poll service c i = j.record i t (t.poll service c j.state) := by
  rw [poll, ok, ht]
  exact if_neg (by rw [unfinished]; exact Bool.false_ne_true)

/-- A poll that changes anything polls an unfinished task of a join without failure. -/
theorem poll_cases (service : FormService σ) (c : Context) (j : Join σ) (i : Nat) :
    j.poll service c i = j ∨
      ∃ t, j.failure = none ∧ j.tasks[i]? = some t ∧ t.stage.isOver = false ∧
        j.poll service c i = j.record i t (t.poll service c j.state) := by
  by_cases ok : j.failure = none
  · cases ht : j.tasks[i]? with
    | none => exact .inl (poll_of_getElem?_eq_none service c ht)
    | some t =>
      cases isOver : t.stage.isOver with
      | true => exact .inl (poll_of_isOver service c ht isOver)
      | false => exact .inr ⟨t, ok, rfl, isOver, poll_of_unfinished service c ok ht isOver⟩
  · exact .inl (poll_of_failure service c ok i)

/-! ### All polls -/

theorem Sound.poll (h : j.Sound c forms) (service : FormService σ) (i : Nat) :
    (j.poll service c i).Sound c forms := by
  rcases poll_cases service c j i with eq | ⟨t, ok, ht, -, eq⟩
  · rw [eq]
    exact h
  · rw [eq]
    exact h.record ok ht service

/-- The invariant is kept in every interleaving. -/
theorem Sound.follow (h : j.Sound c forms) (service : FormService σ) (schedule : List Nat) :
    (j.follow service c schedule).Sound c forms := by
  induction schedule generalizing j with
  | nil => exact h
  | cons i schedule ih => exact ih (h.poll service i)

/-- Nothing happens once a failure has ended everything. -/
theorem follow_of_failure (service : FormService σ) (c : Context) (failed : j.failure ≠ none)
    (schedule : List Nat) : j.follow service c schedule = j := by
  induction schedule with
  | nil => rfl
  | cons i schedule ih =>
    rw [Join.follow, List.foldl_cons, poll_of_failure service c failed]
    exact ih

theorem length_tasks_follow (service : FormService σ) (c : Context) (schedule : List Nat)
    (j : Join σ) : (j.follow service c schedule).tasks.length = j.tasks.length := by
  induction schedule generalizing j with
  | nil => rfl
  | cons i schedule ih =>
    rw [Join.follow, List.foldl_cons]
    refine (ih (j.poll service c i)).trans ?_
    rcases poll_cases service c j i with same | ⟨t, -, -, -, polled⟩
    · rw [same]
    · rw [polled, Join.record, List.length_set]

theorem follow_append (service : FormService σ) (c : Context) (j : Join σ)
    (earlier later : List Nat) :
    j.follow service c (earlier ++ later) = (j.follow service c earlier).follow service c later :=
  List.foldl_append

/-- Polling round by round is one of the interleavings, and it leaves nothing to do. -/
theorem exists_schedule_run (service : FormService σ) (c : Context) (j : Join σ) :
    ∃ schedule, j.run service c = j.follow service c schedule ∧
      ((j.run service c).failure = none → (j.run service c).unfinished = []) := by
  induction j using run.induct service c with
  | case1 j more ih =>
    obtain ⟨schedule, eq, done⟩ := ih
    -- a round is a schedule itself, and the remaining rounds follow it
    rw [run, if_pos more]
    exact ⟨j.unfinished ++ schedule, by rw [eq, follow_append]; rfl, done⟩
  | case2 j stop =>
    rw [run, if_neg stop]
    exact ⟨[], rfl, fun ok => by_contra fun ne => stop ⟨ok, ne⟩⟩

end Join

end MailMerge
