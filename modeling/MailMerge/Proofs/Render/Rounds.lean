import MailMerge.Proofs.Render.Histories
import MailMerge.Render.Render

/-!
# Rounds

A round of a join polls its unfinished tasks in their order. Polling a task that is over does
nothing, so a round is a sweep over all tasks, which can be followed from the first task to the last
without looking at indices. This takes a failure that ends the round at once: one of a few tasks, or
one of tasks that have all ended in front of it. If no request ever waits, one sweep is all that
there is to a run, and it does what resolving the links one after the other does.

## Main definitions

* `Task.EndsNext`: a task that its next poll ends.
* `Join.sweep`: one poll of every task, in order, until one fails.
* `FormService.Prompt`: a service whose requests for a form never wait.
* `inviteInTurn`: links resolved one after the other until one fails.

## Main results

* `round_eq_sweep`: a round is a sweep.
* `exists_rounds_run`: a run ends after finitely many rounds.
* `run_eq_inviteInTurn`: without delays a run is what the links are one after the other.
-/

namespace MailMerge

variable {σ : Type} {service : FormService σ} {c : Context}

/-- A task that is over stays as it is when it is polled. -/
theorem Task.poll_of_isOver {t : Task} (h : t.stage.isOver = true) (service : FormService σ)
    (c : Context) (s : σ) : t.poll service c s = ⟨t.stage, s, [], []⟩ := by
  obtain ⟨form, stage⟩ := t
  cases stage with
  | finished url | failed e => rfl
  | waiting | enrolling _ _ | minting _ _ => cases h

/-- A task that its next poll ends, whatever the service has become by then. -/
def Task.EndsNext (service : FormService σ) (c : Context) (t : Task) : Prop :=
  ∀ s, (t.poll service c s).stage.isOver = true

/-- A task that its next poll ends without failure has minted its link then. -/
theorem Task.EndsNext.exists_finished {t : Task} (h : t.EndsNext service c) {s : σ}
    (ok : (t.poll service c s).stage.error? = none) :
    ∃ url, (t.poll service c s).stage = .finished url := by
  have isOver := h s
  generalize (t.poll service c s).stage = stage at ok isOver
  cases stage with
  | finished url => exact ⟨url, rfl⟩
  | failed e => cases ok
  | waiting | enrolling _ _ | minting _ _ => cases isOver

namespace Join

variable {j : Join σ}

theorem unfinished_eq_nil_iff : j.unfinished = [] ↔ ∀ t ∈ j.tasks, t.stage.isOver = true := by
  constructor
  · intro done t mem
    obtain ⟨k, hk⟩ := List.getElem?_of_mem mem
    exact isOver_of_unfinished done hk
  · intro isOver
    refine List.filter_eq_nil_iff.mpr fun k _ => ?_
    cases hk : j.tasks[k]? with
    | none => simp
    | some t => simp [isOver t (List.mem_of_getElem? hk)]

/-! ## A round polls every task -/

/-- A poll without an earlier failure is recorded, also if the task is over already. -/
theorem poll_eq_record (ok : j.failure = none) {i : Nat} {t : Task} (ht : j.tasks[i]? = some t) :
    j.poll service c i = j.record i t (t.poll service c j.state) := by
  cases isOver : t.stage.isOver with
  | false => exact poll_of_unfinished service c ok ht isOver
  | true =>
    obtain ⟨lt, here⟩ := List.getElem?_eq_some_iff.mp ht
    have tasks : j.tasks.set i t = j.tasks := by rw [← here, List.set_getElem_self]
    rw [poll_of_isOver service c ht isOver, Task.poll_of_isOver isOver, record]
    simp [tasks]

/-- A task that is over is left alone whichever task is polled. -/
theorem getElem?_poll_of_isOver {k : Nat} {t : Task} (ht : j.tasks[k]? = some t)
    (isOver : t.stage.isOver = true) (i : Nat) : (j.poll service c i).tasks[k]? = some t := by
  by_cases eq : i = k
  · rw [eq, poll_of_isOver service c ht isOver, ht]
  · rcases poll_cases service c j i with same | ⟨u, -, -, -, polled⟩
    · rw [same, ht]
    · rw [polled, record, List.getElem?_set_ne eq, ht]

/-- Tasks that are over may be left out of a schedule. -/
theorem follow_filter {p : Nat → Bool} {schedule : List Nat}
    (h : ∀ i ∈ schedule, p i = false → ∃ t, j.tasks[i]? = some t ∧ t.stage.isOver = true) :
    j.follow service c (schedule.filter p) = j.follow service c schedule := by
  induction schedule generalizing j with
  | nil => rfl
  | cons i schedule ih =>
    have later : ∀ k ∈ schedule, p k = false →
        ∃ t, (j.poll service c i).tasks[k]? = some t ∧ t.stage.isOver = true := by
      intro k mem left
      obtain ⟨t, ht, isOver⟩ := h k (List.mem_cons_of_mem _ mem) left
      exact ⟨t, getElem?_poll_of_isOver ht isOver i, isOver⟩
    cases polled : p i with
    | true =>
      rw [List.filter_cons_of_pos polled]
      exact ih later
    | false =>
      obtain ⟨t, ht, isOver⟩ := h i (List.mem_cons_self ..) polled
      rw [List.filter_cons_of_neg (by simp [polled]), follow, follow, List.foldl_cons]
      rw [poll_of_isOver service c ht isOver] at later ⊢
      exact ih later

theorem round_eq_follow_range (service : FormService σ) (c : Context) (j : Join σ) :
    j.round service c = j.follow service c (List.range j.tasks.length) := by
  refine follow_filter fun i mem isOver => ?_
  have lt := List.mem_range.mp mem
  refine ⟨j.tasks[i], List.getElem?_eq_getElem lt, ?_⟩
  simpa [List.getElem?_eq_getElem lt] using isOver

/-! ## A round is a sweep -/

/-- One poll of every task in order, the first of which has index `i`; the first failure ends it and
leaves the tasks behind it as they were. -/
def sweep (service : FormService σ) (c : Context) (i : Nat) : List Task → σ → Join σ
  | [], s => ⟨[], s, [], []⟩
  | t :: ts, s =>
    let p := t.poll service c s
    let events := p.events.map fun h => ⟨i, t.form, h⟩
    match p.stage.error? with
    | some _ => ⟨{ t with stage := p.stage } :: ts, p.state, events, p.notices⟩
    | none =>
      let rest := sweep service c (i + 1) ts p.state
      ⟨{ t with stage := p.stage } :: rest.tasks, rest.state, events ++ rest.events,
        p.notices ++ rest.notices⟩

theorem sweep_cons_of_error {i : Nat} {t : Task} {s : σ} {e : DirectiveError}
    (h : (t.poll service c s).stage.error? = some e) (ts : List Task) :
    sweep service c i (t :: ts) s =
      ⟨{ t with stage := (t.poll service c s).stage } :: ts, (t.poll service c s).state,
        (t.poll service c s).events.map fun h => ⟨i, t.form, h⟩, (t.poll service c s).notices⟩ := by
  rw [sweep]
  simp only [h]

theorem sweep_cons_of_ok {i : Nat} {t : Task} {s : σ}
    (h : (t.poll service c s).stage.error? = none) (ts : List Task) :
    sweep service c i (t :: ts) s =
      let rest := sweep service c (i + 1) ts (t.poll service c s).state
      ⟨{ t with stage := (t.poll service c s).stage } :: rest.tasks, rest.state,
        ((t.poll service c s).events.map fun h => ⟨i, t.form, h⟩) ++ rest.events,
        (t.poll service c s).notices ++ rest.notices⟩ := by
  rw [sweep]
  simp only [h]

/-- A poll that fails its task ends everything, once the tasks of many in front have minted their
links. -/
theorem failure_record_ne_none {done todo : List Task} {t u : Task} {e : DirectiveError}
    {p : Polled σ} (tasks : (j.record done.length t p).tasks = done ++ u :: todo)
    (failed : u.stage.error? = some e)
    (minted : few < j.tasks.length → ∀ t ∈ done, ∃ url, t.stage = .finished url) :
    (j.record done.length t p).failure ≠ none := by
  have here : (j.record done.length t p).tasks[done.length]? = some u := by simp [tasks]
  refine failure_ne_none here (Stage.error?_eq_some_iff.mp failed) fun many k lt => ?_
  rw [record, List.length_set] at many
  obtain ⟨url, stage⟩ := minted many done[k] (List.getElem_mem lt)
  refine ⟨done[k], url, ?_, stage⟩
  rw [tasks, List.getElem?_append_left lt, List.getElem?_eq_getElem lt]

/-- Polling all tasks behind the first ones sweeps them. If the tasks are many, those in front have
minted their links and each poll ends its task, so that the first failure ends everything. -/
theorem follow_range'_eq_sweep {done todo : List Task} (tasks : j.tasks = done ++ todo)
    (unfailed : ∀ t ∈ j.tasks, t.stage.error? = none)
    (ends : few < j.tasks.length →
      (∀ t ∈ done, ∃ url, t.stage = .finished url) ∧ ∀ t ∈ todo, t.EndsNext service c) :
    j.follow service c (List.range' done.length todo.length) =
      let swept := sweep service c done.length todo j.state
      ⟨done ++ swept.tasks, swept.state, j.events ++ swept.events, j.notices ++ swept.notices⟩ := by
  induction todo generalizing j done with
  | nil =>
    obtain ⟨_, _, _, _⟩ := j
    simp_all [sweep, follow]
  | cons t ts ih =>
    have ht : j.tasks[done.length]? = some t := by simp [tasks]
    have split : (j.record done.length t (t.poll service c j.state)).tasks =
        (done ++ [{ t with stage := (t.poll service c j.state).stage }]) ++ ts := by
      simp [record, tasks]
    have length : (j.record done.length t (t.poll service c j.state)).tasks.length =
        j.tasks.length := by
      rw [record, List.length_set]
    rw [List.length_cons, List.range'_succ, follow, List.foldl_cons,
      poll_eq_record (failure_eq_none unfailed) ht]
    change (j.record _ _ _).follow service c _ = _
    cases error : (t.poll service c j.state).stage.error? with
    | some e =>
      -- the failure ends the round, whatever is left of it
      have failed : (j.record done.length t (t.poll service c j.state)).failure ≠ none := by
        rw [List.append_assoc, List.singleton_append] at split
        exact failure_record_ne_none split error fun many => (ends many).1
      rw [follow_of_failure service c failed, sweep_cons_of_error error]
      simp [record, tasks]
    | none =>
      have rest := ih split ?_ ?_
      · rw [List.length_append, List.length_singleton] at rest
        rw [rest, sweep_cons_of_ok error]
        simp [record]
      · intro u hu
        rcases List.mem_or_eq_of_mem_set hu with hu | rfl
        · exact unfailed u hu
        · exact error
      · intro many
        obtain ⟨minted, ended⟩ := ends (by rwa [length] at many)
        refine ⟨fun u hu => ?_, fun u hu => ended u (List.mem_cons_of_mem _ hu)⟩
        rcases List.mem_append.mp hu with hu | hu
        · exact minted u hu
        · -- the task that has just been polled is over and has not failed
          obtain rfl := List.mem_singleton.mp hu
          exact (ended t (List.mem_cons_self ..)).exists_finished error

/-- A round is a sweep over all tasks, as long as none has failed. If they are many, this takes
polls that end their tasks. -/
theorem round_eq_sweep (service : FormService σ) (c : Context)
    (unfailed : ∀ t ∈ j.tasks, t.stage.error? = none)
    (ends : few < j.tasks.length → ∀ t ∈ j.tasks, t.EndsNext service c) :
    j.round service c =
      let swept := sweep service c 0 j.tasks j.state
      ⟨swept.tasks, swept.state, j.events ++ swept.events, j.notices ++ swept.notices⟩ := by
  rw [round_eq_follow_range, List.range_eq_range']
  exact follow_range'_eq_sweep (List.nil_append j.tasks).symm unfailed
    fun many => ⟨fun t mem => (nomatch mem), ends many⟩

/-! ## A run is made of rounds -/

theorem run_of_ended (h : j.failure ≠ none ∨ j.unfinished = []) : j.run service c = j := by
  rw [run, if_neg]
  rintro ⟨ok, more⟩
  exact h.elim (· ok) more

theorem run_of_more (ok : j.failure = none) (more : j.unfinished ≠ []) :
    j.run service c = (j.round service c).run service c := by
  rw [run, if_pos ⟨ok, more⟩]

/-- A run ends after finitely many rounds, in a failure or with all tasks over. -/
theorem exists_rounds_run (service : FormService σ) (c : Context) (j : Join σ) :
    ∃ rounds, j.run service c = (fun j => j.round service c)^[rounds] j ∧
      ((j.run service c).failure ≠ none ∨ (j.run service c).unfinished = []) := by
  induction j using run.induct service c with
  | case1 j more ih =>
    obtain ⟨rounds, eq, ended⟩ := ih
    rw [run_of_more more.1 more.2]
    exact ⟨rounds + 1, by rw [eq, Function.iterate_succ_apply], ended⟩
  | case2 j stop =>
    have ended : j.failure ≠ none ∨ j.unfinished = [] := by
      by_cases ok : j.failure = none
      · exact .inr (by_contra fun more => stop ⟨ok, more⟩)
      · exact .inl ok
    rw [run_of_ended ended]
    exact ⟨0, rfl, ended⟩

theorem unfinished_start_ne_nil (form : String) (forms : List String) (s : σ) :
    (start (form :: forms) s).unfinished ≠ [] := by
  rw [Ne, unfinished_eq_nil_iff]
  intro isOver
  cases isOver ⟨form, .waiting⟩ (by simp [start])

theorem run_start_nil (service : FormService σ) (c : Context) (s : σ) :
    (start [] s).run service c = start [] s :=
  run_of_ended (.inr rfl)

/-- A run from the start that is over after one round is that round. -/
theorem run_start_eq_sweep {forms : List String} {s : σ}
    (ends : few < forms.length → ∀ form ∈ forms, Task.EndsNext service c ⟨form, .waiting⟩)
    (ended : (sweep service c 0 (forms.map fun form => ⟨form, .waiting⟩) s).failure = none →
      ∀ t ∈ (sweep service c 0 (forms.map fun form => ⟨form, .waiting⟩) s).tasks,
        t.stage.isOver = true) :
    (start forms s).run service c =
      sweep service c 0 (forms.map fun form => ⟨form, .waiting⟩) s := by
  cases forms with
  | nil => exact run_start_nil service c s
  | cons form forms =>
    have round : (start (form :: forms) s).round service c =
        sweep service c 0 ((form :: forms).map fun form => ⟨form, .waiting⟩) s := by
      refine round_eq_sweep service c (fun t mem => ?_) fun many t mem => ?_
      · obtain ⟨form, -, rfl⟩ := List.mem_map.mp mem
        rfl
      · obtain ⟨form, named, rfl⟩ := List.mem_map.mp mem
        exact ends (by rwa [start, List.length_map] at many) form named
    rw [run_of_more (failure_start ..) (unfinished_start_ne_nil form forms s), round]
    refine run_of_ended ?_
    rw [unfinished_eq_nil_iff]
    by_cases ok : (sweep service c 0 ((form :: forms).map fun form => ⟨form, .waiting⟩) s).failure =
        none
    · exact .inr (ended ok)
    · exact .inl ok

end Join

/-! ## Links one after the other -/

/-- Links resolved one after the other until one fails, the first of which has index `k`. -/
def inviteInTurn (service : FormService σ) (c : Context) (k : Nat) :
    List String → σ → Outcome σ (List String)
  | [], s => ⟨.ok [], s, [], []⟩
  | form :: forms, s =>
    let first := inviteLink service c form s
    let events := first.events.map fun e => { e with link := k }
    match first.result with
    | .error e => ⟨.error e, first.state, events, first.notices⟩
    | .ok url =>
      let rest := inviteInTurn service c (k + 1) forms first.state
      ⟨rest.result.map (url :: ·), rest.state, events ++ rest.events,
        first.notices ++ rest.notices⟩

/-- A service whose requests for a form are answered at once. -/
structure FormService.Prompt (service : FormService σ) (form : String) : Prop where
  enrolment : ∀ member s, (service.ensureMembership member form s).delay = 0
  minting : ∀ user pub s, (service.mintInviteLink user form pub s).delay = 0

/-- What has become of a join, taken together. -/
def Join.report (j : Join σ) : Outcome σ (List String) :=
  ⟨j.outcome, j.state, j.events, j.notices⟩

/-- Without delays the first poll of a task is all that there is to it. -/
theorem FormService.Prompt.poll {form : String} (h : service.Prompt form) (c : Context) (s : σ) :
    (∃ url, (Task.poll service c ⟨form, .waiting⟩ s).stage = .finished url) ∨
      ∃ e, (Task.poll service c ⟨form, .waiting⟩ s).stage = .failed e := by
  simp only [Task.poll, Polled.startEnrol, Polled.after, h.enrolment]
  cases (service.ensureMembership c.recipient.id form s).answer with
  | error failure => exact .inr ⟨_, rfl⟩
  | ok _ =>
    simp only [Polled.enrol, Polled.startMint, Polled.after, h.minting]
    cases (service.mintInviteLink c.recipient.user.id form c.pub.id
      (service.ensureMembership c.recipient.id form s).state).answer with
    | error failure => exact .inr ⟨_, rfl⟩
    | ok url => exact .inl ⟨url, rfl⟩

theorem FormService.Prompt.endsNext {form : String} (h : service.Prompt form) (c : Context) :
    Task.EndsNext service c ⟨form, .waiting⟩ := by
  intro s
  rcases h.poll c s with ⟨url, stage⟩ | ⟨e, stage⟩ <;> rw [stage] <;> rfl

namespace Join

section Prompt

variable {form : String} {forms : List String} {k : Nat} {s : σ}

/-- Without delays the first failure of a sweep has all tasks in front of it minted, so that it ends
everything however many there are. -/
theorem failure_sweep_of_prompt (h : ∀ form ∈ forms, service.Prompt form) (k : Nat) (s : σ) :
    (sweep service c k (forms.map fun form => ⟨form, .waiting⟩) s).failure =
      anyError (sweep service c k (forms.map fun form => ⟨form, .waiting⟩) s).tasks := by
  have ordered :
      orderedError (sweep service c k (forms.map fun form => ⟨form, .waiting⟩) s).tasks =
        anyError (sweep service c k (forms.map fun form => ⟨form, .waiting⟩) s).tasks := by
    induction forms generalizing k s with
    | nil => rfl
    | cons form forms ih =>
      rw [List.map_cons]
      rcases (h form (List.mem_cons_self ..)).poll c s with ⟨url, stage⟩ | ⟨e, stage⟩
      · rw [sweep_cons_of_ok (by rw [stage]; rfl), stage]
        exact ih (fun form mem => h form (List.mem_cons_of_mem _ mem)) ..
      · rw [sweep_cons_of_error (Stage.error?_eq_some_iff.mpr stage), stage]
        rfl
  rw [failure]
  split
  · rfl
  · exact ordered

/-- Without delays a sweep over waiting tasks leaves none of them unfinished. -/
theorem isOver_sweep_of_prompt (h : ∀ form ∈ forms, service.Prompt form) (k : Nat) (s : σ)
    (ok : anyError (sweep service c k (forms.map fun form => ⟨form, .waiting⟩) s).tasks = none) :
    ∀ t ∈ (sweep service c k (forms.map fun form => ⟨form, .waiting⟩) s).tasks,
      t.stage.isOver = true := by
  induction forms generalizing k s with
  | nil => exact fun t mem => nomatch mem
  | cons form forms ih =>
    rw [List.map_cons] at ok ⊢
    rcases (h form (List.mem_cons_self ..)).poll c s with ⟨url, stage⟩ | ⟨e, stage⟩
    · rw [sweep_cons_of_ok (by rw [stage]; rfl), stage] at ok ⊢
      intro t mem
      rcases List.mem_cons.mp mem with rfl | mem
      · rfl
      · exact ih (fun form mem => h form (List.mem_cons_of_mem _ mem)) _ _ ok t mem
    · rw [sweep_cons_of_error (Stage.error?_eq_some_iff.mpr stage), stage] at ok
      cases ok

/-- Without delays a run is a single sweep. -/
theorem run_of_prompt (h : ∀ form ∈ forms, service.Prompt form) (s : σ) :
    (start forms s).run service c =
      sweep service c 0 (forms.map fun form => ⟨form, .waiting⟩) s := by
  refine run_start_eq_sweep (fun _ form mem => (h form mem).endsNext c) fun ok => ?_
  rw [failure_sweep_of_prompt h] at ok
  exact isOver_sweep_of_prompt h 0 s ok

theorem inviteLink_of_ok {url : String} (h : service.Prompt form)
    (stage : (Task.poll service c ⟨form, .waiting⟩ s).stage = .finished url) :
    inviteLink service c form s =
      ⟨.ok url, (Task.poll service c ⟨form, .waiting⟩ s).state,
        (Task.poll service c ⟨form, .waiting⟩ s).events.map fun h => ⟨0, form, h⟩,
        (Task.poll service c ⟨form, .waiting⟩ s).notices⟩ := by
  rw [inviteLink, run_of_prompt (by simpa using h), List.map_singleton,
    sweep_cons_of_ok (by rw [stage]; rfl), stage]
  simp [sweep, outcome, failure, few, anyError, Stage.error?, Stage.url?, Except.map]

theorem inviteLink_of_error {e : DirectiveError} (h : service.Prompt form)
    (stage : (Task.poll service c ⟨form, .waiting⟩ s).stage = .failed e) :
    inviteLink service c form s =
      ⟨.error e, (Task.poll service c ⟨form, .waiting⟩ s).state,
        (Task.poll service c ⟨form, .waiting⟩ s).events.map fun h => ⟨0, form, h⟩,
        (Task.poll service c ⟨form, .waiting⟩ s).notices⟩ := by
  rw [inviteLink, run_of_prompt (by simpa using h), List.map_singleton,
    sweep_cons_of_error (Stage.error?_eq_some_iff.mpr stage), stage]
  rfl

/-- Without delays a sweep over waiting tasks does what resolving the links one after the other
does. -/
theorem report_sweep_of_prompt (h : ∀ form ∈ forms, service.Prompt form) (k : Nat) (s : σ) :
    (sweep service c k (forms.map fun form => ⟨form, .waiting⟩) s).report =
      inviteInTurn service c k forms s := by
  induction forms generalizing k s with
  | nil => rfl
  | cons form forms ih =>
    have prompt := h form (List.mem_cons_self ..)
    have later : ∀ form ∈ forms, service.Prompt form := fun form mem =>
      h form (List.mem_cons_of_mem _ mem)
    have failed := failure_sweep_of_prompt (c := c) h k s
    rw [report, outcome, failed, inviteInTurn, List.map_cons]
    rcases prompt.poll c s with ⟨url, stage⟩ | ⟨e, stage⟩
    · have rest := ih later (k + 1) (Task.poll service c ⟨form, .waiting⟩ s).state
      rw [report, outcome, failure_sweep_of_prompt later] at rest
      rw [sweep_cons_of_ok (by rw [stage]; rfl), inviteLink_of_ok prompt stage, stage]
      dsimp only
      rw [← rest, List.map_map]
      -- the task in front has not failed, so the error is that of the tasks behind it
      have behind (ts : List Task) : anyError (⟨form, .finished url⟩ :: ts) = anyError ts := rfl
      rw [behind]
      cases anyError (sweep service c (k + 1) (forms.map fun form => ⟨form, .waiting⟩)
        (Task.poll service c ⟨form, .waiting⟩ s).state).tasks with
      | some e => rfl
      | none => simp [Except.map, Stage.url?, Function.comp_def]
    · rw [sweep_cons_of_error (Stage.error?_eq_some_iff.mpr stage),
        inviteLink_of_error prompt stage, stage]
      dsimp only
      rw [List.map_map]
      rfl

/-- **Without delays a run is what the links are one after the other**, with all that is requested
on the way. -/
theorem run_eq_inviteInTurn (h : ∀ form ∈ forms, service.Prompt form) (s : σ) :
    ((start forms s).run service c).report = inviteInTurn service c 0 forms s := by
  rw [run_of_prompt h, report_sweep_of_prompt h]

end Prompt

end Join

end MailMerge
