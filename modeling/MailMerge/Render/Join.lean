import MailMerge.Context.Basic
import MailMerge.Forms.Service

/-!
# Resolving links side by side

Every open link is resolved by a task of two requests, one after the other: the recipient is
enrolled in the form, then an invite link is minted. The tasks advance side by side. In each
round every unfinished task is polled once, in order; a polled task runs until a request is
not ready or the link is done.

What a failure does depends on the number of tasks. A few tasks are all watched at once, and the
first failure of any of them ends everything. The results of many tasks are collected in the order
of the tasks instead: a failure is held back until all tasks before the failed one have minted
their links, and meanwhile the other tasks go on.

Polling one task is a step of its own, so that tasks can also be followed through any other
interleaving.

## Main definitions

* `Stage`, `Task`: how far a link has come.
* `Event`: what happens to a link, in the order in which it happens.
* `Join`: the tasks, the service and what has happened so far.
* `Join.failure`: the failure that has ended everything.
* `Join.poll`, `Join.follow`, `Join.round`, `Join.run`: one poll, any interleaving, one round,
  all rounds.

## Main results

* `measure_poll_le`, `measure_poll_lt`: a poll never undoes progress, and polling an unfinished
  task makes some. This is why `Join.run` ends, whatever the delays.
-/

namespace MailMerge

/-- How far a task has come. A request that has been made reports `left` more times that it is
not ready. -/
inductive Stage where
  | waiting
  | enrolling (left : Nat) (answer : Except Failure Unit)
  | minting (left : Nat) (answer : Except Failure String)
  | finished (url : String)
  | failed (e : DirectiveError)

/-- The resolution of one link. -/
structure Task where
  form : String
  stage : Stage

/-- What happens to a link. -/
inductive Happening where
  | enrolmentStarted (member : String)
  | enrolmentEnded (member : String) (success : Bool)
  | mintingStarted (user pub : String)
  | mintingEnded (user pub : String) (success : Bool)
deriving DecidableEq, Repr

/-- Something that happens to the link with index `link`. -/
structure Event where
  link : Nat
  form : String
  happening : Happening
deriving DecidableEq, Repr

/-- A task after it has been polled: how far it has come, the service, and what has happened. -/
structure Polled (σ : Type) where
  stage : Stage
  state : σ
  events : List Happening
  notices : List Notice

namespace Polled

variable {σ : Type}

/-- Puts what happened before in front. -/
def after (events : List Happening) (notices : List Notice) (p : Polled σ) : Polled σ :=
  { p with events := events ++ p.events, notices := notices ++ p.notices }

/-- A minting request that is polled. -/
def mint (c : Context) (form : String) (s : σ) (answer : Except Failure String) :
    Nat → Polled σ
  | left + 1 => ⟨.minting left answer, s, [], []⟩
  | 0 =>
    let user := c.recipient.user.id
    match answer with
    | .ok url => ⟨.finished url, s, [.mintingEnded user c.pub.id true], []⟩
    | .error failure =>
      ⟨.failed (.serviceFailure .mintInviteLink form failure), s,
        [.mintingEnded user c.pub.id false], []⟩

/-- A minting request that is made and polled. -/
def startMint (service : FormService σ) (c : Context) (form : String) (s : σ) : Polled σ :=
  let user := c.recipient.user.id
  let request := service.mintInviteLink user form c.pub.id s
  (mint c form request.state request.answer request.delay).after
    [.mintingStarted user c.pub.id] (.minting form user :: request.notices)

/-- An enrolment that is polled. -/
def enrol (service : FormService σ) (c : Context) (form : String) (s : σ)
    (answer : Except Failure Unit) : Nat → Polled σ
  | left + 1 => ⟨.enrolling left answer, s, [], []⟩
  | 0 =>
    match answer with
    | .ok () => (startMint service c form s).after [.enrolmentEnded c.recipient.id true] []
    | .error failure =>
      ⟨.failed (.serviceFailure .ensureMembership form failure), s,
        [.enrolmentEnded c.recipient.id false], []⟩

/-- An enrolment that is made and polled. -/
def startEnrol (service : FormService σ) (c : Context) (form : String) (s : σ) : Polled σ :=
  let member := c.recipient.id
  let request := service.ensureMembership member form s
  (enrol service c form request.state request.answer request.delay).after
    [.enrolmentStarted member] (.enrolling member form :: request.notices)

end Polled

namespace Stage

/-- True when there is nothing left to do. -/
def isOver : Stage → Bool
  | .finished _ | .failed _ => true
  | _ => false

/-- The minted link. -/
def url? : Stage → Option String
  | .finished url => some url
  | _ => none

/-- Why the task has failed. -/
def error? : Stage → Option DirectiveError
  | .failed e => some e
  | _ => none

/-- How many steps of the task are still to be taken. -/
def steps : Stage → Nat
  | .waiting => 3
  | .enrolling _ _ => 2
  | .minting _ _ => 1
  | .finished _ | .failed _ => 0

/-- How often the current request will still report that it is not ready. -/
def left : Stage → Nat
  | .enrolling left _ | .minting left _ => left
  | _ => 0

end Stage

namespace Task

variable {σ : Type}

/-- Polls a task. -/
def poll (service : FormService σ) (c : Context) (t : Task) (s : σ) : Polled σ :=
  match t.stage with
  | .waiting => .startEnrol service c t.form s
  | .enrolling left answer => .enrol service c t.form s answer left
  | .minting left answer => .mint c t.form s answer left
  | .finished url => ⟨.finished url, s, [], []⟩
  | .failed e => ⟨.failed e, s, [], []⟩

/-- Polling an unfinished task takes a step or uses up a delay. -/
theorem poll_progress (service : FormService σ) (c : Context) {t : Task}
    (h : t.stage.isOver = false) (s : σ) :
    (t.poll service c s).stage.steps < t.stage.steps ∨
      (t.poll service c s).stage.steps = t.stage.steps ∧
        (t.poll service c s).stage.left < t.stage.left := by
  have mint (form : String) (s : σ) (answer : Except Failure String) (left : Nat) :
      (Polled.mint c form s answer left).stage.steps < 1 ∨
        (Polled.mint c form s answer left).stage.steps = 1 ∧
          (Polled.mint c form s answer left).stage.left < left := by
    cases left with
    | zero => cases answer <;> simp [Polled.mint, Stage.steps]
    | succ left => simp [Polled.mint, Stage.steps, Stage.left]
  have startMint (form : String) (s : σ) :
      (Polled.startMint service c form s).stage.steps < 2 := by
    have := mint form (service.mintInviteLink c.recipient.user.id form c.pub.id s).state
      (service.mintInviteLink c.recipient.user.id form c.pub.id s).answer
      (service.mintInviteLink c.recipient.user.id form c.pub.id s).delay
    simp only [Polled.startMint, Polled.after]
    omega
  have enrol (form : String) (s : σ) (answer : Except Failure Unit) (left : Nat) :
      (Polled.enrol service c form s answer left).stage.steps < 2 ∨
        (Polled.enrol service c form s answer left).stage.steps = 2 ∧
          (Polled.enrol service c form s answer left).stage.left < left := by
    cases left with
    | zero =>
      cases answer with
      | error e => simp [Polled.enrol, Stage.steps]
      | ok u => exact .inl (startMint form s)
    | succ left => simp [Polled.enrol, Stage.steps, Stage.left]
  obtain ⟨form, stage⟩ := t
  cases stage with
  | waiting =>
    left
    have := enrol form (service.ensureMembership c.recipient.id form s).state
      (service.ensureMembership c.recipient.id form s).answer
      (service.ensureMembership c.recipient.id form s).delay
    simp only [poll, Polled.startEnrol, Polled.after, Stage.steps] at this ⊢
    omega
  | enrolling left answer => exact enrol form s answer left
  | minting left answer => exact mint form s answer left
  | finished url => simp [Stage.isOver] at h
  | failed e => simp [Stage.isOver] at h

end Task

/-- Tasks side by side: the tasks in order, the service, and what has happened so far. -/
structure Join (σ : Type) where
  tasks : List Task
  state : σ
  events : List Event
  notices : List Notice

namespace Join

variable {σ : Type}

/-- One waiting task per form. -/
def start (forms : List String) (s : σ) : Join σ :=
  ⟨forms.map fun form => ⟨form, .waiting⟩, s, [], []⟩

/-- Up to so many tasks are few. -/
def few : Nat := 30

/-- The error of any task that has failed. -/
def anyError (ts : List Task) : Option DirectiveError := ts.findSome? fun t => t.stage.error?

/-- The error of the first task that has not minted its link, if this task has failed. -/
def orderedError (ts : List Task) : Option DirectiveError :=
  (ts.find? fun t => t.stage.url?.isNone).bind fun t => t.stage.error?

/-- The failure that has ended everything. One of a few tasks ends it as soon as it fails. One of
many ends it when all tasks before it have minted their links. -/
def failure (j : Join σ) : Option DirectiveError :=
  if j.tasks.length ≤ few then anyError j.tasks else orderedError j.tasks

/-- The join after task `i` has been polled with the given result. -/
def record (j : Join σ) (i : Nat) (t : Task) (p : Polled σ) : Join σ where
  tasks := j.tasks.set i { t with stage := p.stage }
  state := p.state
  events := j.events ++ p.events.map fun h => ⟨i, t.form, h⟩
  notices := j.notices ++ p.notices

/-- Polls task `i`. Once a failure has ended everything, nothing happens any more. -/
def poll (service : FormService σ) (c : Context) (j : Join σ) (i : Nat) : Join σ :=
  match j.failure, j.tasks[i]? with
  | none, some t => if t.stage.isOver then j else j.record i t (t.poll service c j.state)
  | _, _ => j

/-- Polls tasks in any order. -/
def follow (service : FormService σ) (c : Context) (schedule : List Nat) (j : Join σ) : Join σ :=
  schedule.foldl (poll service c) j

/-- The indices of the tasks that are not over, in order. -/
def unfinished (j : Join σ) : List Nat :=
  (List.range j.tasks.length).filter fun i => (j.tasks[i]?.map fun t => !t.stage.isOver).getD false

/-- Polls every unfinished task once. -/
def round (service : FormService σ) (c : Context) (j : Join σ) : Join σ :=
  j.follow service c j.unfinished

/-- A quantity of all tasks together. -/
def total (f : Task → Nat) (ts : List Task) : Nat := ts.foldr (fun t n => f t + n) 0

/-- How much is left to do: steps of all tasks, then delays of all tasks. -/
def measure (j : Join σ) : Nat × Nat :=
  (total (fun t => t.stage.steps) j.tasks, total (fun t => t.stage.left) j.tasks)

/-- The order in which progress is measured: steps come first. -/
def Less (a b : Nat × Nat) : Prop := a.1 < b.1 ∨ a.1 = b.1 ∧ a.2 < b.2

theorem total_set {f : Task → Nat} {ts : List Task} {i : Nat} {t : Task}
    (h : ts[i]? = some t) (u : Task) : total f (ts.set i u) + f t = total f ts + f u := by
  induction ts generalizing i with
  | nil => simp at h
  | cons a as ih =>
    cases i with
    | zero =>
      obtain rfl : a = t := by simpa using h
      simp only [List.set_cons_zero, total, List.foldr_cons]
      omega
    | succ i =>
      have := ih (i := i) (by simpa using h)
      simp only [List.set_cons_succ, total, List.foldr_cons] at this ⊢
      omega

/-- Polling an unfinished task makes progress. -/
theorem measure_poll_lt (service : FormService σ) (c : Context) {j : Join σ} {i : Nat}
    {t : Task} (failure : j.failure = none) (ht : j.tasks[i]? = some t)
    (h : t.stage.isOver = false) : Less (j.poll service c i).measure j.measure := by
  have progress := t.poll_progress service c h j.state
  have steps := total_set (f := fun t => t.stage.steps) ht
    { t with stage := (t.poll service c j.state).stage }
  have left := total_set (f := fun t => t.stage.left) ht
    { t with stage := (t.poll service c j.state).stage }
  dsimp only at steps left
  simp only [poll, failure, ht, h, Less, measure, record, Bool.false_eq_true, if_false]
  omega

/-- A poll never undoes progress. -/
theorem measure_poll_le (service : FormService σ) (c : Context) (j : Join σ) (i : Nat) :
    Less (j.poll service c i).measure j.measure ∨ (j.poll service c i).measure = j.measure := by
  cases failure : j.failure with
  | some e => right; simp [poll, failure]
  | none =>
    cases ht : j.tasks[i]? with
    | none => right; simp [poll, failure, ht]
    | some t =>
      cases h : t.stage.isOver with
      | true => right; simp [poll, failure, ht, h]
      | false => exact .inl (measure_poll_lt service c failure ht h)

theorem measure_follow_le (service : FormService σ) (c : Context) (schedule : List Nat)
    (j : Join σ) :
    Less (j.follow service c schedule).measure j.measure ∨
      (j.follow service c schedule).measure = j.measure := by
  induction schedule generalizing j with
  | nil => exact .inr rfl
  | cons i schedule ih =>
    have first := measure_poll_le service c j i
    have rest := ih (j.poll service c i)
    simp only [follow, List.foldl_cons] at rest ⊢
    grind [Less]

/-- A round makes progress as long as there is something to do. -/
theorem measure_round_lt (service : FormService σ) (c : Context) {j : Join σ}
    (failure : j.failure = none) (h : j.unfinished ≠ []) :
    Less (j.round service c).measure j.measure := by
  unfold round
  cases hu : j.unfinished with
  | nil => exact absurd hu h
  | cons i schedule =>
    have mem : i ∈ j.unfinished := by simp [hu]
    simp only [unfinished, List.mem_filter] at mem
    obtain ⟨-, mem⟩ := mem
    cases ht : j.tasks[i]? with
    | none => simp [ht] at mem
    | some t =>
      have unfinished : t.stage.isOver = false := by simpa [ht] using mem
      have first := measure_poll_lt service c failure ht unfinished
      have rest := measure_follow_le service c schedule (j.poll service c i)
      simp only [follow, List.foldl_cons] at rest ⊢
      grind [Less]

/-- Polls round by round until a failure ends everything or every task is over. -/
def run (service : FormService σ) (c : Context) (j : Join σ) : Join σ :=
  if j.failure = none ∧ j.unfinished ≠ [] then run service c (j.round service c) else j
termination_by j.measure
decreasing_by
  rename_i h
  have := measure_round_lt service c h.1 h.2
  simp only [Less] at this
  rw [Prod.lex_def]
  exact this

/-- The minted links in the order of the tasks, or the failure that has ended everything. -/
def outcome (j : Join σ) : Except DirectiveError (List String) :=
  match j.failure with
  | some e => .error e
  | none => .ok (j.tasks.filterMap fun t => t.stage.url?)

end Join

end MailMerge
