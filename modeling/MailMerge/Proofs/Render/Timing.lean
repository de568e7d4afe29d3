import MailMerge.Context.Sample
import MailMerge.Proofs.Render.Granted
import MailMerge.Proofs.Render.Resolve
import MailMerge.Proofs.Render.Rounds

/-!
# The outcome of a rehearsal does not depend on its timing

In a rehearsal it is known beforehand what becomes of every form and when. A task has come as far
after some rounds as the delays of its form allow, whatever the other tasks do, as long as none of
them has failed. So the requests that are refused fail in foreseeable rounds, and a join of a few
tasks fails as the first of them does: the one in the earliest round, and in that round the one of
the first link. A join of many tasks fails as the first link does that is refused, in whatever round
that is; without delays this is the same. If nothing is refused, the links are the same for all
delays.

## Main definitions

* `Rehearsal.refusal?`: the round in which a form is refused, and the error.
* `Rehearsal.RefusedFirst`: the link whose refusal comes first.
* `Rehearsal.stageAt`: how far the task for a form has come after some rounds.

## Main results

* `poll_stageAt`: what a task does in its next round.
* `Reached.round`: what one round does to all tasks.
* `Reached.run_of_refusal`: a run with refusals, if the links are few.
* `refusedBefore_of_many`: the refusal that a run of many links ends with.
* `resolve_timing`: the outcome of a rehearsal.
-/

namespace MailMerge

namespace Rehearsal

variable {σ : Type} {r : Rehearsal} {c : Context} {form : String} {forms : List String} {n : Nat}

/-- How often an enrolment in a form is not ready. -/
def enrolmentDelay (r : Rehearsal) (form : String) : Nat := (r.enrolmentDelays.get? form).getD 0

/-- How often the minting of a link to a form is not ready. -/
def mintDelay (r : Rehearsal) (form : String) : Nat := (r.mintDelays.get? form).getD 0

/-- The error of an enrolment that is refused. -/
def notEnrolled (form : String) : DirectiveError :=
  .serviceFailure .ensureMembership form (.plain ("form '" ++ form ++ "' does not exist"))

/-- The error of a minting request that is refused. -/
def notMinted (form : String) : DirectiveError :=
  .serviceFailure .mintInviteLink form (.plain ("token service rejected form '" ++ form ++ "'"))

/-- The round in which a link to a form is refused, and the error; the first round has number 0. A
form that is refused by both requests is refused by the enrolment. -/
def refusal? (r : Rehearsal) (form : String) : Option (Nat × DirectiveError) :=
  if form ∈ r.failingMemberships then some (r.enrolmentDelay form, notEnrolled form)
  else if form ∈ r.failingMints then
    some (r.enrolmentDelay form + r.mintDelay form, notMinted form)
  else none

/-- The refusal of the link with index `k` comes first: no link is refused in an earlier round, and
in its round no link with a smaller index. -/
def RefusedFirst (r : Rehearsal) (forms : List String) (k round : Nat) (e : DirectiveError) :
    Prop :=
  (∃ form, forms[k]? = some form ∧ r.refusal? form = some (round, e)) ∧
    ∀ (k' : Nat) (form' : String) (round' : Nat) (e' : DirectiveError),
      forms[k']? = some form' → r.refusal? form' = some (round', e') →
        round < round' ∨ round = round' ∧ k ≤ k'

theorem refusal?_of_enrolment (refused : form ∈ r.failingMemberships) :
    r.refusal? form = some (r.enrolmentDelay form, notEnrolled form) :=
  if_pos refused

theorem refusal?_of_minting (enrolled : form ∉ r.failingMemberships)
    (refused : form ∈ r.failingMints) :
    r.refusal? form = some (r.enrolmentDelay form + r.mintDelay form, notMinted form) := by
  rw [refusal?, if_neg enrolled, if_pos refused]

theorem refusal?_eq_none_iff :
    r.refusal? form = none ↔ form ∉ r.failingMemberships ∧ form ∉ r.failingMints := by
  unfold refusal?
  split <;> simp_all

/-- The error with which a link is refused in a given round. -/
def refusedIn (r : Rehearsal) (round : Nat) (form : String) : Option DirectiveError :=
  (r.refusal? form).bind fun refusal => if refusal.1 = round then some refusal.2 else none

theorem refusedIn_eq_some_iff {e : DirectiveError} :
    r.refusedIn n form = some e ↔ r.refusal? form = some (n, e) := by
  unfold refusedIn
  rcases r.refusal? form with - | ⟨round, e'⟩
  · simp
  · simp [Prod.ext_iff]

/-- An enrolment that is refused, with what it says. -/
theorem enrol_eq_error_iff {source : Failure} :
    r.enrol form = .error source ↔ form ∈ r.failingMemberships ∧
      .serviceFailure .ensureMembership form source = notEnrolled form := by
  rw [enrol, notEnrolled]
  split <;> simp_all [eq_comm]

/-- A minting request that is refused, with what it says. -/
theorem mint_eq_error_iff {user : String} {source : Failure} :
    r.mint user form = .error source ↔ form ∈ r.failingMints ∧
      .serviceFailure .mintInviteLink form source = notMinted form := by
  rw [mint, notMinted]
  split <;> simp_all [eq_comm]

/-! ## One task -/

/-- How far the task for a form has come after some rounds. -/
def stageAt (r : Rehearsal) (user form : String) : Nat → Stage
  | 0 => .waiting
  | n + 1 =>
    if n < r.enrolmentDelay form then .enrolling (r.enrolmentDelay form - (n + 1)) (r.enrol form)
    else if form ∈ r.failingMemberships then .failed (notEnrolled form)
    else if n < r.enrolmentDelay form + r.mintDelay form then
      .minting (r.enrolmentDelay form + r.mintDelay form - (n + 1)) (r.mint user form)
    else if form ∈ r.failingMints then .failed (notMinted form)
    else .finished (r.linkTo user form)

/-- The task for a form after some rounds. -/
def taskAt (r : Rehearsal) (c : Context) (n : Nat) (form : String) : Task :=
  ⟨form, r.stageAt c.recipient.user.id form n⟩

/-- A minting request that is polled in round `n`. -/
theorem stage_mint (enrolled : form ∉ r.failingMemberships)
    (later : r.enrolmentDelay form ≤ n) (due : n ≤ r.enrolmentDelay form + r.mintDelay form)
    (s : σ) :
    (Polled.mint c form s (r.mint c.recipient.user.id form)
      (r.enrolmentDelay form + r.mintDelay form - n)).stage =
        r.stageAt c.recipient.user.id form (n + 1) := by
  have notEnrolling : ¬ n < r.enrolmentDelay form := by omega
  rcases Nat.lt_or_ge n (r.enrolmentDelay form + r.mintDelay form) with lt | ge
  · -- the request is not ready in this round
    have left : r.enrolmentDelay form + r.mintDelay form - n =
        r.enrolmentDelay form + r.mintDelay form - (n + 1) + 1 := by omega
    rw [left]
    simp [Polled.mint, stageAt, notEnrolling, enrolled, lt]
  · obtain rfl : n = r.enrolmentDelay form + r.mintDelay form := by omega
    rw [Nat.sub_self]
    by_cases refused : form ∈ r.failingMints
    · simp [Polled.mint, mint, stageAt, enrolled, refused, notMinted]
    · simp [Polled.mint, mint, stageAt, enrolled, refused]

/-- An enrolment that is polled in round `n`. -/
theorem stage_enrol (due : n ≤ r.enrolmentDelay form) (s : σ) :
    (Polled.enrol (r.service σ) c form s (r.enrol form) (r.enrolmentDelay form - n)).stage =
      r.stageAt c.recipient.user.id form (n + 1) := by
  rcases Nat.lt_or_ge n (r.enrolmentDelay form) with lt | ge
  · -- the request is not ready in this round
    have left : r.enrolmentDelay form - n = r.enrolmentDelay form - (n + 1) + 1 := by omega
    rw [left]
    simp [Polled.enrol, stageAt, lt]
  · obtain rfl : n = r.enrolmentDelay form := by omega
    rw [Nat.sub_self]
    by_cases refused : form ∈ r.failingMemberships
    · simp [Polled.enrol, enrol, stageAt, refused, notEnrolled]
    · have answer : r.enrol form = .ok () := by rw [enrol, if_neg refused]
      rw [answer]
      -- minting begins in the same round
      have minting := stage_mint (c := c) refused le_rfl (Nat.le_add_right _ (r.mintDelay form)) s
      rw [Nat.add_sub_cancel_left] at minting
      exact minting

/-- A task that is over stays as it is. -/
theorem stageAt_succ_of_isOver {user : String} (isOver : (r.stageAt user form n).isOver = true) :
    r.stageAt user form n = r.stageAt user form (n + 1) := by
  cases n with
  | zero => cases isOver
  | succ n =>
    have passed : ¬ n < r.enrolmentDelay form := by
      intro lt
      rw [stageAt, if_pos lt] at isOver
      cases isOver
    have later : ¬ n + 1 < r.enrolmentDelay form := by omega
    by_cases refused : form ∈ r.failingMemberships
    · simp [stageAt, passed, later, refused]
    · have minted : ¬ n < r.enrolmentDelay form + r.mintDelay form := by
        intro lt
        rw [stageAt, if_neg passed, if_neg refused, if_pos lt] at isOver
        cases isOver
      have afterwards : ¬ n + 1 < r.enrolmentDelay form + r.mintDelay form := by omega
      simp [stageAt, passed, later, minted, afterwards, refused]

/-- What a task does in its next round. -/
theorem poll_stageAt (r : Rehearsal) (c : Context) (form : String) (n : Nat) (s : σ) :
    ((r.taskAt c n form).poll (r.service σ) c s).stage =
      r.stageAt c.recipient.user.id form (n + 1) := by
  rw [taskAt]
  cases isOver : (r.stageAt c.recipient.user.id form n).isOver with
  | true =>
    rw [Task.poll_of_isOver isOver]
    exact stageAt_succ_of_isOver isOver
  | false =>
    cases n with
    | zero => exact stage_enrol (Nat.zero_le _) s
    | succ n =>
      by_cases enrolling : n < r.enrolmentDelay form
      · rw [stageAt, if_pos enrolling]
        exact stage_enrol enrolling s
      · rw [stageAt, if_neg enrolling] at isOver ⊢
        by_cases refused : form ∈ r.failingMemberships
        · rw [if_pos refused] at isOver
          cases isOver
        · rw [if_neg refused] at isOver ⊢
          by_cases minting : n < r.enrolmentDelay form + r.mintDelay form
          · rw [if_pos minting]
            exact stage_mint refused (by omega) minting s
          · rw [if_neg minting] at isOver
            split at isOver <;> cases isOver

/-- A task has failed once its form has been refused, with the error of the refusal. -/
theorem error?_stageAt (r : Rehearsal) (user form : String) (n : Nat) :
    (r.stageAt user form n).error? =
      (r.refusal? form).bind fun refusal => if refusal.1 < n then some refusal.2 else none := by
  cases n with
  | zero => cases r.refusal? form <;> rfl
  | succ n =>
    rw [stageAt]
    by_cases refused : form ∈ r.failingMemberships
    · rw [refusal?_of_enrolment refused, if_pos refused]
      split <;> simp [Stage.error?] <;> omega
    · by_cases refusedLater : form ∈ r.failingMints
      · rw [refusal?_of_minting refused refusedLater, if_neg refused, if_pos refusedLater]
        split
        · simp [Stage.error?]
          omega
        · split <;> simp [Stage.error?] <;> omega
      · rw [refusal?_eq_none_iff.mpr ⟨refused, refusedLater⟩, if_neg refused, if_neg refusedLater]
        split
        · rfl
        · split <;> rfl

/-- A task that has not failed before a round fails in it iff its form is refused in this round. -/
theorem error?_stageAt_succ {user : String} (ok : (r.stageAt user form n).error? = none) :
    (r.stageAt user form (n + 1)).error? = r.refusedIn n form := by
  rw [error?_stageAt] at ok ⊢
  rw [refusedIn]
  cases refusal : r.refusal? form with
  | none => rfl
  | some refusal' =>
    rw [refusal, Option.bind_some, ite_eq_right_iff] at ok
    have notBefore : ¬ refusal'.1 < n := fun lt => nomatch ok lt
    rw [Option.bind_some, Option.bind_some]
    exact if_congr (by omega) rfl rfl

/-- A task is not over before the round in which its form is refused. -/
theorem isOver_stageAt_of_refusal (user : String) {round : Nat} {e : DirectiveError}
    (refusal : r.refusal? form = some (round, e)) (h : n ≤ round) :
    (r.stageAt user form n).isOver = false := by
  cases n with
  | zero => rfl
  | succ n =>
    rw [stageAt]
    by_cases enrolling : n < r.enrolmentDelay form
    · rw [if_pos enrolling]
      rfl
    · rw [if_neg enrolling]
      by_cases refused : form ∈ r.failingMemberships
      · cases (refusal?_of_enrolment refused).symm.trans refusal
        omega
      · by_cases refusedLater : form ∈ r.failingMints
        · cases (refusal?_of_minting refused refusedLater).symm.trans refusal
          rw [if_neg refused, if_pos (by omega)]
          rfl
        · cases (refusal?_eq_none_iff.mpr ⟨refused, refusedLater⟩).symm.trans refusal

/-! ## A few tasks -/

/-- A join for some forms that has come through `n` rounds without a failure. -/
structure Reached (r : Rehearsal) (c : Context) (forms : List String) (n : Nat) (j : Join σ) :
    Prop where
  tasks : j.tasks = forms.map (r.taskAt c n)
  unfailed : ∀ form ∈ forms, (r.stageAt c.recipient.user.id form n).error? = none

/-- What a sweep over the tasks does after `n` rounds: it fails iff a form is refused in this round,
with the error for the first such form. -/
theorem sweep_taskAt {r : Rehearsal} {c : Context} {forms : List String} {n : Nat}
    (unfailed : ∀ form ∈ forms, (r.stageAt c.recipient.user.id form n).error? = none) (i : Nat)
    (s : σ) :
    Join.anyError (Join.sweep (r.service σ) c i (forms.map (r.taskAt c n)) s).tasks =
        forms.findSome? (r.refusedIn n) ∧
      (forms.findSome? (r.refusedIn n) = none →
        (Join.sweep (r.service σ) c i (forms.map (r.taskAt c n)) s).tasks =
          forms.map (r.taskAt c (n + 1))) := by
  induction forms generalizing i s with
  | nil => exact ⟨rfl, fun _ => rfl⟩
  | cons form forms ih =>
    have stage := poll_stageAt r c form n s
    have error := error?_stageAt_succ (unfailed form (List.mem_cons_self ..))
    rw [← stage] at error
    rw [List.map_cons, List.findSome?_cons]
    cases refused : r.refusedIn n form with
    | some e =>
      rw [Join.sweep_cons_of_error (error.trans refused)]
      refine ⟨?_, nofun⟩
      rw [Join.anyError, List.findSome?_cons, error, refused]
    | none =>
      rw [Join.sweep_cons_of_ok (error.trans refused)]
      obtain ⟨rest, tasks⟩ := ih (fun form mem => unfailed form (List.mem_cons_of_mem _ mem)) (i + 1)
        ((r.taskAt c n form).poll (r.service σ) c s).state
      refine ⟨?_, fun ok => ?_⟩
      · rw [Join.anyError, List.findSome?_cons, error, refused]
        exact rest
      · rw [List.map_cons, ← tasks ok]
        exact congrArg (· :: _) (congrArg (Task.mk form) stage)

theorem Reached.error?_eq_none {j : Join σ} (h : r.Reached c forms n j) :
    ∀ t ∈ j.tasks, t.stage.error? = none := by
  intro t mem
  rw [h.tasks] at mem
  obtain ⟨form, named, rfl⟩ := List.mem_map.mp mem
  exact h.unfailed form named

theorem Reached.round {j : Join σ} (h : r.Reached c forms n j)
    (atMost : forms.length ≤ Join.few) :
    (j.round (r.service σ) c).failure = forms.findSome? (r.refusedIn n) ∧
      (forms.findSome? (r.refusedIn n) = none →
        r.Reached c forms (n + 1) (j.round (r.service σ) c)) := by
  have few : j.tasks.length ≤ Join.few := by rwa [h.tasks, List.length_map]
  obtain ⟨error, tasks⟩ := sweep_taskAt (σ := σ) h.unfailed 0 j.state
  have round := Join.round_eq_sweep (r.service σ) c h.error?_eq_none
    fun many => absurd few (Nat.not_le.mpr many)
  have polled : (j.round (r.service σ) c).tasks.length ≤ Join.few := by
    rwa [Join.round, Join.length_tasks_follow]
  rw [← h.tasks] at error tasks
  refine ⟨?_, fun ok => ⟨?_, fun form mem => ?_⟩⟩
  · rw [Join.failure_of_few polled, round]
    exact error
  · rw [round]
    exact tasks ok
  · rw [error?_stageAt_succ (h.unfailed form mem)]
    exact List.findSome?_eq_none_iff.mp ok form mem

theorem reached_start (r : Rehearsal) (c : Context) (forms : List String) (s : σ) :
    r.Reached c forms 0 (Join.start forms s) := ⟨rfl, fun _ _ => rfl⟩

/-- A run of a few tasks fails as the first form does that is refused in the earliest round. -/
theorem Reached.run_of_refusal {j : Join σ} {round : Nat} {e : DirectiveError}
    (h : r.Reached c forms n j) (atMost : forms.length ≤ Join.few) (due : n ≤ round)
    (earlier : ∀ m < round, forms.findSome? (r.refusedIn m) = none)
    (refused : forms.findSome? (r.refusedIn round) = some e) :
    (j.run (r.service σ) c).failure = some e := by
  induction j using Join.run.induct (r.service σ) c generalizing n with
  | case1 j more ih =>
    rw [Join.run_of_more more.1 more.2]
    obtain ⟨failure, next⟩ := h.round atMost
    rcases Nat.lt_or_ge n round with lt | ge
    · exact ih (next (earlier n lt)) lt
    · obtain rfl : n = round := by omega
      rw [refused] at failure
      rw [Join.run_of_ended (.inl (by simp [failure])), failure]
  | case2 j stop =>
    -- the task that is to be refused is not over yet
    have done : j.unfinished = [] :=
      by_contra fun more => stop ⟨Join.failure_eq_none h.error?_eq_none, more⟩
    obtain ⟨form, mem, refusal⟩ := List.exists_of_findSome?_eq_some refused
    have isOver := Join.unfinished_eq_nil_iff.mp done (r.taskAt c n form)
      (by rw [h.tasks]; exact List.mem_map_of_mem mem)
    have notOver := isOver_stageAt_of_refusal c.recipient.user.id
      (refusedIn_eq_some_iff.mp refusal) due
    cases isOver.symm.trans notOver

/-! ## Many tasks -/

/-- A link that is minted has not been refused. -/
theorem refusal?_eq_none_of_minted {user url : String} (enrolled : r.enrol form = .ok ())
    (minted : r.mint user form = .ok url) : r.refusal? form = none := by
  refine refusal?_eq_none_iff.mpr ⟨fun refused => ?_, fun refused => ?_⟩
  · rw [enrol, if_pos refused] at enrolled
    cases enrolled
  · rw [mint, if_pos refused] at minted
    cases minted

/-- A run of many tasks fails as the first link does that is refused, in whatever round that is. -/
theorem refusedBefore_of_many (many : Join.few < forms.length) {s : σ} {e : DirectiveError}
    (h : ((Join.start forms s).run (r.service σ) c).outcome = .error e) :
    ∃ (k : Nat) (form : String) (round : Nat), forms[k]? = some form ∧
      r.refusal? form = some (round, e) ∧
      ∀ k' < k, ∀ form', forms[k']? = some form' → r.refusal? form' = none := by
  have answered := Join.answered_run (r.answers forms) c s
  have length := answered.sound.length_tasks
  have own {k : Nat} {t : Task}
      (ht : ((Join.start forms s).run (r.service σ) c).tasks[k]? = some t) :
      forms[k]? = some t.form := by
    rw [← answered.sound.ownForm, List.getElem?_map, ht]
    rfl
  obtain ⟨k, t, ht, stage, before⟩ := Join.exists_failed_of_failure (Join.failure_of_outcome h)
  have known := answered.tasks t (List.mem_of_getElem? ht)
  rw [stage] at known
  have refusal : ∃ round, r.refusal? t.form = some (round, e) := by
    rcases known with ⟨source, refused, rfl⟩ | ⟨enrolled, source, refused, rfl⟩
    · obtain ⟨refused, error⟩ := enrol_eq_error_iff.mp refused
      exact ⟨_, by rw [error, refusal?_of_enrolment refused]⟩
    · obtain ⟨refused, error⟩ := mint_eq_error_iff.mp refused
      have enrolled : t.form ∉ r.failingMemberships := by
        intro notEnrolled
        rw [enrol, if_pos notEnrolled] at enrolled
        cases enrolled
      exact ⟨_, by rw [error, refusal?_of_minting enrolled refused]⟩
  obtain ⟨round, refusal⟩ := refusal
  refine ⟨k, t.form, round, own ht, refusal, fun k' lt form' hk' => ?_⟩
  -- the links before it have been minted
  obtain ⟨t', url, ht', minted⟩ := before (by rwa [length]) k' lt
  obtain rfl := Option.some.inj (hk'.symm.trans (own ht'))
  have granted := answered.tasks t' (List.mem_of_getElem? ht')
  rw [minted] at granted
  exact refusal?_eq_none_of_minted granted.1 granted.2

/-! ## The first refusal -/

/-- The first refusal is the first one in its round, and there is none in earlier rounds. -/
theorem RefusedFirst.findSome? {k round : Nat} {e : DirectiveError}
    (h : r.RefusedFirst forms k round e) :
    (∀ m < round, forms.findSome? (r.refusedIn m) = none) ∧
      forms.findSome? (r.refusedIn round) = some e := by
  obtain ⟨⟨form, hk, refusal⟩, least⟩ := h
  -- whoever is refused is not refused earlier, and in the same round has no smaller index
  have notBefore {k' : Nat} {form' : String} (hk' : forms[k']? = some form') {m : Nat}
      (before : m < round ∨ m = round ∧ k' < k) : r.refusedIn m form' = none := by
    refine Option.eq_none_iff_forall_ne_some.mpr fun e' refused => ?_
    have := least k' form' m e' hk' (refusedIn_eq_some_iff.mp refused)
    omega
  constructor
  · intro m lt
    refine List.findSome?_eq_none_iff.mpr fun form' mem => ?_
    obtain ⟨k', hk'⟩ := List.getElem?_of_mem mem
    exact notBefore hk' (.inl lt)
  · obtain ⟨lt, rfl⟩ := List.getElem?_eq_some_iff.mp hk
    refine List.findSome?_eq_some_iff.mpr
      ⟨forms.take k, forms[k], forms.drop (k + 1), by simp, refusedIn_eq_some_iff.mpr refusal, ?_⟩
    intro form' mem
    obtain ⟨k', lt', rfl⟩ := List.mem_take_iff_getElem.mp mem
    exact notBefore (List.getElem?_eq_getElem (by omega)) (.inr ⟨rfl, by omega⟩)

/-- If anything is refused, one refusal comes first. -/
theorem exists_refusedFirst (h : ∃ form ∈ forms, r.refusal? form ≠ none) :
    ∃ k round e, r.RefusedFirst forms k round e := by
  have refusedSometimes : ∃ m, (forms.findSome? (r.refusedIn m)).isSome = true := by
    obtain ⟨form, mem, refused⟩ := h
    obtain ⟨⟨round, e⟩, refusal⟩ := Option.ne_none_iff_exists'.mp refused
    exact ⟨round, List.findSome?_isSome_iff.mpr
      ⟨form, mem, by rw [refusedIn_eq_some_iff.mpr refusal]; rfl⟩⟩
  obtain ⟨e, first⟩ := Option.isSome_iff_exists.mp (Nat.find_spec refusedSometimes)
  obtain ⟨left, form, right, split, refused, before⟩ := List.findSome?_eq_some_iff.mp first
  refine ⟨left.length, Nat.find refusedSometimes, e,
    ⟨form, by simp [split], refusedIn_eq_some_iff.mp refused⟩, ?_⟩
  intro k' form' round' e' hk' refusal'
  have refused' := refusedIn_eq_some_iff.mpr refusal'
  have least : Nat.find refusedSometimes ≤ round' := by
    refine Nat.find_min' refusedSometimes (List.findSome?_isSome_iff.mpr ?_)
    exact ⟨form', List.mem_of_getElem? hk', by rw [refused']; rfl⟩
  rcases Nat.lt_or_eq_of_le least with lt | eq
  · exact .inl lt
  · refine .inr ⟨eq, Nat.le_of_not_lt fun lt => ?_⟩
    -- in front of the first form of the round nothing is refused in it
    rw [split, List.getElem?_append_left lt] at hk'
    rw [← eq, before form' (List.mem_of_getElem? hk')] at refused'
    cases refused'

/-! ## The outcome -/

theorem outcome_of_no_refusal (s : σ) (accepted : ∀ form ∈ forms, r.refusal? form = none) :
    ((Join.start forms s).run (r.service σ) c).outcome =
      .ok (forms.map (r.linkTo c.recipient.user.id)) :=
  Join.outcome_run_of_grants
    (grants fun form mem => refusal?_eq_none_iff.mp (accepted form mem)) c s

/-- A rehearsal that succeeds has refused nothing, and its links are known beforehand. -/
theorem accepted_of_outcome_ok {urls : List String} {s : σ}
    (h : ((Join.start forms s).run (r.service σ) c).outcome = .ok urls) :
    (∀ form ∈ forms, r.refusal? form = none) ∧ urls = forms.map (r.linkTo c.recipient.user.id) := by
  have accepted (form : String) (mem : form ∈ forms) : r.refusal? form = none := by
    obtain ⟨enrolled, url, minted⟩ := Join.granted_of_outcome_ok (r.answers forms) h form mem
    exact refusal?_eq_none_of_minted enrolled minted
  exact ⟨accepted, Except.ok.inj (h.symm.trans (outcome_of_no_refusal s accepted))⟩

/-- The links are few, or nothing is delayed. -/
def Timely (r : Rehearsal) (forms : List String) : Prop :=
  forms.length ≤ Join.few ∨ ∀ form ∈ forms, r.enrolmentDelay form = 0 ∧ r.mintDelay form = 0

/-- Without delays everything is refused in the first round. -/
theorem eq_zero_of_refusal {round : Nat} {e : DirectiveError}
    (prompt : r.enrolmentDelay form = 0 ∧ r.mintDelay form = 0)
    (refusal : r.refusal? form = some (round, e)) : round = 0 := by
  rw [refusal?, prompt.1, prompt.2] at refusal
  split at refusal
  · exact (Prod.mk.inj (Option.some.inj refusal)).1.symm
  · split at refusal
    · exact (Prod.mk.inj (Option.some.inj refusal)).1.symm
    · cases refusal

/-- A rehearsal fails as the first refusal says. -/
theorem outcome_of_refusedFirst (timely : r.Timely forms) {k round : Nat} {e : DirectiveError}
    (s : σ) (h : r.RefusedFirst forms k round e) :
    ((Join.start forms s).run (r.service σ) c).outcome = .error e := by
  rcases Nat.lt_or_ge Join.few forms.length with many | atMost
  · -- many links fail as the first one that is refused, and without delays all rounds are the same
    have prompt := timely.resolve_left (Nat.not_le.mpr many)
    obtain ⟨⟨form, hk, refusal⟩, least⟩ := h
    cases outcome : ((Join.start forms s).run (r.service σ) c).outcome with
    | ok urls =>
      have accepted := (accepted_of_outcome_ok outcome).1 form (List.mem_of_getElem? hk)
      cases refusal.symm.trans accepted
    | error e' =>
      obtain ⟨k', form', round', hk', refusal', before⟩ := refusedBefore_of_many many outcome
      have first : round = 0 := eq_zero_of_refusal (prompt form (List.mem_of_getElem? hk)) refusal
      have first' : round' = 0 :=
        eq_zero_of_refusal (prompt form' (List.mem_of_getElem? hk')) refusal'
      have le : k ≤ k' := by
        have := least k' form' round' e' hk' refusal'
        omega
      have ge : k' ≤ k := by
        refine Nat.le_of_not_lt fun lt => ?_
        cases refusal.symm.trans (before k lt form hk)
      obtain rfl : k = k' := Nat.le_antisymm le ge
      obtain rfl := Option.some.inj (hk.symm.trans hk')
      cases refusal.symm.trans refusal'
      rfl
  · obtain ⟨earlier, refused⟩ := h.findSome?
    rw [Join.outcome,
      (reached_start r c forms s).run_of_refusal atMost (Nat.zero_le _) earlier refused]

/-- A rehearsal fails iff a refusal comes first, and as this one says. -/
theorem outcome_eq_error_iff (timely : r.Timely forms) {s : σ} {e : DirectiveError} :
    ((Join.start forms s).run (r.service σ) c).outcome = .error e ↔
      ∃ k round, r.RefusedFirst forms k round e := by
  constructor
  · intro error
    have refused : ∃ form ∈ forms, r.refusal? form ≠ none := by
      by_contra accepted
      push Not at accepted
      cases error.symm.trans (outcome_of_no_refusal s accepted)
    obtain ⟨k, round, e', first⟩ := exists_refusedFirst refused
    obtain rfl := Except.error.inj (error.symm.trans (outcome_of_refusedFirst timely s first))
    exact ⟨k, round, first⟩
  · rintro ⟨k, round, first⟩
    exact outcome_of_refusedFirst timely s first

/-- What is refused does not depend on the delays. -/
theorem refusal?_eq_none_of_delays (enrolmentDelays mintDelays : Dict Nat)
    (h : r.refusal? form = none) :
    { r with enrolmentDelays := enrolmentDelays, mintDelays := mintDelays }.refusal? form = none := by
  obtain ⟨enrolled, minted⟩ := refusal?_eq_none_iff.mp h
  exact refusal?_eq_none_iff.mpr ⟨enrolled, minted⟩

/-- A rehearsal that has been told no delays answers at once. -/
theorem prompt_service (h : r.enrolmentDelay form = 0 ∧ r.mintDelay form = 0) :
    (r.service σ).Prompt form where
  enrolment _ _ := h.1
  minting _ _ _ := h.2

end Rehearsal

namespace Node

variable {σ : Type} {service : FormService σ} {c : Context} {links : List DeferredLink} {s : σ}
  {tree : Node}

/-- What has been requested in the second phase is what its join has requested. -/
theorem events_resolve (service : FormService σ) (c : Context) (links : List DeferredLink) (s : σ)
    (tree : Node) : (tree.resolve service c links s).outcome.events =
      ((Join.start (links.map DeferredLink.form) s).run service c).events :=
  (state_resolveBy (Join.run_start_nil service c s) links tree).2

/-- The links of a join without failure are written into the document. -/
theorem resolve_of_outcome_ok {urls : List String}
    (h : ((Join.start (links.map DeferredLink.form) s).run service c).outcome = .ok urls)
    (tree : Node) :
    (tree.resolve service c links s).tree = (tree.writeLinks (links.zip urls)).1 ∧
      (tree.resolve service c links s).outcome.result =
        (tree.writeLinks (links.zip urls)).2.elim (.ok links.length) .error :=
  resolveBy_of_ok h tree

theorem resolve_of_outcome_error {e : DirectiveError}
    (h : ((Join.start (links.map DeferredLink.form) s).run service c).outcome = .error e) :
    (tree.resolve service c links s).outcome.result = .error e ∧
      (tree.resolve service c links s).tree = tree := by
  refine resolveBy_of_error ?_ h
  rintro rfl
  rw [List.map_nil, Join.run_start_nil] at h
  cases h

end Node

namespace Rehearsal

/-- **The outcome of a rehearsal does not depend on its timing.** The join always ends. It succeeds
iff no form is refused, and then the links, and the document that they are written into, are the
same for all delays. Otherwise it fails, and the document stays as it was. If the links are few, or
nothing is delayed, it fails as the refusal says that comes first, by its round and then by the
order of the links. Without delays everything is as if the links were resolved one after the other
until one fails, with all that is requested on the way. -/
theorem resolve_timing {σ : Type} (r : Rehearsal) (c : Context) (links : List DeferredLink) (s : σ)
    (tree : Node) :
    let forms := links.map DeferredLink.form
    let join := (Join.start forms s).run (r.service σ) c
    let resolved := tree.resolve (r.service σ) c links s
    (∃ rounds, join = (fun j => j.round (r.service σ) c)^[rounds] (Join.start forms s) ∧
      (join.failure ≠ none ∨ join.unfinished = [])) ∧
    ((∃ urls, join.outcome = .ok urls) ↔
      ∀ form ∈ forms, form ∉ r.failingMemberships ∧ form ∉ r.failingMints) ∧
    (∀ urls, join.outcome = .ok urls →
      urls = forms.map (r.linkTo c.recipient.user.id) ∧
      resolved.tree = (tree.writeLinks (links.zip urls)).1 ∧
      ∀ enrolmentDelays mintDelays,
        let other := { r with enrolmentDelays := enrolmentDelays, mintDelays := mintDelays }
        ((Join.start forms s).run (other.service σ) c).outcome = .ok urls ∧
          (tree.resolve (other.service σ) c links s).tree = resolved.tree ∧
          (tree.resolve (other.service σ) c links s).outcome.result = resolved.outcome.result) ∧
    (forms.length ≤ 30 ∨ (∀ form ∈ forms, r.enrolmentDelay form = 0 ∧ r.mintDelay form = 0) →
      ∀ e, join.outcome = .error e ↔ ∃ k round, r.RefusedFirst forms k round e) ∧
    (∀ e, join.outcome = .error e → resolved.outcome.result = .error e ∧ resolved.tree = tree) ∧
    ((∀ form ∈ forms, r.enrolmentDelay form = 0 ∧ r.mintDelay form = 0) →
      join.report = inviteInTurn (r.service σ) c 0 forms s ∧
        resolved.outcome.events = join.events) := by
  intro forms join resolved
  refine ⟨Join.exists_rounds_run .., ⟨?_, ?_⟩, ?_, fun timely e => outcome_eq_error_iff timely,
    fun e => Node.resolve_of_outcome_error, fun prompt => ⟨?_, Node.events_resolve ..⟩⟩
  · rintro ⟨urls, ok⟩ form mem
    exact refusal?_eq_none_iff.mp ((accepted_of_outcome_ok ok).1 form mem)
  · intro accepted
    exact ⟨_, outcome_of_no_refusal s fun form mem => refusal?_eq_none_iff.mpr (accepted form mem)⟩
  · intro urls ok
    obtain ⟨accepted, rfl⟩ := accepted_of_outcome_ok ok
    obtain ⟨written, result⟩ := Node.resolve_of_outcome_ok ok tree
    refine ⟨rfl, written, fun enrolmentDelays mintDelays => ?_⟩
    -- the links of the other rehearsal are known in the same way, and they are the same
    let other := { r with enrolmentDelays := enrolmentDelays, mintDelays := mintDelays }
    have okOther := outcome_of_no_refusal (r := other) (c := c) s fun form mem =>
      refusal?_eq_none_of_delays enrolmentDelays mintDelays (accepted form mem)
    obtain ⟨writtenOther, resultOther⟩ := Node.resolve_of_outcome_ok okOther tree
    exact ⟨okOther, writtenOther.trans written.symm, resultOther.trans result.symm⟩
  · exact Join.run_eq_inviteInTurn (fun form mem => prompt_service (prompt form mem)) s

/-- A rehearsal that refuses two links, the second one in an earlier round than the first. -/
def lateMenu : Rehearsal where
  failingMemberships := ["rsvp"]
  failingMints := ["menu"]
  links := .empty
  enrolmentDelays := (Dict.empty.insert "menu" 1).insert "rsvp" 1
  mintDelays := Dict.empty.insert "menu" 1

theorem resolve_timing_lateMenu :
    lateMenu.RefusedFirst ["menu", "rsvp"] 1 1
        (.serviceFailure .ensureMembership "rsvp" (.plain "form 'rsvp' does not exist")) ∧
      (Node.letter.resolve (lateMenu.service Unit) .sample [⟨[0, 2], "menu"⟩, ⟨[0, 3], "rsvp"⟩]
          ()).outcome.result =
        .error (.serviceFailure .ensureMembership "rsvp" (.plain "form 'rsvp' does not exist")) := by
  have first : lateMenu.RefusedFirst ["menu", "rsvp"] 1 1
      (.serviceFailure .ensureMembership "rsvp" (.plain "form 'rsvp' does not exist")) := by
    refine ⟨⟨"rsvp", rfl, rfl⟩, fun k form round e hk refusal => ?_⟩
    match k, hk with
    | 0, rfl =>
      cases refusal
      decide
    | 1, rfl =>
      cases refusal
      decide
  obtain ⟨-, -, -, failure, failed, -⟩ := resolve_timing lateMenu .sample
    [⟨[0, 2], "menu"⟩, ⟨[0, 3], "rsvp"⟩] () Node.letter
  exact ⟨first, (failed _ ((failure (.inl (by decide)) _).mpr ⟨1, 1, first⟩)).1⟩

end Rehearsal

end MailMerge
