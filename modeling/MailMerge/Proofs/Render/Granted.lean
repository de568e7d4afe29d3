import MailMerge.Forms.Rehearsal
import MailMerge.Proofs.Render.Histories

/-!
# Joins whose requests have known answers

If the answers of a service depend on nothing but the user, the form and the publication, then it
can be told before anything is requested what becomes of each link: however the requests interleave
and however long they take, a task holds the answers for its own form. If every request is granted, no
task can fail, and each ends with the link of its own form. If one is refused, its task cannot end
with a link, and so the join cannot hand out its links.

## Main definitions

* `FormService.Answers`: a service whose answers for some forms are known.
* `FormService.Grants`: a service that grants every request for some forms.
* `Stage.Answered`: how far a task has come with known answers.
* `Join.Answered`: a join that has been given the known answers so far.

## Main results

* `answered_poll`: what one poll of a task keeps.
* `Join.Answered.follow`: what any interleaving keeps.
* `Join.granted_of_outcome_ok`: a join that hands out its links has been granted everything.
* `Join.outcome_run_of_grants`: the links that a join hands out.
-/

namespace MailMerge

variable {σ : Type} {service : FormService σ} {c : Context}

/-! ## Services -/

/-- A service whose answers for some forms are known: whether it enrols anyone depends on the form,
and a link on the user, the form and the publication. How long a request takes is left open. -/
structure FormService.Answers (service : FormService σ) (forms : List String)
    (enrolment : String → Except Failure Unit)
    (minting : (user form pub : String) → Except Failure String) : Prop where
  enrolled : ∀ form ∈ forms, ∀ member s,
    (service.ensureMembership member form s).answer = enrolment form
  minted : ∀ form ∈ forms, ∀ user pub s,
    (service.mintInviteLink user form pub s).answer = minting user form pub

/-- A service that grants every request for some forms, with a link that depends on nothing but the
user, the form and the publication. How long a request takes is left open. -/
structure FormService.Grants (service : FormService σ) (forms : List String)
    (link : (user form pub : String) → String) : Prop where
  enrolled : ∀ form ∈ forms, ∀ member s, (service.ensureMembership member form s).answer = .ok ()
  minted : ∀ form ∈ forms, ∀ user pub s,
    (service.mintInviteLink user form pub s).answer = .ok (link user form pub)

theorem FormService.Grants.mono {forms fewer : List String}
    {link : (user form pub : String) → String} (h : service.Grants forms link)
    (subset : fewer ⊆ forms) : service.Grants fewer link :=
  ⟨fun form mem => h.enrolled form (subset mem), fun form mem => h.minted form (subset mem)⟩

theorem FormService.Grants.answers {forms : List String}
    {link : (user form pub : String) → String} (h : service.Grants forms link) :
    service.Answers forms (fun _ => .ok ()) fun user form pub => .ok (link user form pub) :=
  ⟨h.enrolled, h.minted⟩

/-- The link to a form that the recipient gets for the publication. -/
def Context.linkTo (c : Context) (link : (user form pub : String) → String) (form : String) :
    String :=
  link c.recipient.user.id form c.pub.id

/-- The answers of a rehearsal are known. -/
theorem Rehearsal.answers (r : Rehearsal) (forms : List String) :
    (r.service σ).Answers forms r.enrol fun user form _ => r.mint user form :=
  ⟨fun _ _ _ _ => rfl, fun _ _ _ _ _ => rfl⟩

/-- A rehearsal grants the forms that it has not been told to refuse. -/
theorem Rehearsal.grants {r : Rehearsal} {forms : List String}
    (accepted : ∀ form ∈ forms, form ∉ r.failingMemberships ∧ form ∉ r.failingMints) :
    (r.service σ).Grants forms fun user form _ => r.linkTo user form where
  enrolled form mem _ _ := if_neg (accepted form mem).1
  minted form mem _ _ _ := if_neg (accepted form mem).2

/-! ## Tasks -/

/-- How far the task for a form has come if its requests are answered as known. -/
def Stage.Answered (form : String) (enrolled : Except Failure Unit)
    (minted : Except Failure String) : Stage → Prop
  | .waiting => True
  | .enrolling _ answer => answer = enrolled
  | .minting _ answer => enrolled = .ok () ∧ answer = minted
  | .finished url => enrolled = .ok () ∧ minted = .ok url
  | .failed e =>
    (∃ source, enrolled = .error source ∧ e = .serviceFailure .ensureMembership form source) ∨
      enrolled = .ok () ∧
        ∃ source, minted = .error source ∧ e = .serviceFailure .mintInviteLink form source

section Poll

variable {enrolment : String → Except Failure Unit}
  {minting : (user form pub : String) → Except Failure String} {forms : List String}
  {form : String}

theorem answered_mint (form : String) (s : σ) {enrolled : Except Failure Unit}
    (granted : enrolled = .ok ()) (minted : Except Failure String) (left : Nat) :
    (Polled.mint c form s minted left).stage.Answered form enrolled minted := by
  cases left with
  | succ left => exact ⟨granted, rfl⟩
  | zero =>
    cases minted with
    | ok url => exact ⟨granted, rfl⟩
    | error source => exact .inr ⟨granted, source, rfl, rfl⟩

theorem answered_startMint (h : service.Answers forms enrolment minting) (mem : form ∈ forms)
    (granted : enrolment form = .ok ()) (s : σ) :
    (Polled.startMint service c form s).stage.Answered form (enrolment form)
      (minting c.recipient.user.id form c.pub.id) := by
  rw [Polled.startMint, h.minted form mem]
  exact answered_mint form _ granted _ _

theorem answered_enrol (h : service.Answers forms enrolment minting) (mem : form ∈ forms) (s : σ)
    (left : Nat) :
    (Polled.enrol service c form s (enrolment form) left).stage.Answered form (enrolment form)
      (minting c.recipient.user.id form c.pub.id) := by
  cases left with
  | succ left => rfl
  | zero =>
    cases answer : enrolment form with
    | error source => exact .inl ⟨source, rfl, rfl⟩
    | ok _ =>
      have answered := answered_startMint (c := c) h mem answer s
      rw [answer] at answered
      exact answered

/-- A task that has been given the known answers is given the next one. -/
theorem answered_poll (h : service.Answers forms enrolment minting) {t : Task}
    (mem : t.form ∈ forms)
    (answered : t.stage.Answered t.form (enrolment t.form)
      (minting c.recipient.user.id t.form c.pub.id)) (s : σ) :
    (t.poll service c s).stage.Answered t.form (enrolment t.form)
      (minting c.recipient.user.id t.form c.pub.id) := by
  obtain ⟨form, stage⟩ := t
  cases stage with
  | waiting =>
    rw [Task.poll, Polled.startEnrol, h.enrolled form mem]
    exact answered_enrol h mem _ _
  | enrolling left answer =>
    obtain rfl : answer = enrolment form := answered
    exact answered_enrol h mem s left
  | minting left answer =>
    obtain ⟨granted, known⟩ :
      enrolment form = .ok () ∧ answer = minting c.recipient.user.id form c.pub.id := answered
    subst known
    exact answered_mint form s granted _ left
  | finished url => exact answered
  | failed e => exact answered

end Poll

/-! ## Joins -/

namespace Join

variable {enrolment : String → Except Failure Unit}
  {minting : (user form pub : String) → Except Failure String} {forms : List String}
  {link : (user form pub : String) → String} {j : Join σ}

/-- A join for some forms that has been given the known answers so far. -/
structure Answered (c : Context) (forms : List String)
    (enrolment : String → Except Failure Unit)
    (minting : (user form pub : String) → Except Failure String) (j : Join σ) : Prop where
  sound : j.Sound c forms
  tasks : ∀ t ∈ j.tasks,
    t.stage.Answered t.form (enrolment t.form) (minting c.recipient.user.id t.form c.pub.id)

theorem answered_start (c : Context) (forms : List String)
    (enrolment : String → Except Failure Unit)
    (minting : (user form pub : String) → Except Failure String) (s : σ) :
    (start forms s).Answered c forms enrolment minting where
  sound := sound_start c forms s
  tasks t mem := by
    obtain ⟨form, -, rfl⟩ := List.mem_map.mp mem
    trivial

theorem Answered.poll (h : j.Answered c forms enrolment minting)
    (answers : service.Answers forms enrolment minting) (i : Nat) :
    (j.poll service c i).Answered c forms enrolment minting := by
  have sound := h.sound.poll service i
  rcases poll_cases service c j i with same | ⟨t, -, ht, -, polled⟩
  · rwa [same]
  · have mem : t ∈ j.tasks := List.mem_of_getElem? ht
    have known : t.form ∈ forms := h.sound.ownForm ▸ List.mem_map_of_mem mem
    have answered := answered_poll answers known (h.tasks t mem) j.state
    rw [polled] at sound ⊢
    refine ⟨sound, fun u hu => ?_⟩
    rcases List.mem_or_eq_of_mem_set hu with hu | rfl
    · exact h.tasks u hu
    · exact answered

/-- Whatever the interleaving is, the answers are the known ones. -/
theorem Answered.follow (h : j.Answered c forms enrolment minting)
    (answers : service.Answers forms enrolment minting) (schedule : List Nat) :
    (j.follow service c schedule).Answered c forms enrolment minting := by
  induction schedule generalizing j with
  | nil => exact h
  | cons i schedule ih => exact ih (h.poll answers i)

theorem answered_run (answers : service.Answers forms enrolment minting) (c : Context) (s : σ) :
    ((start forms s).run service c).Answered c forms enrolment minting := by
  obtain ⟨schedule, run, -⟩ := exists_schedule_run service c (start forms s)
  rw [run]
  exact (answered_start c forms enrolment minting s).follow answers schedule

/-- A join that hands out its links has been granted everything. -/
theorem granted_of_outcome_ok (answers : service.Answers forms enrolment minting) {c : Context}
    {s : σ} {urls : List String} (h : ((start forms s).run service c).outcome = .ok urls) :
    ∀ form ∈ forms, enrolment form = .ok () ∧
      ∃ url, minting c.recipient.user.id form c.pub.id = .ok url := by
  have answered := answered_run answers c s
  obtain ⟨schedule, -, ends⟩ := exists_schedule_run service c (start forms s)
  have ok : ((start forms s).run service c).failure = none := failure_eq_none_of_outcome h
  intro form mem
  obtain ⟨t, here, rfl⟩ := List.mem_map.mp (answered.sound.ownForm.symm ▸ mem)
  -- the task has ended with a link, so both of its requests have been granted
  obtain ⟨url, stage⟩ := exists_finished_of_ended ok (ends ok) t here
  have granted := answered.tasks t here
  rw [stage] at granted
  exact ⟨granted.1, url, granted.2⟩

/-- If everything is granted, nothing fails. -/
theorem Answered.failure_eq_none
    (h : j.Answered c forms (fun _ => .ok ()) fun user form pub => .ok (link user form pub)) :
    j.failure = none := by
  refine Join.failure_eq_none fun t mem => ?_
  refine Option.eq_none_iff_forall_ne_some.mpr fun e failed => ?_
  have refused := h.tasks t mem
  rw [Stage.error?_eq_some_iff.mp failed] at refused
  rcases refused with ⟨source, refused, -⟩ | ⟨-, source, refused, -⟩ <;> cases refused

/-- The links that a join hands out if everything is granted. -/
theorem outcome_run_of_grants (grants : service.Grants forms link) (c : Context) (s : σ) :
    ((start forms s).run service c).outcome =
      .ok (forms.map (c.linkTo link)) := by
  have answered := answered_run grants.answers c s
  obtain ⟨schedule, -, ends⟩ := exists_schedule_run service c (start forms s)
  have ok := answered.failure_eq_none
  have finished (t : Task) (mem : t ∈ ((start forms s).run service c).tasks) :
      t.stage.url? = some (c.linkTo link t.form) := by
    obtain ⟨url, stage⟩ := exists_finished_of_ended ok (ends ok) t mem
    have granted := answered.tasks t mem
    rw [stage] at granted ⊢
    exact congrArg some (Except.ok.inj granted.2).symm
  have forms : forms = ((start forms s).run service c).tasks.map Task.form :=
    answered.sound.ownForm.symm
  rw [Join.outcome, ok, List.filterMap_congr finished]
  refine congrArg Except.ok ?_
  conv_rhs => rw [forms, List.map_map]
  exact congrFun List.filterMap_eq_map _

end Join

end MailMerge
