import MailMerge.Proofs.Render.Histories

/-!
# Where minted links come from

A join either ends in the failure of a request or hands out one link per task. Each of these links
has been answered to the minting request of its own task: at some moment of the interleaving a poll
of this very task has made a request for its form, and the link is the answer. No answer ever ends
up with another task, also when several tasks ask for the same form.

## Main definitions

* `Stage.answered?`: the link that a task has been answered.
* `Task.minting?`: the minting request that a poll makes.
* `Join.Minted`: a link has been answered to the request of a task.

## Main results

* `answered?_poll`: a poll keeps the link of its task or gets it from the service.
* `minted_of_answered?`: every link has been answered to the request of its task.
* `outcome_run`: a join ends in a failed request or with a minted link for every form.
-/

namespace MailMerge

variable {σ : Type} {service : FormService σ} {c : Context}

/-- The link that a task has been answered, whether it has taken notice or not. -/
def Stage.answered? : Stage → Option String
  | .minting _ (.ok url) | .finished url => some url
  | _ => none

/-- The minting request that a poll of a task makes, if it makes one. -/
def Task.minting? (service : FormService σ) (c : Context) (t : Task) (s : σ) :
    Option (Pending σ String) :=
  match t.stage with
  | .waiting =>
    let request := service.ensureMembership c.recipient.id t.form s
    match request.delay, request.answer with
    | 0, .ok _ =>
      some (service.mintInviteLink c.recipient.user.id t.form c.pub.id request.state)
    | _, _ => none
  | .enrolling 0 (.ok _) =>
    some (service.mintInviteLink c.recipient.user.id t.form c.pub.id s)
  | _ => none

/-! ## One poll -/

theorem answered?_mint (form : String) (s : σ) (answer : Except Failure String) (left : Nat) :
    (Polled.mint c form s answer left).stage.answered? = answer.toOption := by
  cases left <;> cases answer <;> rfl

theorem answered?_startMint (form : String) (s : σ) :
    (Polled.startMint service c form s).stage.answered? =
      (service.mintInviteLink c.recipient.user.id form c.pub.id s).answer.toOption :=
  answered?_mint form _ _ _

/-- A poll keeps the link of its task or gets it from the service. -/
theorem answered?_poll {t : Task} {s : σ} {url : String}
    (h : (t.poll service c s).stage.answered? = some url) :
    t.stage.answered? = some url ∨
      ∃ request, t.minting? service c s = some request ∧ request.answer = .ok url := by
  have requested {request : Pending σ String} (h : request.answer.toOption = some url) :
      request.answer = .ok url := by
    cases answer : request.answer with
    | ok url' => rw [answer] at h; exact congrArg Except.ok (Option.some.inj h)
    | error failure => rw [answer] at h; cases h
  obtain ⟨form, stage⟩ := t
  cases stage with
  | waiting =>
    -- an enrolment that is ready at once and succeeds is followed by minting in the same poll
    right
    simp only [Task.poll, Polled.startEnrol, Polled.after] at h
    simp only [Task.minting?]
    cases delay : (service.ensureMembership c.recipient.id form s).delay with
    | succ left => rw [delay] at h; cases h
    | zero =>
      cases answer : (service.ensureMembership c.recipient.id form s).answer with
      | error failure => rw [delay, answer] at h; cases h
      | ok _ =>
        rw [delay, answer] at h
        exact ⟨_, rfl, requested ((answered?_startMint form _).symm.trans h)⟩
  | enrolling left answer =>
    right
    cases left with
    | succ left => cases h
    | zero =>
      cases answer with
      | error failure => cases h
      | ok _ => exact ⟨_, rfl, requested ((answered?_startMint form s).symm.trans h)⟩
  | minting left answer =>
    -- the request has been answered when it was made, waiting does not change the answer
    left
    rw [← h, Task.poll, answered?_mint]
    cases answer <;> rfl
  | finished url' => exact .inl h
  | failed e => cases h

/-! ## All tasks -/

namespace Join

variable {forms : List String} {j : Join σ}

/-- At some moment of an interleaving a poll of the task with index `k`, which is for `form`, makes
a minting request, and the answer is `url`. -/
def Minted (service : FormService σ) (c : Context) (j : Join σ) (schedule : List Nat) (k : Nat)
    (form url : String) : Prop :=
  ∃ earlier later t request, schedule = earlier ++ k :: later ∧
    (j.follow service c earlier).failure = none ∧
    (j.follow service c earlier).tasks[k]? = some t ∧ t.form = form ∧
    t.minting? service c (j.follow service c earlier).state = some request ∧
    request.answer = .ok url

theorem Minted.append {schedule : List Nat} {k : Nat} {form url : String}
    (h : j.Minted service c schedule k form url) (more : List Nat) :
    j.Minted service c (schedule ++ more) k form url := by
  obtain ⟨earlier, later, t, request, rfl, rest⟩ := h
  exact ⟨earlier, later ++ more, t, request, by simp, rest⟩

/-- Every link has been answered to the request of its task. -/
theorem minted_of_answered? (service : FormService σ) (c : Context) {forms : List String} {s : σ}
    {schedule : List Nat} {k : Nat} {t : Task} {url : String}
    (ht : ((start forms s).follow service c schedule).tasks[k]? = some t)
    (h : t.stage.answered? = some url) :
    (start forms s).Minted service c schedule k t.form url := by
  -- the induction is on the last poll, so that earlier moments stay moments of the interleaving
  induction schedule using List.reverseRecOn generalizing t with
  | nil =>
    obtain ⟨form, -, rfl⟩ := List.mem_map.mp (List.mem_of_getElem? ht)
    cases h
  | append_singleton schedule i ih =>
    rw [follow_append] at ht
    rcases poll_cases service c ((start forms s).follow service c schedule) i with
      same | ⟨u, ok, hu, -, polled⟩
    · exact (ih (by rwa [← same]) h).append [i]
    · change (((start forms s).follow service c schedule).poll service c i).tasks[k]? = some t at ht
      rw [polled, record, List.getElem?_set] at ht
      by_cases eq : i = k
      · -- the task has just been polled
        subst eq
        rw [if_pos rfl, if_pos (List.getElem?_eq_some_iff.mp hu).1] at ht
        obtain rfl := Option.some.inj ht
        rcases answered?_poll h with before | ⟨request, made, answer⟩
        · exact (ih hu before).append [i]
        · exact ⟨schedule, [], u, request, rfl, ok, hu, rfl, made, answer⟩
      · rw [if_neg eq] at ht
        exact (ih ht h).append [i]

/-- When a join has ended without failure, every task hands out the link it was answered. -/
theorem Sound.outcome_eq_ok (h : j.Sound c forms) (ok : j.failure = none)
    (done : j.unfinished = []) :
    ∃ urls, j.outcome = .ok urls ∧ urls.length = forms.length ∧
      ∀ (k : Nat) (url : String), urls[k]? = some url →
        ∃ t, j.tasks[k]? = some t ∧ t.stage.answered? = some url := by
  have finished (t : Task) (mem : t ∈ j.tasks) :
      t.stage.url? = some (t.stage.url?.getD "") ∧ t.stage.answered? = t.stage.url? := by
    obtain ⟨url, stage⟩ := exists_finished_of_ended ok done t mem
    rw [stage]
    exact ⟨rfl, rfl⟩
  refine ⟨j.tasks.map fun t => t.stage.url?.getD "", ?_, ?_, ?_⟩
  · rw [outcome, ok]
    refine congrArg Except.ok ?_
    rw [List.filterMap_congr fun t mem => (finished t mem).1]
    exact congrFun List.filterMap_eq_map j.tasks
  · rw [List.length_map, ← h.ownForm, List.length_map]
  · intro k url hk
    rw [List.getElem?_map] at hk
    obtain ⟨t, ht, eq⟩ := Option.map_eq_some_iff.mp hk
    obtain ⟨url?, answered⟩ := finished t (List.mem_of_getElem? ht)
    exact ⟨t, ht, by rw [answered, url?, eq]⟩

/-- A join ends in a failed request or with a minted link for every form. -/
theorem outcome_run (service : FormService σ) (c : Context) (forms : List String) (s : σ) :
    (∃ operation form source, form ∈ forms ∧
      ((start forms s).run service c).outcome = .error (.serviceFailure operation form source)) ∨
    ∃ urls schedule, ((start forms s).run service c).outcome = .ok urls ∧
      urls.length = forms.length ∧
      (start forms s).run service c = (start forms s).follow service c schedule ∧
      ∀ (k : Nat) (form url : String), forms[k]? = some form → urls[k]? = some url →
        (start forms s).Minted service c schedule k form url := by
  obtain ⟨schedule, run, ends⟩ := exists_schedule_run service c (start forms s)
  have sound := (sound_start c forms s).follow service schedule
  cases failure : ((start forms s).run service c).failure with
  | some e =>
    left
    have outcome : ((start forms s).run service c).outcome = .error e := by
      rw [Join.outcome, failure]
    rw [run] at failure
    obtain ⟨operation, form, source, mem, rfl⟩ := sound.explained failure
    exact ⟨operation, form, source, mem, outcome⟩
  | none =>
    right
    have done := ends failure
    rw [run] at failure done
    obtain ⟨urls, outcome, length, minted⟩ := sound.outcome_eq_ok failure done
    refine ⟨urls, schedule, by rw [run, outcome], length, run, ?_⟩
    intro k form url hk hurl
    obtain ⟨t, ht, answered⟩ := minted k url hurl
    have own : forms[k]? = some t.form := by rw [← sound.ownForm, List.getElem?_map, ht]; rfl
    obtain rfl := Option.some.inj (hk.symm.trans own)
    exact minted_of_answered? service c ht answered

end Join

end MailMerge
