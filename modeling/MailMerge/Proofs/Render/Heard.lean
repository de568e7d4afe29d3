import MailMerge.Proofs.Render.Calls

/-!
# What the links of a join have been answered

A service may keep a log of its answers in its state. Then the answers of a join can be told from
the numbers of its calls, in every interleaving. The stage of a task holds the answers to the calls
of its own link, and a failure of the join is the answer to the last call of one of the links.

## Main definitions

* `Answer`, `FormService.Logs`: a service that keeps a log of its answers.
* `Join.asked`, `Join.numbersOf`: the calls of a join, and the numbers of those for one link.
* `Stage.Heard`: how the stage of a task fits the log and the numbers of its calls.
* `Join.Heard`: the invariant of all joins with such a service.

## Main results

* `hears_poll`: what one poll hears.
* `Heard.follow`: the invariant is kept in every interleaving.
* `Heard.finished`: the two calls of a link that has been resolved, and their answers.
* `Heard.exists_refusal`: the call that a failure answers.
-/

namespace MailMerge

variable {σ : Type}

/-- The answer to a call. -/
inductive Answer where
  | enrolment (result : Except Failure Unit)
  | minting (result : Except Failure String)

/-- A service that keeps a log of its answers in its state: every call that is made while the state
satisfies `P` adds its own answer, and leaves such a state. -/
structure FormService.Logs (service : FormService σ) (log : σ → List Answer) (P : σ → Prop) :
    Prop where
  enrolment : ∀ member form s, P s →
    P (service.ensureMembership member form s).state ∧
      log (service.ensureMembership member form s).state =
        log s ++ [.enrolment (service.ensureMembership member form s).answer]
  minting : ∀ user form pub s, P s →
    P (service.mintInviteLink user form pub s).state ∧
      log (service.mintInviteLink user form pub s).state =
        log s ++ [.minting (service.mintInviteLink user form pub s).answer]

/-- Whether a call begins with what happens. -/
def Happening.isCall : Happening → Bool
  | .enrolmentStarted _ | .mintingStarted _ _ => true
  | _ => false

/-- The events with which calls begin, in order. -/
def Event.calls (events : List Event) : List Event := events.filter fun e => e.happening.isCall

/-- The operation that a call asks for. -/
def Happening.operation? : Happening → Option Operation
  | .enrolmentStarted _ => some .ensureMembership
  | .mintingStarted _ _ => some .mintInviteLink
  | _ => none

/-- What the task for a form has heard at a stage if its calls have the given numbers: the answers
to them that are in the log. If it has failed, the last one of its requests has been refused. -/
inductive Stage.Heard (log : List Answer) (form : String) : Stage → List Nat → Prop
  | waiting : Heard log form .waiting []
  | enrolling (left a : Nat) (answer : Except Failure Unit)
    (first : log[a]? = some (.enrolment answer)) : Heard log form (.enrolling left answer) [a]
  | minting (left a b : Nat) (answer : Except Failure String)
    (first : log[a]? = some (.enrolment (.ok ()))) (second : log[b]? = some (.minting answer)) :
    Heard log form (.minting left answer) [a, b]
  | finished (a b : Nat) (url : String) (first : log[a]? = some (.enrolment (.ok ())))
    (second : log[b]? = some (.minting (.ok url))) : Heard log form (.finished url) [a, b]
  | notEnrolled (a : Nat) (source : Failure)
    (first : log[a]? = some (.enrolment (.error source))) :
    Heard log form (.failed (.serviceFailure .ensureMembership form source)) [a]
  | notMinted (a b : Nat) (source : Failure) (first : log[a]? = some (.enrolment (.ok ())))
    (second : log[b]? = some (.minting (.error source))) :
    Heard log form (.failed (.serviceFailure .mintInviteLink form source)) [a, b]

theorem getElem?_of_prefix {α : Type} {l l' : List α} (h : l <+: l') {i : Nat} {a : α}
    (at_i : l[i]? = some a) : l'[i]? = some a := by
  obtain ⟨more, rfl⟩ := h
  rw [List.getElem?_append_left (List.getElem?_eq_some_iff.mp at_i).1]
  exact at_i

/-- What has been heard stays heard when the log grows. -/
theorem Stage.Heard.mono {log log' : List Answer} (grown : log <+: log') {form : String}
    {stage : Stage} {numbers : List Nat} (heard : stage.Heard log form numbers) :
    stage.Heard log' form numbers := by
  have still {i : Nat} {a : Answer} : log[i]? = some a → log'[i]? = some a :=
    getElem?_of_prefix grown
  cases heard with
  | waiting => exact .waiting
  | enrolling left a answer first => exact .enrolling left a answer (still first)
  | minting left a b answer first second =>
    exact .minting left a b answer (still first) (still second)
  | finished a b url first second => exact .finished a b url (still first) (still second)
  | notEnrolled a source first => exact .notEnrolled a source (still first)
  | notMinted a b source first second =>
    exact .notMinted a b source (still first) (still second)

/-! ## Numbers of elements -/

section Numbers

variable {α β : Type}

theorem map_getElem?_findIdxs (p : α → Bool) (l : List α) :
    ((l.findIdxs p).map fun i => l[i]?) = (l.filter p).map some := by
  refine List.ext_getElem (by simp [List.countP_eq_length_filter]) fun i hi hi' => ?_
  simp only [List.length_map] at hi'
  simp [List.getElem_filter_eq_getElem_getElem_findIdxs hi']

theorem getElem?_filterMap_of_isSome {f : α → Option β} {l : List α}
    (h : ∀ a ∈ l, (f a).isSome = true) (i : Nat) : (l.filterMap f)[i]? = l[i]?.bind f := by
  induction l generalizing i with
  | nil => rfl
  | cons a l ih =>
    obtain ⟨b, hb⟩ := Option.isSome_iff_exists.mp (h a List.mem_cons_self)
    rw [List.filterMap_cons_some hb]
    cases i with
    | zero => exact hb.symm
    | succ i => exact ih (fun a mem => h a (List.mem_cons_of_mem _ mem)) i

/-- The number of an element of a filtered list tells how many have been kept before it. -/
theorem exists_split_of_getElem?_filter {p : α → Bool} {l : List α} {i : Nat} {a : α}
    (h : (l.filter p)[i]? = some a) :
    ∃ before after, l = before ++ a :: after ∧ (before.filter p).length = i := by
  induction l generalizing i with
  | nil => cases h
  | cons x l ih =>
    cases keep : p x with
    | false =>
      rw [List.filter_cons_of_neg (by simp [keep])] at h
      obtain ⟨before, after, rfl, count⟩ := ih h
      exact ⟨x :: before, after, rfl, by rwa [List.filter_cons_of_neg (by simp [keep])]⟩
    | true =>
      rw [List.filter_cons_of_pos keep] at h
      cases i with
      | zero => exact ⟨[], l, by rw [Option.some.inj h]; rfl, rfl⟩
      | succ i =>
        obtain ⟨before, after, rfl, count⟩ := ih h
        refine ⟨x :: before, after, rfl, ?_⟩
        rw [List.filter_cons_of_pos keep, List.length_cons, count]

end Numbers

/-! ## One poll of one task -/

/-- A poll of the task for a form, `old` being the log before it and `numbers` those of the calls
that had been made for the task: the calls that it makes have the next numbers and are in the log. -/
structure Polled.Hears (p : Polled σ) (log : σ → List Answer) (P : σ → Prop) (form : String)
    (old : List Answer) (numbers : List Nat) : Prop where
  state : P p.state
  grown : old <+: log p.state
  length : (log p.state).length = old.length + p.events.countP Happening.isCall
  stage : p.stage.Heard (log p.state) form
    (numbers ++ List.range' old.length (p.events.countP Happening.isCall))

section Poll

variable {service : FormService σ} {log : σ → List Answer} {P : σ → Prop} {s : σ}

/-- A poll that makes no call. -/
theorem Polled.Hears.silent {p : Polled σ} {form : String} {numbers : List Nat} (hs : P p.state)
    (silent : p.events.countP Happening.isCall = 0)
    (heard : p.stage.Heard (log p.state) form numbers) :
    p.Hears log P form (log p.state) numbers := by
  refine ⟨hs, List.prefix_rfl, by rw [silent]; rfl, ?_⟩
  rw [silent, List.range'_zero, List.append_nil]
  exact heard

/-- What has been answered before the rest of a poll has been answered in the poll. -/
theorem Polled.Hears.after {form : String} {old : List Answer} {numbers : List Nat}
    {events : List Happening} {p : Polled σ} (new : List Answer)
    (count : new.length = events.countP Happening.isCall)
    (h : p.Hears log P form (old ++ new) (numbers ++ List.range' old.length new.length))
    (notices : List Notice) : (p.after events notices).Hears log P form old numbers := by
  obtain ⟨state, grown, length, stage⟩ := h
  have all : (p.after events notices).events.countP Happening.isCall =
      new.length + p.events.countP Happening.isCall := by
    rw [Polled.after, List.countP_append, count]
  refine ⟨state, (List.prefix_append old new).trans grown, ?_, ?_⟩
  · rw [all, ← Nat.add_assoc, ← List.length_append]
    exact length
  · rw [all, ← List.range'_append_1, ← List.append_assoc]
    rw [List.length_append] at stage
    exact stage

theorem hears_mint (c : Context) (form : String) (hs : P s) {a b : Nat}
    {answer : Except Failure String} (left : Nat) (first : (log s)[a]? = some (.enrolment (.ok ())))
    (second : (log s)[b]? = some (.minting answer)) :
    (Polled.mint c form s answer left).Hears log P form (log s) [a, b] := by
  cases left with
  | succ left => exact .silent hs rfl (.minting left a b answer first second)
  | zero =>
    cases answer with
    | ok url => exact .silent hs rfl (.finished a b url first second)
    | error source => exact .silent hs rfl (.notMinted a b source first second)

theorem hears_startMint (h : service.Logs log P) (c : Context) (form : String) (hs : P s) {a : Nat}
    (first : (log s)[a]? = some (.enrolment (.ok ()))) :
    (Polled.startMint service c form s).Hears log P form (log s) [a] := by
  obtain ⟨after, logged⟩ := h.minting c.recipient.user.id form c.pub.id s hs
  let request := service.mintInviteLink c.recipient.user.id form c.pub.id s
  have still : (log request.state)[a]? = some (.enrolment (.ok ())) := by
    rw [logged]
    exact getElem?_of_prefix (List.prefix_append _ _) first
  have next : (log request.state)[(log s).length]? = some (.minting request.answer) := by
    rw [logged, List.getElem?_concat_length]
  have minted := hears_mint c form after request.delay still next
  rw [logged] at minted
  exact Polled.Hears.after [_] rfl minted _

theorem hears_enrol (h : service.Logs log P) (c : Context) (form : String) (hs : P s) {a : Nat}
    {answer : Except Failure Unit} (left : Nat) (first : (log s)[a]? = some (.enrolment answer)) :
    (Polled.enrol service c form s answer left).Hears log P form (log s) [a] := by
  cases left with
  | succ left => exact .silent hs rfl (.enrolling left a answer first)
  | zero =>
    cases answer with
    | ok _ =>
      -- that the enrolment has ended is no call
      have started := hears_startMint h c form hs first
      rw [← List.append_nil (log s), ← List.append_nil [a]] at started
      exact Polled.Hears.after [] rfl started []
    | error source => exact .silent hs rfl (.notEnrolled a source first)

theorem hears_startEnrol (h : service.Logs log P) (c : Context) (form : String) (hs : P s) :
    (Polled.startEnrol service c form s).Hears log P form (log s) [] := by
  obtain ⟨after, logged⟩ := h.enrolment c.recipient.id form s hs
  let request := service.ensureMembership c.recipient.id form s
  have next : (log request.state)[(log s).length]? = some (.enrolment request.answer) := by
    rw [logged, List.getElem?_concat_length]
  have enrolled := hears_enrol h c form after request.delay next
  rw [logged] at enrolled
  exact Polled.Hears.after [_] rfl enrolled _

/-- What one poll hears: the calls that it makes have the next numbers, and the task holds the
answers to its own calls. -/
theorem hears_poll (h : service.Logs log P) (c : Context) {t : Task} {numbers : List Nat}
    (hs : P s) (heard : t.stage.Heard (log s) t.form numbers) :
    (t.poll service c s).Hears log P t.form (log s) numbers := by
  obtain ⟨form, stage⟩ := t
  dsimp only at heard
  cases heard with
  | waiting => exact hears_startEnrol h c form hs
  | enrolling left a answer first => exact hears_enrol h c form hs left first
  | minting left a b answer first second => exact hears_mint c form hs left first second
  | finished a b url first second => exact .silent hs rfl (.finished a b url first second)
  | notEnrolled a source first => exact .silent hs rfl (.notEnrolled a source first)
  | notMinted a b source first second => exact .silent hs rfl (.notMinted a b source first second)

end Poll

/-! ## All tasks -/

namespace Join

/-- The events with which the calls of a join begin. -/
def asked (j : Join σ) : List Event := Event.calls j.events

/-- The numbers of the calls for one link. -/
def numbersOf (j : Join σ) (k : Nat) : List Nat := j.asked.findIdxs fun e => e.link = k

/-- The invariant of a join whose service keeps a log: it has one answer for each call, and every
task holds the answers to its own calls. -/
structure Heard (log : σ → List Answer) (P : σ → Prop) (j : Join σ) : Prop where
  state : P j.state
  answered : (log j.state).length = j.asked.length
  tasks : ∀ (k : Nat) (t : Task), j.tasks[k]? = some t →
    t.stage.Heard (log j.state) t.form (j.numbersOf k)

variable {service : FormService σ} {log : σ → List Answer} {P : σ → Prop} {c : Context}
  {forms : List String} {j : Join σ}

theorem heard_start (forms : List String) {s : σ} (hs : P s) (empty : log s = []) :
    (start forms s).Heard log P where
  state := hs
  answered := congrArg List.length empty
  tasks k t ht := by
    obtain ⟨form, -, rfl⟩ := List.mem_map.mp (List.mem_of_getElem? ht)
    exact .waiting

theorem asked_record (j : Join σ) (i : Nat) (t : Task) (p : Polled σ) :
    (j.record i t p).asked =
      j.asked ++ (p.events.filter Happening.isCall).map fun h => ⟨i, t.form, h⟩ := by
  rw [asked, asked, Event.calls, Event.calls, record, List.filter_append, List.filter_map]
  rfl

theorem length_asked_record (j : Join σ) (i : Nat) (t : Task) (p : Polled σ) :
    (j.record i t p).asked.length = j.asked.length + p.events.countP Happening.isCall := by
  rw [asked_record, List.length_append, List.length_map, List.countP_eq_length_filter]

/-- The calls of a poll have the next numbers, and they are calls for its own link. -/
theorem numbersOf_record (j : Join σ) (i : Nat) (t : Task) (p : Polled σ) (k : Nat) :
    (j.record i t p).numbersOf k =
      j.numbersOf k ++
        if i = k then List.range' j.asked.length (p.events.countP Happening.isCall) else [] := by
  have all (l : List Happening) (n : Nat) (yes : Bool) :
      l.findIdxs (fun _ => yes) n = if yes then List.range' n l.length else [] := by
    induction l generalizing n with
    | nil => cases yes <;> rfl
    | cons h l ih => cases yes <;> simp_all [List.range'_succ]
  rw [numbersOf, numbersOf, asked_record, List.findIdxs_append, List.findIdxs_map, Nat.zero_add,
    List.countP_eq_length_filter]
  refine congrArg (_ ++ ·) ((all _ _ (decide (i = k))).trans ?_)
  simp

/-- Polling a task keeps the invariant. -/
theorem Heard.record (heard : j.Heard log P) (h : service.Logs log P) (c : Context)
    {i : Nat} {t : Task} (ht : j.tasks[i]? = some t) :
    (j.record i t (t.poll service c j.state)).Heard log P := by
  obtain ⟨lt, -⟩ := List.getElem?_eq_some_iff.mp ht
  obtain ⟨state, grown, length, stage⟩ := hears_poll h c heard.state (heard.tasks i t ht)
  constructor
  case state => exact state
  case answered =>
    rw [length_asked_record, ← heard.answered]
    exact length
  case tasks =>
    intro k u hu
    rw [numbersOf_record]
    rw [Join.record, List.getElem?_set] at hu
    by_cases eq : i = k
    · -- the numbers of the polled task are the ones that it had and the new ones
      subst eq
      rw [if_pos rfl, if_pos lt] at hu
      rw [if_pos rfl, ← Option.some.inj hu, ← heard.answered]
      exact stage
    · -- the calls for the other links are the ones that there were
      rw [if_neg eq] at hu
      rw [if_neg eq, List.append_nil]
      exact (heard.tasks k u hu).mono grown

/-- The invariant is kept in every interleaving. -/
theorem Heard.follow (heard : j.Heard log P) (h : service.Logs log P) (c : Context)
    (schedule : List Nat) : (j.follow service c schedule).Heard log P := by
  induction schedule generalizing j with
  | nil => exact heard
  | cons i schedule ih =>
    refine ih (j := j.poll service c i) ?_
    rcases poll_cases service c j i with same | ⟨t, -, ht, -, polled⟩
    · rw [same]
      exact heard
    · rw [polled]
      exact heard.record h c ht

/-! ### The calls of one link -/

theorem isSome_call? (e : Event) : e.call?.isSome = e.happening.isCall := by
  obtain ⟨link, form, happening⟩ := e
  cases happening <;> rfl

/-- The calls of a join in order are those that its events begin. -/
theorem filterMap_call?_asked (j : Join σ) :
    j.asked.filterMap Event.call? = j.events.filterMap Event.call? := by
  rw [asked, Event.calls, List.filterMap_filter]
  refine List.filterMap_congr fun e _ => ?_
  cases call : e.happening.isCall with
  | true => rfl
  | false =>
    rw [← isSome_call?, Option.isSome_eq_false_iff, Option.isNone_iff_eq_none] at call
    rw [call]
    rfl

theorem getElem?_calls (j : Join σ) (i : Nat) :
    (j.events.filterMap Event.call?)[i]? = j.asked[i]?.bind Event.call? := by
  rw [← filterMap_call?_asked]
  refine getElem?_filterMap_of_isSome (fun e mem => ?_) i
  rw [isSome_call?]
  exact (List.mem_filter.mp mem).2

theorem exists_call?_of_asked {i : Nat} {e : Event} (he : j.asked[i]? = some e) :
    ∃ call, e.call? = some call := by
  have isCall := (List.mem_filter.mp (List.mem_of_getElem? he)).2
  rw [← isSome_call?] at isCall
  exact Option.isSome_iff_exists.mp isCall

theorem mem_numbersOf {i k : Nat} :
    i ∈ j.numbersOf k ↔ ∃ e, j.asked[i]? = some e ∧ e.link = k := by
  simp only [numbersOf, List.mem_findIdxs_iff_exists_getElem_pos, decide_eq_true_eq,
    List.getElem?_eq_some_iff]
  constructor
  · rintro ⟨lt, link⟩
    exact ⟨_, ⟨lt, rfl⟩, link⟩
  · rintro ⟨e, ⟨lt, rfl⟩, link⟩
    exact ⟨lt, link⟩

/-- The calls for a link are the ones that its history tells. -/
theorem Sound.asked_numbersOf (sound : j.Sound c forms) {k : Nat} {form : String}
    (hk : forms[k]? = some form) :
    ((j.numbersOf k).map fun i => j.asked[i]?) =
      ((j.eventsOf k).filter Happening.isCall).map fun h => some ⟨k, form, h⟩ := by
  have own : ∀ e ∈ j.events.filter fun e => e.link = k, (⟨k, form, e.happening⟩ : Event) = e := by
    intro e he
    obtain ⟨mem, link⟩ := List.mem_filter.mp he
    have named := sound.named e mem
    rw [of_decide_eq_true link, hk] at named
    rw [Option.some.inj named, ← of_decide_eq_true link]
  rw [numbersOf, map_getElem?_findIdxs, asked, Event.calls, eventsOf, List.filter_map,
    List.map_map, List.filter_comm]
  refine List.map_congr_left fun e he => congrArg some (own e ?_).symm
  exact List.mem_of_mem_filter he

/-- The two calls of a link that has been resolved: the recipient has been enrolled, then the link
has been minted, and both calls have been answered. -/
theorem Heard.finished (heard : j.Heard log P) (sound : j.Sound c forms)
    (ok : j.failure = none) (done : j.unfinished = []) {k : Nat} {form : String}
    (hk : forms[k]? = some form) :
    ∃ a b url, a < b ∧ j.numbersOf k = [a, b] ∧
      j.asked[a]? = some ⟨k, form, .enrolmentStarted c.recipient.id⟩ ∧
      j.asked[b]? = some ⟨k, form, .mintingStarted c.recipient.user.id c.pub.id⟩ ∧
      (log j.state)[a]? = some (.enrolment (.ok ())) ∧
      (log j.state)[b]? = some (.minting (.ok url)) ∧
      j.tasks[k]? = some ⟨form, .finished url⟩ := by
  obtain ⟨⟨form', stage⟩, ht⟩ := sound.exists_task hk
  have own : form' = form := by
    have named := congrArg (·[k]?) sound.ownForm
    simpa [ht, hk] using named
  subst own
  -- the task has minted its link, so its history is the whole course
  obtain ⟨url, rfl⟩ := exists_finished_of_ended ok done _ (List.mem_of_getElem? ht)
  have calls := sound.asked_numbersOf hk
  rw [sound.eventsOf_eq ok done ht] at calls
  have increasing : (j.numbersOf k).Pairwise (· < ·) := List.pairwise_findIdxs
  have stageHeard := heard.tasks k _ ht
  dsimp only at stageHeard
  generalize j.numbersOf k = numbers at calls increasing stageHeard
  cases stageHeard with
  | finished a b url first second =>
    simp [Context.course, List.filter_cons, Happening.isCall] at calls
    exact ⟨a, b, url, by simpa using increasing, rfl, calls.1, calls.2, first, second, ht⟩

end Join

/-- What an answer refuses, and why, if it does. -/
def Answer.refusal? : Answer → Option (Operation × Failure)
  | .enrolment (.error source) => some (.ensureMembership, source)
  | .minting (.error source) => some (.mintInviteLink, source)
  | _ => none

namespace Join

variable {log : σ → List Answer} {P : σ → Prop} {c : Context} {forms : List String} {j : Join σ}

/-- When all links have been resolved, no call has been refused. -/
theorem Heard.refusal?_eq_none (heard : j.Heard log P) (sound : j.Sound c forms)
    (ok : j.failure = none) (done : j.unfinished = []) {i : Nat} {answer : Answer}
    (h : (log j.state)[i]? = some answer) : answer.refusal? = none := by
  obtain ⟨e, he⟩ : ∃ e, j.asked[i]? = some e := by
    have lt := (List.getElem?_eq_some_iff.mp h).1
    rw [heard.answered] at lt
    exact ⟨_, List.getElem?_eq_getElem lt⟩
  have mem : e ∈ j.events := List.mem_of_mem_filter (List.mem_of_getElem? he)
  obtain ⟨a, b, url, -, numbers, -, -, first, second, -⟩ :=
    heard.finished sound ok done (sound.named e mem)
  have here : i ∈ j.numbersOf e.link := mem_numbersOf.mpr ⟨e, he, rfl⟩
  -- a call is one of the two for its link, and both of them have been answered
  rw [numbers, List.mem_pair] at here
  rcases here with rfl | rfl
  · rw [Option.some.inj (h.symm.trans first)]
    rfl
  · rw [Option.some.inj (h.symm.trans second)]
    rfl

/-- A failure is the answer to a call that has been refused. -/
theorem Heard.exists_refusal (heard : j.Heard log P) (sound : j.Sound c forms)
    {e : DirectiveError} (failed : j.failure = some e) :
    ∃ (i : Nat) (call : Event) (answer : Answer) (operation : Operation) (source : Failure),
      j.asked[i]? = some call ∧
      call.happening.operation? = some operation ∧ (log j.state)[i]? = some answer ∧
      answer.refusal? = some (operation, source) ∧
      e = .serviceFailure operation call.form source := by
  obtain ⟨k, ⟨form, stage⟩, ht, rfl, -⟩ := exists_failed_of_failure failed
  have hk : forms[k]? = some form := by rw [← sound.ownForm, List.getElem?_map, ht]; rfl
  have calls := sound.asked_numbersOf hk
  have past := sound.past k _ ht
  have stageHeard := heard.tasks k _ ht
  dsimp only at past stageHeard
  generalize j.numbersOf k = numbers, j.eventsOf k = events at calls past stageHeard
  -- the last call of the link is the one that has been refused
  cases stageHeard with
  | notEnrolled a source first =>
    cases past
    simp [List.filter_cons, Happening.isCall] at calls
    exact ⟨a, _, _, _, source, calls, rfl, first, rfl, rfl⟩
  | notMinted a b source first second =>
    cases past
    simp [List.filter_cons, Happening.isCall] at calls
    exact ⟨b, _, _, _, source, calls.2, rfl, second, rfl, rfl⟩

end Join

end MailMerge
