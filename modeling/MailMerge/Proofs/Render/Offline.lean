import MailMerge.Forms.Access
import MailMerge.Proofs.Render.Resolve
import MailMerge.Proofs.Render.Rounds

/-!
# Rendering without a form service

The service only matters for documents with links to forms. Without such a link it is never called,
so that all services are alike. With one, a service that refuses its first call at once ends the
rendering there. Hence the documents that can be rendered without any service can be told by looking
at their links.

## Main definitions

* `FormService.Refuses`: a service that turns a form down as soon as it is asked for it.

## Main results

* `render_of_no_links`: without links to forms a rendering is the same with every service.
* `render_of_refuses`: a service that refuses the first form ends the rendering.
* `deferred_eq_nil_iff`: nothing stays open iff no link leads to a form.
* `render_offline`: which documents are rendered without a service, and how the others fail.
-/

namespace MailMerge

variable {σ : Type} {service : FormService σ} {c : Context} {s : σ} {form : String}
  {source : Failure}

/-- A service that refuses to enrol a member in a form as soon as it is asked to. -/
structure FormService.Refuses (service : FormService σ) (member form : String) (s : σ)
    (source : Failure) : Prop where
  prompt : (service.ensureMembership member form s).delay = 0
  refused : (service.ensureMembership member form s).answer = .error source

/-- Without a service every enrolment is refused. -/
theorem FormService.refuses_unconfigured (member form : String) (s : σ) :
    (unconfigured σ).Refuses member form s notConfigured := ⟨rfl, rfl⟩

theorem Access.refuses_unconfigured (member form : String) :
    Access.service.Refuses member form .unconfigured FormService.notConfigured := ⟨rfl, rfl⟩

/-- A task whose form is refused fails in its first poll. -/
theorem FormService.Refuses.stage_poll (h : service.Refuses c.recipient.id form s source) :
    (Task.poll service c ⟨form, .waiting⟩ s).stage =
      .failed (.serviceFailure .ensureMembership form source) := by
  simp only [Task.poll, Polled.startEnrol, h.prompt, h.refused]
  rfl

/-- A join whose first form is refused fails in its first poll. -/
theorem Join.outcome_of_refuses (h : service.Refuses c.recipient.id form s source)
    (forms : List String) :
    ((start (form :: forms) s).run service c).outcome =
      .error (.serviceFailure .ensureMembership form source) := by
  have first : (start (form :: forms) s).tasks[0]? = some ⟨form, .waiting⟩ := rfl
  have failed : ((start (form :: forms) s).poll service c 0).failure =
      some (.serviceFailure .ensureMembership form source) := by
    rw [poll_of_unfinished service c (failure_start ..) first rfl]
    exact failure_of_head rfl h.stage_poll
  -- the first task comes first in the first round, and its failure ends the run
  have unfinished : ∃ later, (start (form :: forms) s).unfinished = 0 :: later := by
    rw [Join.unfinished, start, List.length_map, List.length_cons, List.range_succ_eq_map]
    exact ⟨_, List.filter_cons_of_pos rfl⟩
  obtain ⟨later, unfinished⟩ := unfinished
  have ended : ((start (form :: forms) s).poll service c 0).failure ≠ none := by
    rw [failed]
    exact Option.some_ne_none _
  have round : (start (form :: forms) s).round service c =
      (start (form :: forms) s).poll service c 0 := by
    rw [Join.round, unfinished, follow, List.foldl_cons]
    exact follow_of_failure service c ended later
  rw [run_of_more (failure_start ..) (unfinished_start_ne_nil form forms s), round,
    run_of_ended (.inl ended), outcome, failed]

namespace Node

variable {tree : Node} {found : Found}

/-- Without open links a rendering is the walk alone, and the service is left as it was. -/
theorem render_of_no_links (h : (tree.walk c).outcome = .ok found) (closed : found.deferred = [])
    (service : FormService σ) (s : σ) :
    tree.render service c s =
      ⟨.ok ⟨(tree.walk c).result, found.directives, 0⟩, s, [],
        (tree.walk c).notices ++ [.rendered found.directives 0]⟩ := by
  simp only [render, h, closed, resolve_nil, List.append_nil]

/-- A service that refuses the first open link ends the rendering. -/
theorem render_of_refuses {link : DeferredLink} {later : List DeferredLink}
    (h : (tree.walk c).outcome = .ok found) (first : found.deferred = link :: later)
    (refuses : service.Refuses c.recipient.id link.form s source) :
    (tree.render service c s).result =
      .error (.serviceFailure .ensureMembership link.form source) := by
  have result : ((tree.walk c).result.resolve service c (link :: later) s).outcome.result = _ :=
    (resolveBy_of_error (List.cons_ne_nil link later)
      (Join.outcome_of_refuses refuses (later.map DeferredLink.form))).1
  rw [← first] at result
  simp only [render, h, result]

/-- Nothing stays open iff no node is an open link. -/
theorem deferred_eq_nil_iff (h : (tree.walk c).outcome = .ok found) :
    found.deferred = [] ↔ ∀ p n, tree.at? p = some n → n.openForm? = none := by
  obtain ⟨ok, rfl⟩ := Walk.outcome_eq_ok_iff.mp h
  rw [found_walk ok, List.eq_nil_iff_forall_not_mem]
  constructor
  · intro closed p n hp
    refine Option.eq_none_iff_forall_ne_some.mpr fun form named => ?_
    exact closed ⟨p, form⟩ (mem_openLinks.mpr ⟨n, mem_places.mpr hp, named⟩)
  · intro closed link mem
    obtain ⟨n, hp, named⟩ := mem_openLinks.mp mem
    cases (closed link.path n (mem_places.mp hp)).symm.trans named

/-- A link that is filled in is open iff it leads to a form. -/
theorem openForm?_eq_none_iff {n : Node} {r : Option Resolution}
    (h : (n.fill c).outcome = .ok r) :
    n.openForm? = none ↔ (n.IsLink → ∀ form, n.linkTarget c ≠ .ok (.form form)) := by
  constructor
  · intro closed isLink form leads
    rw [openForm?_of_linkTarget isLink leads] at closed
    cases closed
  · intro leads
    refine Option.eq_none_iff_forall_ne_some.mpr fun form named => ?_
    have isLink := (openForm?_eq_some_iff.mp named).1
    obtain ⟨target, ht, -⟩ := link_of_fill isLink h
    rw [openForm?_of_linkTarget isLink ht] at named
    exact leads isLink form (LinkTarget.eq_form_of_slug? named ▸ ht)

/-- The open links of a document, the first one in front. -/
theorem before_of_deferred {link : DeferredLink} {later : List DeferredLink}
    (h : (tree.walk c).outcome = .ok found) (first : found.deferred = link :: later) :
    ∀ other ∈ later, link.path.Before other.path := by
  obtain ⟨ok, rfl⟩ := Walk.outcome_eq_ok_iff.mp h
  have ordered := pairwise_openLinks (tree.pairwise_placesAt [])
  rw [found_walk ok] at first
  rw [show openLinks (tree.placesAt []) = link :: later from first, List.map_cons,
    List.pairwise_cons] at ordered
  exact fun other mem => ordered.1 _ (List.mem_map_of_mem mem)

/-- A document can be rendered without a service iff it can be walked over and has no open link. -/
theorem exists_render_unconfigured_iff (c : Context) (tree : Node) (s : σ) :
    (∃ rendered, (tree.render (.unconfigured σ) c s).result = .ok rendered) ↔
      (∃ found, (tree.walk c).outcome = .ok found) ∧
        ∀ p n, tree.at? p = some n → n.openForm? = none := by
  constructor
  · rintro ⟨rendered, ok⟩
    cases h : (tree.walk c).outcome with
    | error e =>
      rw [render_of_failure _ c s h] at ok
      cases ok
    | ok found =>
      refine ⟨⟨found, rfl⟩, (deferred_eq_nil_iff h).mp ?_⟩
      cases links : found.deferred with
      | nil => rfl
      | cons link later =>
        have failed := render_of_refuses h links
          (FormService.refuses_unconfigured c.recipient.id link.form s)
        cases ok.symm.trans failed
  · rintro ⟨⟨found, h⟩, closed⟩
    rw [render_of_no_links h ((deferred_eq_nil_iff h).mpr closed)]
    exact ⟨_, rfl⟩

/-- **The service only matters for documents with links to forms.** If a walk leaves no link open,
the rendering succeeds with the document and the count of the walk, and it is the same with every
service: the service is not called and stays as it was. If a walk leaves links open, a rendering
without a service fails, since the recipient cannot be enrolled in the form of the first of them in
document order. So a document can be rendered without a service iff it can be walked over and no
link leads to a form, that is, iff no link without an address names one. -/
theorem render_offline (c : Context) (tree : Node) (s : σ) :
    (∀ found, (tree.walk c).outcome = .ok found → found.deferred = [] →
      ∀ {τ : Type} (service : FormService τ) (t : τ) (calls : List Call),
        tree.render service c t =
          ⟨.ok ⟨(tree.walk c).result, found.directives, 0⟩, t, [],
            (tree.walk c).notices ++ [.rendered found.directives 0]⟩ ∧
        (tree.render service.recording c (t, calls)).state = (t, calls)) ∧
    (∀ found, (tree.walk c).outcome = .ok found → found.deferred ≠ [] →
      ∃ link later, found.deferred = link :: later ∧
        (∀ other ∈ later, link.path.Before other.path) ∧
        (tree.render (.unconfigured σ) c s).result =
          .error (.serviceFailure .ensureMembership link.form FormService.notConfigured) ∧
        (tree.render Access.service c .unconfigured).result =
          .error (.serviceFailure .ensureMembership link.form FormService.notConfigured)) ∧
    ((∃ rendered, (tree.render (.unconfigured σ) c s).result = .ok rendered) ↔
      (∃ found, (tree.walk c).outcome = .ok found) ∧
        ∀ p n, tree.at? p = some n → n.IsLink → ∀ form, n.linkTarget c ≠ .ok (.form form)) ∧
    ((∃ rendered, (tree.render (.unconfigured σ) c s).result = .ok rendered) ↔
      (∃ found, (tree.walk c).outcome = .ok found) ∧
        ∀ p n, tree.at? p = some n → n.IsLink → n.attribute? "email" = none →
          n.attribute? "form" = none) := by
  refine ⟨fun found h closed τ service t calls => ?_, fun found h some_link => ?_, ?_, ?_⟩
  · rw [render_of_no_links h closed service.recording (t, calls)]
    exact ⟨render_of_no_links h closed service t, rfl⟩
  · obtain ⟨link, later, first⟩ := List.exists_cons_of_ne_nil some_link
    exact ⟨link, later, first, before_of_deferred h first,
      render_of_refuses h first (FormService.refuses_unconfigured ..),
      render_of_refuses h first (Access.refuses_unconfigured ..)⟩
  · rw [exists_render_unconfigured_iff]
    refine and_congr_right fun ⟨found, h⟩ => ?_
    obtain ⟨ok, -⟩ := Walk.outcome_eq_ok_iff.mp h
    -- every node of the document has been filled in, so that a link with a form leads to it
    refine forall_congr' fun p => forall_congr' fun n => forall_congr' fun hp => ?_
    obtain ⟨r, visit⟩ := failure_walkAt_eq_none_iff.mp ok p n hp
    exact openForm?_eq_none_iff visit
  · rw [exists_render_unconfigured_iff]
    simp only [Option.eq_none_iff_forall_ne_some, ne_eq, openForm?_eq_some_iff, not_and]
    refine and_congr_right fun _ => forall_congr' fun p => forall_congr' fun n =>
      forall_congr' fun _ => ?_
    exact ⟨fun h isLink email form => h form isLink email,
      fun h form isLink email => h isLink email form⟩

/-- A letter with a link that names a form, but has an address as well. -/
def addressed : Node :=
  .root [.inlineDirective "recipientName" [],
    .inlineDirective "link" [("form", "review"), ("email", "all@example.org")]]

/-- A service that refuses the form. -/
def closedReview : FormService Unit :=
  Rehearsal.service { Rehearsal.plain with failingMemberships := ["review"] } Unit

theorem render_offline_addressed :
    (addressed.walk .sample).outcome = .ok ⟨2, []⟩ ∧
      (addressed.render closedReview .sample ()).result =
        .ok ⟨(addressed.walk .sample).result, 2, 0⟩ ∧
      (letter.walk .sample).outcome = .ok ⟨4, [⟨[0, 3], "review"⟩]⟩ ∧
      (letter.render (.unconfigured Unit) .sample ()).result =
        .error (.serviceFailure .ensureMembership "review" FormService.notConfigured) := by
  have closed : (addressed.walk .sample).outcome = .ok ⟨2, []⟩ := rfl
  have opened : (letter.walk .sample).outcome = .ok ⟨4, [⟨[0, 3], "review"⟩]⟩ := rfl
  obtain ⟨alike, -⟩ := render_offline .sample addressed ()
  obtain ⟨-, refused, -⟩ := render_offline .sample letter ()
  obtain ⟨rendered, -⟩ := alike _ closed rfl closedReview () []
  obtain ⟨link, later, first, -, failed, -⟩ := refused _ opened (by simp)
  cases first
  exact ⟨closed, by rw [rendered], opened, failed⟩

end Node

end MailMerge
