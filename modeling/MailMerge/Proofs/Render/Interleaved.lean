import MailMerge.Proofs.Render.Resolve

/-!
# Renderings in any interleaving

The tasks of the second phase may be polled in any order, so a rendering is taken here with the way
in which they are polled as a parameter. Polling round by round is one of these ways. Whatever the
order is, once everything has come to an end the rendering has failed with the failure of its join,
or it has written all the links that the join has minted.

## Main definitions

* `Join.Ended`: nothing is left to do.
* `Node.renderBy`: a rendering whose open links are resolved in a given way.
* `Node.SettledBy`: a schedule after which nothing is left to do.

## Main results

* `exists_schedule_render`: rendering round by round is one of the interleavings.
* `renderBy_follow`: what becomes of a rendering in any interleaving.
-/

namespace MailMerge

variable {σ : Type}

namespace Join

/-- Nothing is left to do: there is a failure, or all tasks are over. -/
def Ended (j : Join σ) : Prop := j.failure ≠ none ∨ j.unfinished = []

instance (j : Join σ) : Decidable j.Ended :=
  decidable_of_iff (j.failure.isSome = true ∨ j.unfinished = []) (by
    rw [Ended, Option.isSome_iff_ne_none])

/-- Without forms there is nothing to poll. -/
theorem follow_start_nil (service : FormService σ) (c : Context) (schedule : List Nat) (s : σ) :
    (start [] s).follow service c schedule = start [] s := by
  induction schedule with
  | nil => rfl
  | cons i schedule ih =>
    have idle : (start [] s).poll service c i = start [] s := by
      rcases poll_cases service c (start [] s) i with same | ⟨t, -, ht, -⟩
      · exact same
      · cases ht
    rw [follow, List.foldl_cons, idle]
    exact ih

end Join

namespace Node

/-- Renders a document completely; `polled` is what becomes of the tasks of its open links. -/
def renderBy (polled : Join σ → Join σ) (c : Context) (s : σ) (tree : Node) :
    Outcome σ Rendered :=
  let walk := tree.walk c
  match walk.outcome with
  | .error e => ⟨.error e, s, [], walk.notices⟩
  | .ok found =>
    let resolved := walk.result.resolveBy polled found.deferred s
    let notices := walk.notices ++ resolved.outcome.notices
    match resolved.outcome.result with
    | .error e => ⟨.error e, resolved.outcome.state, resolved.outcome.events, notices⟩
    | .ok links =>
      ⟨.ok ⟨resolved.tree, found.directives, links⟩, resolved.outcome.state,
        resolved.outcome.events, notices ++ [.rendered found.directives links]⟩

variable {service : FormService σ} {c : Context} {s : σ} {tree : Node} {found : Found}

/-- A rendering polls round by round. -/
theorem render_eq_renderBy (service : FormService σ) (c : Context) (s : σ) (tree : Node) :
    tree.render service c s = tree.renderBy (Join.run service c) c s := rfl

/-- Nothing is requested for a document that cannot be filled in. -/
theorem renderBy_of_failure (polled : Join σ → Join σ) (s : σ) {e : DirectiveError}
    (h : (tree.walk c).outcome = .error e) :
    tree.renderBy polled c s = ⟨.error e, s, [], (tree.walk c).notices⟩ := by
  rw [renderBy, h]

/-- Only what becomes of the tasks for the listed links matters. -/
theorem renderBy_congr {polled polled' : Join σ → Join σ} (h : (tree.walk c).outcome = .ok found)
    (same : polled (.start (found.deferred.map DeferredLink.form) s) =
      polled' (.start (found.deferred.map DeferredLink.form) s)) :
    tree.renderBy polled c s = tree.renderBy polled' c s := by
  simp only [renderBy, h, resolveBy, same]

/-- A schedule after which nothing is left to do for the open links of a document. -/
def SettledBy (service : FormService σ) (c : Context) (s : σ) (tree : Node)
    (schedule : List Nat) : Prop :=
  ∀ found, (tree.walk c).outcome = .ok found →
    ((Join.start (found.deferred.map DeferredLink.form) s).follow service c schedule).Ended

theorem settledBy_iff (h : (tree.walk c).outcome = .ok found) {schedule : List Nat} :
    tree.SettledBy service c s schedule ↔
      ((Join.start (found.deferred.map DeferredLink.form) s).follow service c schedule).Ended := by
  refine ⟨fun settled => settled found h, fun ended found' h' => ?_⟩
  obtain rfl := Except.ok.inj (h.symm.trans h')
  exact ended

/-- Rendering round by round is one of the interleavings, and it leaves nothing to do. -/
theorem exists_schedule_render (service : FormService σ) (c : Context) (s : σ) (tree : Node) :
    ∃ schedule, tree.SettledBy service c s schedule ∧
      tree.render service c s = tree.renderBy (Join.follow service c schedule) c s := by
  cases h : (tree.walk c).outcome with
  | error e =>
    have settled : tree.SettledBy service c s [] := fun found ok => by
      rw [h] at ok
      cases ok
    exact ⟨[], settled, by rw [render_of_failure service c s h, renderBy_of_failure _ s h]⟩
  | ok found =>
    obtain ⟨schedule, run, ends⟩ :=
      Join.exists_schedule_run service c (.start (found.deferred.map DeferredLink.form) s)
    refine ⟨schedule, (settledBy_iff h).mpr ?_,
      (render_eq_renderBy ..).trans (renderBy_congr h run)⟩
    rw [← run]
    -- polling in rounds goes on until there is a failure or all tasks are over
    by_cases ok :
      ((Join.start (found.deferred.map DeferredLink.form) s).run service c).failure = none
    · exact .inr (ends ok)
    · exact .inl ok

section Follow

variable {links : List DeferredLink} {schedule : List Nat}

/-- The second phase in any interleaving, once nothing is left to do: it fails with the failure of
its join and leaves the document alone, or it writes the minted links. -/
theorem resolveBy_follow (service : FormService σ) (c : Context) (s : σ)
    (distinct : (links.map DeferredLink.path).Nodup)
    (places : ∀ link ∈ links, (tree.at? link.path).isSome)
    (ended : ((Join.start (links.map DeferredLink.form) s).follow service c schedule).Ended) :
    let join := (Join.start (links.map DeferredLink.form) s).follow service c schedule
    let resolved := tree.resolveBy (Join.follow service c schedule) links s
    (∃ e, join.failure = some e ∧ resolved.outcome.result = .error e ∧ resolved.tree = tree) ∨
      join.failure = none ∧ join.unfinished = [] ∧ ∃ urls, join.outcome = .ok urls ∧
        urls.length = links.length ∧ resolved.outcome.result = .ok links.length ∧
        LinksWritten (links.zip urls) tree resolved.tree := by
  intro join resolved
  have sound : join.Sound c (links.map DeferredLink.form) :=
    (Join.sound_start c _ s).follow service schedule
  cases failure : join.failure with
  | some e =>
    left
    have some_link : links ≠ [] := by
      -- without links there is nothing that could have failed
      rintro rfl
      have idle : join = Join.start [] s := Join.follow_start_nil service c schedule s
      rw [idle] at failure
      cases failure
    have outcome : join.outcome = .error e := by rw [Join.outcome, failure]
    exact ⟨e, rfl, resolveBy_of_error some_link outcome⟩
  | none =>
    right
    have done : join.unfinished = [] := ended.resolve_left (absurd failure)
    obtain ⟨urls, outcome, length, -⟩ := sound.outcome_eq_ok failure done
    rw [List.length_map] at length
    obtain ⟨after, write, written⟩ := exists_linksWritten length distinct places
    obtain ⟨tree', result⟩ : resolved.tree = _ ∧ resolved.outcome.result = _ :=
      resolveBy_of_ok outcome tree
    rw [write] at tree' result
    refine ⟨rfl, done, urls, outcome, length, result, ?_⟩
    rw [tree']
    exact written

/-- What becomes of a rendering in any interleaving, once nothing is left to do: it fails with the
failure of the join, or it writes the minted links and changes nothing else. -/
theorem renderBy_follow (service : FormService σ) (s : σ) (h : (tree.walk c).outcome = .ok found)
    (ended : ((Join.start (found.deferred.map DeferredLink.form) s).follow service c
      schedule).Ended) :
    let join := (Join.start (found.deferred.map DeferredLink.form) s).follow service c schedule
    let out := tree.renderBy (Join.follow service c schedule) c s
    out.state = join.state ∧ out.events = join.events ∧
      ((∃ e, join.failure = some e ∧ out.result = .error e) ∨
      join.failure = none ∧ join.unfinished = [] ∧ ∃ urls after, join.outcome = .ok urls ∧
        urls.length = found.deferred.length ∧
        LinksWritten (found.deferred.zip urls) (tree.walk c).result after ∧
        out.result = .ok ⟨after, found.directives, found.deferred.length⟩) := by
  intro join out
  obtain ⟨state, events⟩ :=
    state_resolveBy (Join.follow_start_nil service c schedule s) found.deferred (tree.walk c).result
  rcases resolveBy_follow service c s (nodup_deferred h) (isSome_at?_deferred h) ended with
    ⟨e, failure, result, -⟩ | ⟨ok, done, urls, outcome, length, result, written⟩
  · simp only [out, renderBy, h, result]
    exact ⟨state, events, .inl ⟨e, failure, rfl⟩⟩
  · simp only [out, renderBy, h, result]
    exact ⟨state, events, .inr ⟨ok, done, urls, _, outcome, length, written, rfl⟩⟩

end Follow

end Node

end MailMerge
