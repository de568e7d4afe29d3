import MailMerge.Proofs.Render.Calls
import MailMerge.Proofs.Render.OpenLinks
import MailMerge.Proofs.Render.Session

/-!
# No document is rendered twice

A directive that has been rendered carries an element, and the second visit finds out only after it
has worked out once more what the directive is filled in with. This succeeds again, since labels and
annotations play no part in it, and the label that it comes with has been given before. So the visit
refuses the element and leaves its node alone. In a rendered document the first directive ends the
walk at once.

## Main definitions

* `Node.Settled`: a directive that has been rendered with the context.
* `Node.Refused`: a document that cannot be rendered.

## Main results

* `Settled.fill`: a settled directive refuses to be filled in, and stays as it is.
* `SettlesTo.refused`: a document with settled directives is refused because of the first one.
* `refused_again`: what has been rendered is never rendered again.
-/

namespace MailMerge

namespace Node

variable {c : Context} {tree after n m first : Node} {rest : List Node}

/-! ## A directive that has been rendered -/

/-- A directive that has been rendered: it can be filled in, but it carries an element already, and
so it does the label that it comes with, if there is one. -/
def Settled (c : Context) (n : Node) : Prop :=
  n.isDirective = true ∧ n.tag? ≠ none ∧ ∃ d f, Directive.ofName? n.writtenName = some d ∧
    d.filling c n = .ok f ∧ (f.label = none ∨ n.hasNoChildren = false)

/-- A settled directive refuses to be filled in, and stays as it is. -/
theorem Settled.fill (h : n.Settled c) :
    (n.fill c).outcome = .error (.invalidDirective n.writtenName .alreadyRendered) ∧
      (n.fill c).node = n := by
  obtain ⟨isDirective, noted, d, f, named, filled, label⟩ := h
  have same : n.labelWith f.label = n := by
    rcases label with unlabelled | labelled
    · rw [unlabelled]
      rfl
    · exact labelWith_of_children labelled f.label
  obtain ⟨outcome, node⟩ := fill_of_noted isDirective named filled noted
  exact ⟨outcome, node.trans same⟩

/-- A settled directive is settled whatever it grows to. -/
theorem Settled.keeps (h : n.Settled c) (keeps : n.Keeps m) : m.Settled c := by
  obtain ⟨isDirective, noted, d, f, named, filled, label⟩ := h
  obtain ⟨tag, -⟩ := keeps.element noted
  refine ⟨?_, tag ▸ noted, d, f, ?_, ?_, label.imp_right keeps.hasNoChildren⟩
  · rwa [Node.isDirective, keeps.source.kind]
  · rwa [writtenName, keeps.source.name]
  · rwa [Directive.filling_congr keeps.source.name keeps.source.attributes]

theorem GetsLabel.of_filling {d : Directive} {f : Filling} {label : String}
    (isDirective : n.isDirective = true) (named : Directive.ofName? n.writtenName = some d)
    (filled : d.filling c n = .ok f) (labelled : f.label = some label)
    (hn : n.hasNoChildren = true) : n.GetsLabel c label := by
  by_cases hd : d = .link
  · subst hd
    rw [Directive.filling_link] at filled
    cases target : n.linkTarget c with
    | error e => rw [target] at filled; cases filled
    | ok t =>
      rw [target] at filled
      cases filled
      rw [Filling.label_ofTarget] at labelled
      exact ⟨isLink_iff.mpr ⟨isDirective, named⟩, hn, t, target, labelled⟩
  · -- only links come with a label
    obtain ⟨-, -, unlabelled, -⟩ := Directive.exists_showsText_of_ne_link hd filled
    rw [unlabelled] at labelled
    cases labelled

/-- A directive that has been filled in is settled. -/
theorem FilledIn.settled (h : n.FilledIn c m) (isDirective : n.isDirective = true) :
    m.Settled c := by
  obtain ⟨⟨r, visit⟩, -⟩ := h.noted isDirective
  obtain ⟨d, f, named, filled, -⟩ := filling_of_fill isDirective visit
  have noted : m.tag? ≠ none := by
    by_cases isLink : n.IsLink
    · obtain ⟨target, -, tag, -⟩ := h.link isLink
      rw [tag]
      simp
    · obtain ⟨text, tag, -⟩ := h.text isDirective isLink
      rw [tag]
      simp
  have labelled : f.label = none ∨ m.hasNoChildren = false := by
    cases label : f.label with
    | none => exact .inl rfl
    | some label' =>
      right
      cases hn : n.hasNoChildren with
      | true =>
        have children := h.labelled label' (.of_filling isDirective named filled label hn)
        rw [hasNoChildren, childList, children]
        rfl
      | false =>
        have row := h.row fun _ gets => by
          have empty := gets.2.1
          rw [hn] at empty
          cases empty
        exact row.hasNoChildren.trans hn
  refine ⟨?_, noted, d, f, ?_, ?_, labelled⟩
  · rwa [Node.isDirective, h.source.kind]
  · rwa [writtenName, h.source.name]
  · rwa [Directive.filling_congr h.source.name h.source.attributes]

/-! ## A document that has been rendered -/

/-- A document `after` that `tree` has been rendered to: it has grown out of it, and all directives
are settled. -/
structure SettlesTo (c : Context) (tree after : Node) : Prop where
  grows : tree.GrowsTo after
  settled : ∀ p n m, tree.at? p = some n → n.isDirective = true → after.at? p = some m →
    m.Settled c

theorem settlesTo_walk (ok : (tree.walk c).failure = none) :
    tree.SettlesTo c (tree.walk c).result where
  grows := growsTo_walk c tree
  settled _ _ _ hp isDirective hm := (filledIn_walk ok hp hm).settled isDirective

theorem SettlesTo.trans (h : tree.SettlesTo c m) (grows : m.GrowsTo after) :
    tree.SettlesTo c after where
  grows := h.grows.trans grows
  settled p n k hp isDirective hk := by
    obtain ⟨k', hk', -⟩ := h.grows.places p n hp
    obtain ⟨k'', hk'', keeps⟩ := grows.places p k' hk'
    obtain rfl := Option.some.inj (hk.symm.trans hk'')
    exact (h.settled p n k' hp isDirective hk').keeps keeps

/-- The first directive of a document and the place where it stands. -/
theorem exists_first_directive (h : tree.directives = first :: rest) :
    ∃ p, tree.at? p = some first ∧ first.isDirective = true ∧
      ∀ q m, q.Before p → tree.at? q = some m → m.isDirective = false := by
  rw [tree.directives_eq []] at h
  obtain ⟨⟨p, n⟩, _, filtered, rfl, -⟩ := List.map_eq_cons_iff.mp h
  obtain ⟨left, right, split, plain, isDirective, -⟩ := List.filter_eq_cons_iff.mp filtered
  refine ⟨p, at?_of_places split, isDirective, fun q m before hq => ?_⟩
  simpa using plain _ ((mem_left_iff split).mpr ⟨hq, before⟩)

/-- A document whose walk fails because the directive `name` has been rendered already, and that
no service is called for. Neither attempt changes it. -/
structure Refused (c : Context) (name : String) (tree : Node) : Prop where
  outcome : (tree.walk c).outcome = .error (.invalidDirective name .alreadyRendered)
  result : (tree.walk c).result = tree
  render : ∀ {σ : Type} (service : FormService σ) (s : σ),
    (tree.render service c s).result = .error (.invalidDirective name .alreadyRendered) ∧
      (tree.render service c s).state = s ∧ (tree.render service c s).events = [] ∧
      (tree.render service.recording c (s, [])).state = (s, [])

/-- A document with settled directives is refused because of the first one. -/
theorem SettlesTo.refused (h : tree.SettlesTo c after) (listed : tree.directives = first :: rest) :
    after.Refused c first.writtenName := by
  obtain ⟨p, hp, isDirective, plain⟩ := exists_first_directive listed
  obtain ⟨m, hm, keeps⟩ := h.grows.places p first hp
  obtain ⟨error, same⟩ := (h.settled p first m hp isDirective hm).fill
  rw [writtenName, keeps.source.name, ← writtenName] at error
  -- what stands before the first directive has not become one
  have before (q : Path) (k : Node) (hq : q.Before p) (hk : after.at? q = some k) :
      k.fill c = ⟨k, .ok none, []⟩ := by
    refine fill_of_not_directive ?_ c
    cases hn : tree.at? q with
    | none =>
      rw [Node.isDirective, h.grows.added q k hn hk]
      rfl
    | some n =>
      obtain ⟨k', hk', keeps⟩ := h.grows.places q n hn
      obtain rfl := Option.some.inj (hk.symm.trans hk')
      rw [Node.isDirective, keeps.source.kind]
      exact plain q n hq hn
  have stops : after.StopsAt c p m (.invalidDirective first.writtenName .alreadyRendered) :=
    ⟨hm, error, fun q k hq hk => ⟨none, by rw [before q k hq hk]⟩⟩
  refine ⟨stops.failure_walk, ?_, fun service s => ?_⟩
  · rw [stops.result_walk]
    refine editAt_eq_self fun q k hk => ?_
    rw [List.nil_append]
    rcases Path.before_or_eq_or_after q p with earlier | rfl | later
    · rw [visitedTo_of_before earlier, before q k earlier hk]
    · obtain rfl := Option.some.inj (hm.symm.trans hk)
      rw [visitedTo_self, same]
    · exact if_pos later
  · rw [render_of_failure service c s stops.failure_walk,
      render_of_failure service.recording c (s, []) stops.failure_walk]
    exact ⟨rfl, rfl, rfl, rfl⟩

/-- A rendered document is what the second phase has left of a successful walk. -/
theorem tree_of_render {σ : Type} {service : FormService σ} {s : σ} {rendered : Rendered}
    (h : (tree.render service c s).result = .ok rendered) :
    ∃ found, (tree.walk c).outcome = .ok found ∧
      rendered.tree = ((tree.walk c).result.resolve service c found.deferred s).tree := by
  rw [Node.render] at h
  dsimp only at h
  split at h
  · cases h
  · rename_i found walked
    split at h
    · cases h
    · cases h
      exact ⟨found, walked, rfl⟩

/-- **What has been rendered is never rendered again.** If a document has a directive and has been
walked over or rendered with success, whatever the service, then what has become of it is refused:
the error names the first directive of the document as it is written, nothing changes, and no
service is called. -/
theorem refused_again (c : Context) (tree first : Node) (rest : List Node)
    (listed : tree.directives = first :: rest) :
    (∀ found, (tree.walk c).outcome = .ok found →
      (tree.walk c).result.Refused c first.writtenName) ∧
    ∀ {σ : Type} (service : FormService σ) (s : σ) (rendered : Rendered),
      (tree.render service c s).result = .ok rendered →
        rendered.tree.Refused c first.writtenName := by
  constructor
  · intro found h
    obtain ⟨ok, -⟩ := Walk.outcome_eq_ok_iff.mp h
    exact (settlesTo_walk ok).refused listed
  · intro σ service s rendered h
    obtain ⟨found, walked, after⟩ := tree_of_render h
    obtain ⟨ok, -⟩ := Walk.outcome_eq_ok_iff.mp walked
    rw [after]
    exact ((settlesTo_walk ok).trans (growsTo_resolve service c _ s _)).refused listed

theorem refused_again_letter :
    (letter.walk .sample).result.Refused .sample "recipientName" ∧
      ∃ rendered, (letter.render (Rehearsal.plain.service Unit) .sample ()).result = .ok rendered ∧
        rendered.tree.Refused .sample "recipientName" := by
  have walked : (letter.walk .sample).outcome = .ok ⟨4, [⟨[0, 3], "review"⟩]⟩ := rfl
  have run : (Join.start ["review"] ()).run (Rehearsal.plain.service Unit) .sample =
      (Join.start ["review"] ()).round (Rehearsal.plain.service Unit) .sample := by
    rw [Join.run, if_pos (by decide), Join.run, if_neg (by decide)]
  have result : ∃ rendered,
      (letter.render (Rehearsal.plain.service Unit) .sample ()).result = .ok rendered := by
    simp only [render, walked, resolve, List.isEmpty_cons, List.map_cons, List.map_nil, run]
    exact ⟨_, rfl⟩
  obtain ⟨rendered, result⟩ := result
  obtain ⟨afterWalk, afterRender⟩ := refused_again .sample letter
    (.inlineDirective "recipientName" []) _ rfl
  exact ⟨afterWalk _ walked, rendered, result, afterRender _ _ _ result⟩

end Node

end MailMerge
