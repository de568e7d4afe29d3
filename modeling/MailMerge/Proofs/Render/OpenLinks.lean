import MailMerge.Proofs.Render.Walk

/-!
# What a successful walk has found

The walk counts the directives that it fills in, and records the path of every link to a form on
its way. Both can be read off the document as it was before: the count is the number of its
directives, and the record lists the links to forms in document order, each of them once. A
recorded path leads to the same link in the document that the walk leaves.

## Main results

* `ncard_directives`: the directives of a document are counted once each.
* `pairwise_openLinks`: open links are listed in document order.
* `length_directives_walk`: a walk neither adds nor removes a directive.
* `walk_found`: what a successful walk has found.
-/

namespace MailMerge

theorem pairwise_openLinks {places : List (Path × Node)}
    (h : places.Pairwise fun x y => x.1.Before y.1) :
    ((openLinks places).map DeferredLink.path).Pairwise Path.Before := by
  rw [List.pairwise_map, openLinks, List.pairwise_filterMap]
  refine h.imp ?_
  rintro ⟨p, n⟩ ⟨q, m⟩ before link hp link' hq
  obtain ⟨form, -, rfl⟩ := Option.map_eq_some_iff.mp hp
  obtain ⟨form', -, rfl⟩ := Option.map_eq_some_iff.mp hq
  exact before

/-- Paths in document order are distinct. -/
theorem nodup_of_pairwise_before {paths : List Path} (h : paths.Pairwise Path.Before) :
    paths.Nodup :=
  h.imp Path.Before.ne

namespace Node

variable {c : Context}

/-! ## Counting directives -/

/-- Every directive is counted once, at the one place where it stands. -/
theorem ncard_directives (n : Node) :
    {p | ∃ m, n.at? p = some m ∧ m.isDirective = true}.ncard = n.directives.length := by
  let found := n.places.filter fun place => place.2.isDirective
  have nodup : (found.map Prod.fst).Nodup := by
    refine nodup_of_pairwise_before (List.pairwise_map.mpr ?_)
    exact (n.pairwise_placesAt []).filter _
  have paths : {p | ∃ m, n.at? p = some m ∧ m.isDirective = true} =
      ((found.map Prod.fst).toFinset : Set Path) := by
    ext p
    simp only [Set.mem_ofPred_eq, List.coe_toFinset, List.mem_map, List.mem_filter, Prod.exists,
      exists_and_right, exists_eq_right, found, mem_places]
  rw [paths, Set.ncard_coe_finset, List.toFinset_card_of_nodup nodup, List.length_map,
    n.directives_eq [], List.length_map]
  rfl

/-- A directive of a document is one after a successful walk, and the other way round. -/
theorem directive_walk_iff {tree : Node} (ok : (tree.walk c).failure = none) (p : Path) :
    (∃ m, (tree.walk c).result.at? p = some m ∧ m.isDirective = true) ↔
      ∃ n, tree.at? p = some n ∧ n.isDirective = true := by
  have sameKind {n m : Node} (h : n.FilledIn c m) : m.isDirective = n.isDirective := by
    rw [isDirective, h.source.kind, ← isDirective]
  constructor
  · rintro ⟨m, hm, isDirective⟩
    cases hp : tree.at? p with
    | none =>
      -- a new node is a label, and a label is no directive
      obtain ⟨-, -, label, -, -, -, rfl⟩ := (new_place_walk_iff ok).mp ⟨hp, hm⟩
      cases isDirective
    | some n =>
      exact ⟨n, rfl, sameKind (filledIn_walk ok hp hm) ▸ isDirective⟩
  · rintro ⟨n, hp, isDirective⟩
    obtain ⟨m, hm, filled⟩ := exists_filledIn_walk ok hp
    exact ⟨m, hm, (sameKind filled).trans isDirective⟩

/-- A successful walk neither adds nor removes a directive. -/
theorem length_directives_walk {tree : Node} (ok : (tree.walk c).failure = none) :
    (tree.walk c).result.directives.length = tree.directives.length := by
  rw [← ncard_directives, ← ncard_directives]
  exact congrArg Set.ncard (Set.ext (directive_walk_iff ok))

/-! ## Open links -/

/-- What a successful walk has found, read off the places of the document. -/
theorem found_walk {tree : Node} (ok : (tree.walk c).failure = none) :
    (tree.walk c).found = ⟨tree.directives.length, openLinks tree.places⟩ := by
  rw [walk, found_walkAt ok, tree.directives_eq [], List.length_map, List.countP_eq_length_filter]
  rfl

/-- The open links of a document are its links to forms. -/
theorem mem_openLinks_places {tree : Node} {link : DeferredLink} :
    link ∈ openLinks tree.places ↔
      ∃ n, tree.at? link.path = some n ∧ n.IsLink ∧ n.attribute? "email" = none ∧
        n.attribute? "form" = some link.form := by
  simp only [mem_openLinks, mem_places, openForm?_eq_some_iff]

/-- The target of a link to a form stays open, and no label is made up for it. -/
theorem FilledIn.openLink {n m : Node} {form : String} (h : n.FilledIn c m)
    (named : n.openForm? = some form) :
    form ≠ "" ∧ m.tag? = some .a ∧ m.href? = some "" ∧ n.SameRow m := by
  have isLink := (openForm?_eq_some_iff.mp named).1
  obtain ⟨target, ht, tag, href, -⟩ := h.link isLink
  rw [openForm?_of_linkTarget isLink ht] at named
  obtain rfl := LinkTarget.eq_form_of_slug? named
  -- a form is not shown, so the link keeps the children that it had
  refine ⟨(linkTarget_eq_form_iff.mp ht).2.2, tag, href, h.row fun label gets => ?_⟩
  obtain ⟨-, -, target', ht', label'⟩ := gets
  obtain rfl : LinkTarget.form form = target' := Except.ok.inj (ht.symm.trans ht')
  cases label'

theorem SameRow.hasNoChildren {n m : Node} (h : n.SameRow m) :
    m.hasNoChildren = n.hasNoChildren := by
  rw [Bool.eq_iff_iff, hasNoChildren_iff, hasNoChildren_iff, ← List.length_eq_zero_iff,
    ← List.length_eq_zero_iff, h.2]

/-- An open link of a document still is one after a successful walk. -/
theorem exists_openLink_walk {tree : Node} (ok : (tree.walk c).failure = none)
    {link : DeferredLink} (h : link ∈ openLinks tree.places) :
    link.form ≠ "" ∧ ∃ n m, tree.at? link.path = some n ∧
      (tree.walk c).result.at? link.path = some m ∧ n.FilledIn c m ∧
      m.tag? = some .a ∧ m.href? = some "" ∧ m.hasNoChildren = n.hasNoChildren := by
  obtain ⟨n, hp, named⟩ := mem_openLinks.mp h
  have hp := mem_places.mp hp
  obtain ⟨m, hm, filled⟩ := exists_filledIn_walk ok hp
  obtain ⟨filledForm, tag, href, row⟩ := filled.openLink named
  exact ⟨filledForm, n, m, hp, hm, filled, tag, href, row.hasNoChildren⟩

/-- The listed links have paths of their own. -/
theorem nodup_deferred {tree : Node} {found : Found}
    (h : (tree.walk c).outcome = .ok found) :
    (found.deferred.map DeferredLink.path).Nodup := by
  obtain ⟨ok, eq⟩ := Walk.outcome_eq_ok_iff.mp h
  rw [← eq, found_walk ok]
  exact nodup_of_pairwise_before (pairwise_openLinks (tree.pairwise_placesAt []))

/-- The listed links are found in the document that has been filled in. -/
theorem isSome_at?_deferred {tree : Node} {found : Found}
    (h : (tree.walk c).outcome = .ok found) :
    ∀ link ∈ found.deferred, ((tree.walk c).result.at? link.path).isSome := by
  obtain ⟨ok, eq⟩ := Walk.outcome_eq_ok_iff.mp h
  intro link mem
  rw [← eq, found_walk ok] at mem
  obtain ⟨-, n, m, -, hm, -⟩ := exists_openLink_walk ok mem
  rw [hm]
  rfl

/-- **What a successful walk has found.** It has counted every directive of the document once, and
the walk has left as many. It lists the links to forms, which are the links without an address
that name a form, in document order, each of them once and with its form. At the path of each of
them the document holds the same link with an empty target, without a label if it had none. -/
theorem walk_found {tree : Node} {found : Found} (h : (tree.walk c).outcome = .ok found) :
    (found.directives = {p | ∃ n, tree.at? p = some n ∧ n.isDirective = true}.ncard ∧
      found.directives = tree.directives.length ∧
      found.directives = (tree.walk c).result.directives.length) ∧
    ((found.deferred.map DeferredLink.path).Pairwise Path.Before ∧
      (found.deferred.map DeferredLink.path).Nodup) ∧
    (∀ link, link ∈ found.deferred ↔
      ∃ n, tree.at? link.path = some n ∧ n.IsLink ∧ n.attribute? "email" = none ∧
        n.attribute? "form" = some link.form) ∧
    ∀ link ∈ found.deferred, link.form ≠ "" ∧ ∃ n m, tree.at? link.path = some n ∧
      (tree.walk c).result.at? link.path = some m ∧ n.FilledIn c m ∧
      m.tag? = some .a ∧ m.href? = some "" ∧ m.hasNoChildren = n.hasNoChildren := by
  obtain ⟨ok, rfl⟩ := Walk.outcome_eq_ok_iff.mp h
  rw [found_walk ok]
  have ordered := pairwise_openLinks (tree.pairwise_placesAt [])
  refine ⟨⟨(ncard_directives tree).symm, rfl, (length_directives_walk ok).symm⟩,
    ⟨ordered, nodup_of_pairwise_before ordered⟩, fun link => mem_openLinks_places, ?_⟩
  intro link mem
  exact exists_openLink_walk ok mem

theorem walk_found_letter :
    (letter.walk .sample).outcome = .ok ⟨4, [⟨[0, 3], "review"⟩]⟩ ∧
      4 = (letter.walk .sample).result.directives.length ∧
      ∃ n m, letter.at? [0, 3] = some n ∧ (letter.walk .sample).result.at? [0, 3] = some m ∧
        n.FilledIn .sample m ∧ m.tag? = some .a ∧ m.href? = some "" ∧
        m.hasNoChildren = n.hasNoChildren := by
  have h : (letter.walk .sample).outcome = .ok ⟨4, [⟨[0, 3], "review"⟩]⟩ := rfl
  obtain ⟨⟨-, -, count⟩, -, -, links⟩ := walk_found h
  exact ⟨h, count, (links ⟨[0, 3], "review"⟩ (by simp)).2⟩

end Node

end MailMerge
