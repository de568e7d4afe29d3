import MailMerge.Proofs.Render.Resolve

/-!
# A second phase that is interrupted

The second phase may be given any list of links, also one of another document. Requests are made
for all of them first, and a request that fails leaves the document alone. But a path that leads
nowhere is noticed only when its link is to be written, and the links in front of it have been
written by then, so the document is left with some of the links. Which path leads nowhere can be
told beforehand: a write adds nothing but a label, which is the first child of the link that gets
it.

## Main definitions

* `Node.Lost`: a path that leads nowhere once the links in front of it have been written.
* `Node.AllFound`, `Node.Stops`: no link of a list is lost, or a certain one is the first.
* `Node.Receives`: what writes leave of a document.

## Main results

* `isSome_at?_of_write`: the places of a document with one more link.
* `writeLinks_cases`: either all links are written, or those in front of the first lost one.
* `resolve_interrupted`: when the second phase fails, and what it leaves behind.
-/

namespace MailMerge

namespace Node

variable {tree n m : Node} {p q : Path} {url : String}

/-! ## One write -/

/-- A write is an edit of the node of the link. -/
theorem exists_editAt_of_write (h : n.modifyAt? (fun k => k.writeLink url) p = some m) :
    ∃ k, n.at? p = some k ∧ m = n.editAt (only p fun k => k.writeLink url) [] := by
  have place : (n.at? p).isSome := by
    rw [← isSome_modifyAt? n (fun k => k.writeLink url), h]
    rfl
  obtain ⟨k, hk⟩ := Option.isSome_iff_exists.mp place
  have edit := modifyAt?_eq_editAt (f := fun k => k.writeLink url)
    (fun n hn => children_writeLink_of_children hn url) hk []
  exact ⟨k, hk, Option.some.inj (h.symm.trans edit)⟩

/-- A write adds nothing but a first child to the node of the link, and only if it had none. -/
theorem isSome_at?_of_write (h : n.modifyAt? (fun k => k.writeLink url) p = some m) (q : Path) :
    (m.at? q).isSome ↔ (n.at? q).isSome ∨ q = p ++ [0] := by
  obtain ⟨k, hk, rfl⟩ := exists_editAt_of_write h
  cases hq : n.at? q with
  | some x =>
    rw [at?_editAt hq]
    exact ⟨fun _ => .inl rfl, fun _ => rfl⟩
  | none =>
    rw [Option.isSome_iff_exists]
    simp only [at?_editAt_of_none hq, List.nil_append, Option.isSome_none, Bool.false_eq_true,
      false_or]
    constructor
    · rintro ⟨x, q, r, parent, rfl, hparent, bare, hr⟩
      cases r with
      | nil => simp [hparent] at hq
      | cons i r =>
        by_cases eq : q = p
        · subst eq
          rw [only_self] at hr
          obtain ⟨rfl, rfl, -⟩ := (at?_writeLink bare url i r).mp hr
          rfl
        · rw [only_of_ne eq, at?_cons_of_hasNoChildren bare] at hr
          cases hr
    · rintro rfl
      cases bare : k.hasNoChildren with
      | true =>
        exact ⟨.text url, p, [0], k, rfl, hk, bare,
          by rw [only_self]; exact (at?_writeLink bare url 0 []).mpr ⟨rfl, rfl, rfl⟩⟩
      | false =>
        -- a node with children has had a first child before
        obtain ⟨child, children, eq⟩ :=
          List.exists_cons_of_ne_nil (hasNoChildren_eq_false_iff.mp bare)
        rw [at?_append, hk, Option.bind_some, at?_cons, eq] at hq
        cases hq

/-- A write changes no other node but in its children. -/
theorem own_of_write (h : n.modifyAt? (fun k => k.writeLink url) p = some m) {x : Node}
    (hq : n.at? q = some x) (ne : q ≠ p) : ∃ y, m.at? q = some y ∧ y.own = x.own := by
  obtain ⟨k, hk, rfl⟩ := exists_editAt_of_write h
  exact ⟨_, at?_editAt hq .., by rw [own_editAt, List.nil_append, only_of_ne ne]⟩

/-! ## Many writes -/

/-- A path that leads nowhere in a document, also after links have been written at the paths
`written`. -/
def Lost (tree : Node) (written : List Path) (p : Path) : Prop :=
  tree.at? p = none ∧ ∀ q ∈ written, p ≠ q ++ [0]

instance (tree : Node) (written : List Path) (p : Path) : Decidable (tree.Lost written p) :=
  inferInstanceAs (Decidable (_ ∧ _))

/-- A link that has been written need not be thought of any more. -/
theorem lost_cons_iff (h : n.modifyAt? (fun k => k.writeLink url) p = some m)
    (written : List Path) : n.Lost (p :: written) q ↔ m.Lost written q := by
  have places := isSome_at?_of_write h q
  rw [Lost, Lost, List.forall_mem_cons, ← and_assoc]
  refine and_congr_left' ?_
  rw [← Option.not_isSome_iff_eq_none, ← Option.not_isSome_iff_eq_none, places, not_or]

/-- A path to a label is lost until the link has got it. -/
example : (root [inlineDirective "link" []]).Lost [] [0, 0] ∧
    ¬ (root [inlineDirective "link" []]).Lost [[0]] [0, 0] := by
  decide

/-- None of the links is lost when its turn comes. -/
def AllFound (tree : Node) (links : List DeferredLink) : Prop :=
  ∀ earlier link later, links = earlier ++ link :: later →
    ¬ tree.Lost (earlier.map DeferredLink.path) link.path

/-- The place in a list of links where writing them stops: `link` is lost, and none of the links in
front of it is. -/
structure Stops (tree : Node) (links earlier : List DeferredLink) (link : DeferredLink)
    (later : List DeferredLink) : Prop where
  split : links = earlier ++ link :: later
  lost : tree.Lost (earlier.map DeferredLink.path) link.path
  found : tree.AllFound earlier

/-- What writes leave of a document: nothing is new but the labels of the links, and no node but
theirs has changed other than in its children. -/
structure Receives (tree : Node) (links : List DeferredLink) (after : Node) : Prop where
  places : ∀ p, (after.at? p).isSome ↔
    (tree.at? p).isSome ∨ ∃ link ∈ links, p = link.path ++ [0]
  kept : ∀ p n, tree.at? p = some n → (∀ link ∈ links, link.path ≠ p) →
    ∃ m, after.at? p = some m ∧ m.own = n.own

variable {links earlier later : List DeferredLink} {link first : DeferredLink}

theorem allFound_nil (tree : Node) : tree.AllFound [] := by
  intro earlier link later eq
  simp at eq

theorem allFound_cons_iff (h : n.modifyAt? (fun k => k.writeLink url) first.path = some m) :
    n.AllFound (first :: links) ↔ m.AllFound links := by
  constructor
  · rintro found earlier link later rfl lost
    exact found (first :: earlier) link later rfl ((lost_cons_iff h _).mpr lost)
  · intro found earlier link later eq
    cases earlier with
    | nil =>
      obtain ⟨rfl, -⟩ := List.cons.inj eq
      rintro ⟨gone, -⟩
      have place := isSome_modifyAt? n (fun k => k.writeLink url) first.path
      rw [h, gone] at place
      cases place
    | cons l earlier =>
      obtain ⟨rfl, rest⟩ := List.cons.inj eq
      rw [List.map_cons, lost_cons_iff h]
      exact found earlier link later rest

theorem Stops.cons (h : n.modifyAt? (fun k => k.writeLink url) first.path = some m)
    (stops : m.Stops links earlier link later) :
    n.Stops (first :: links) (first :: earlier) link later where
  split := by rw [stops.split, List.cons_append]
  lost := (lost_cons_iff h _).mpr stops.lost
  found := (allFound_cons_iff h).mpr stops.found

/-- There is nothing to stop at if all links are found. -/
theorem Stops.not_allFound (stops : tree.Stops links earlier link later) : ¬ tree.AllFound links :=
  fun found => found earlier link later stops.split stops.lost

/-- Paths that lead to nodes from the first are not lost. -/
theorem allFound_of_places (places : ∀ link ∈ links, (tree.at? link.path).isSome) :
    tree.AllFound links := by
  rintro earlier link later rfl ⟨gone, -⟩
  have place := places link List.mem_append_cons_self
  rw [gone] at place
  cases place

theorem Receives.nil (tree : Node) : tree.Receives [] tree where
  places p := by simp
  kept p n hp _ := ⟨n, hp, rfl⟩

theorem Receives.cons (h : n.modifyAt? (fun k => k.writeLink url) first.path = some m)
    (rest : m.Receives links tree) : n.Receives (first :: links) tree where
  places p := by
    rw [rest.places, isSome_at?_of_write h, or_assoc]
    simp only [List.mem_cons, exists_eq_or_imp]
  kept p x hp elsewhere := by
    obtain ⟨here, elsewhere⟩ := List.forall_mem_cons.mp elsewhere
    obtain ⟨y, hy, own⟩ := own_of_write h hp here.symm
    obtain ⟨z, hz, own'⟩ := rest.kept p y hy elsewhere
    exact ⟨z, hz, own'.trans own⟩

/-- Either all links are written, or the first lost one is reported and those in front of it stay
written. -/
theorem writeLinks_cases {urls : List String} (length : urls.length = links.length)
    (tree : Node) :
    (tree.AllFound links ∧ (tree.writeLinks (links.zip urls)).2 = none) ∨
    ∃ earlier link later after, tree.Stops links earlier link later ∧
      tree.writeLinks (links.zip urls) =
        (after, some (.invalidDirective "link" (.gone link.path))) ∧
      tree.writeLinks (earlier.zip urls) = (after, none) ∧ tree.Receives earlier after := by
  induction links generalizing tree urls with
  | nil => exact .inl ⟨allFound_nil tree, rfl⟩
  | cons first links ih =>
    obtain ⟨url, urls, rfl⟩ := List.exists_cons_of_length_eq_add_one length
    rw [List.zip_cons_cons, writeLinks]
    cases written : tree.modifyAt? (fun k => k.writeLink url) first.path with
    | none =>
      have gone : tree.at? first.path = none := by
        have place := isSome_modifyAt? tree (fun k => k.writeLink url) first.path
        rw [written] at place
        simpa using place.symm
      have lost : tree.Lost [] first.path := ⟨gone, List.forall_mem_nil _⟩
      exact .inr ⟨[], first, links, tree, ⟨rfl, lost, allFound_nil tree⟩, rfl, rfl, .nil tree⟩
    | some m =>
      rcases ih (Nat.succ.inj length) m with ⟨found, whole⟩ |
        ⟨earlier, link, later, after, stops, whole, part, receives⟩
      · exact .inl ⟨(allFound_cons_iff written).mpr found, whole⟩
      · refine .inr ⟨first :: earlier, link, later, after, stops.cons written, whole, ?_,
          receives.cons written⟩
        rw [List.zip_cons_cons, writeLinks, written]
        exact part

/-! ## The second phase -/

/-- **When the second phase fails, and what it leaves behind.** It may be given any links, with
whatever paths. It succeeds iff all requests do and no link is lost when its turn comes. If a
request fails, the document is left alone. Otherwise the first lost link is reported and those in
front of it stay written: the document has got their labels, and no other node of it has changed on
its own. If all paths lead to nodes of the document, a failure always leaves it alone. -/
theorem resolve_interrupted {σ : Type} (service : FormService σ) (c : Context)
    (links : List DeferredLink) (s : σ) (tree : Node) :
    let resolved := tree.resolve service c links s
    let join := (Join.start (links.map DeferredLink.form) s).run service c
    (∀ count, resolved.outcome.result = .ok count ↔
      count = links.length ∧ (∃ urls, join.outcome = .ok urls) ∧ tree.AllFound links) ∧
    (∀ e, resolved.outcome.result = .error e →
      (∃ operation form source, e = .serviceFailure operation form source ∧
        join.outcome = .error e ∧ resolved.tree = tree) ∨
      ∃ urls earlier link later, join.outcome = .ok urls ∧
        tree.Stops links earlier link later ∧ e = .invalidDirective "link" (.gone link.path) ∧
        tree.writeLinks (earlier.zip urls) = (resolved.tree, none) ∧
        tree.Receives earlier resolved.tree) ∧
    ((∀ link ∈ links, (tree.at? link.path).isSome) →
      ∀ e, resolved.outcome.result = .error e → resolved.tree = tree) := by
  intro resolved join
  rcases Join.outcome_run service c (links.map DeferredLink.form) s with
    ⟨operation, form, source, mem, outcome⟩ | ⟨urls, schedule, outcome, length, -⟩
  · have some_link : links ≠ [] := by
      rintro rfl
      cases mem
    obtain ⟨result, same⟩ : resolved.outcome.result =
        .error (.serviceFailure operation form source) ∧ resolved.tree = tree :=
      resolveBy_of_error some_link outcome
    refine ⟨fun count => ⟨fun ok => ?_, ?_⟩, fun e failed => .inl ?_, fun _ _ _ => same⟩
    · cases result.symm.trans ok
    · rintro ⟨-, ⟨urls, ok⟩, -⟩
      cases outcome.symm.trans ok
    · cases result.symm.trans failed
      exact ⟨operation, form, source, rfl, outcome, same⟩
  · rw [List.length_map] at length
    obtain ⟨same, result⟩ := resolveBy_of_ok outcome tree
    rw [← resolve_eq_resolveBy] at same result
    rcases writeLinks_cases length tree with ⟨found, whole⟩ |
      ⟨earlier, link, later, after, stops, whole, part, receives⟩
    · rw [whole] at result
      have failed_not (e : DirectiveError) : resolved.outcome.result ≠ .error e := by
        intro failed
        cases result.symm.trans failed
      refine ⟨fun count => ⟨fun ok => ?_, ?_⟩, fun e failed => absurd failed (failed_not e),
        fun _ e failed => absurd failed (failed_not e)⟩
      · cases result.symm.trans ok
        exact ⟨rfl, ⟨urls, outcome⟩, found⟩
      · rintro ⟨rfl, -⟩
        exact result
    · rw [whole] at result same
      refine ⟨fun count => ⟨fun ok => ?_, ?_⟩, fun e failed => .inr ?_, fun places => ?_⟩
      · cases result.symm.trans ok
      · rintro ⟨-, -, found⟩
        exact absurd found stops.not_allFound
      · cases result.symm.trans failed
        obtain rfl : resolved.tree = after := same
        exact ⟨urls, earlier, link, later, outcome, stops, rfl, part, receives⟩
      · exact absurd (allFound_of_places places) stops.not_allFound

/-- A document with one link to a form. -/
def openLink : Node := root [inlineDirective "link" [("form", "review")]]

/-- The link of the document, and one that leads nowhere. -/
def staleLinks : List DeferredLink := [⟨[0], "review"⟩, ⟨[7], "review"⟩]

theorem resolve_staleLinks :
    let resolved := openLink.resolve (Rehearsal.plain.service Unit) .sample staleLinks ()
    resolved.outcome.result = .error (.invalidDirective "link" (.gone [7])) ∧
      (resolved.tree.at? [0, 0]).isSome := by
  intro resolved
  have run : (Join.start (staleLinks.map DeferredLink.form) ()).run
      (Rehearsal.plain.service Unit) .sample =
        (Join.start (staleLinks.map DeferredLink.form) ()).round
          (Rehearsal.plain.service Unit) .sample := by
    rw [Join.run, if_pos (by decide), Join.run, if_neg (by decide)]
  have outcome : ((Join.start (staleLinks.map DeferredLink.form) ()).run
      (Rehearsal.plain.service Unit) .sample).outcome =
        .ok ["https://forms.test/review/fill?token=token-user-ada",
          "https://forms.test/review/fill?token=token-user-ada"] := by
    rw [run]
    rfl
  obtain ⟨same, result⟩ := resolveBy_of_ok outcome openLink
  rw [← resolve_eq_resolveBy] at same result
  refine ⟨result, ?_⟩
  change ((openLink.resolve (Rehearsal.plain.service Unit) .sample staleLinks ()).tree.at? [0, 0]).isSome
  rw [same]
  rfl

theorem resolve_interrupted_staleLinks :
    let resolved := openLink.resolve (Rehearsal.plain.service Unit) .sample staleLinks ()
    ∃ urls earlier later, staleLinks = earlier ++ ⟨[7], "review"⟩ :: later ∧
      openLink.writeLinks (earlier.zip urls) = (resolved.tree, none) ∧
      openLink.Receives earlier resolved.tree := by
  intro resolved
  obtain ⟨-, failed, -⟩ :=
    resolve_interrupted (Rehearsal.plain.service Unit) .sample staleLinks () openLink
  rcases failed _ resolve_staleLinks.1 with ⟨_, _, _, eq, -⟩ |
    ⟨urls, earlier, link, later, -, stops, eq, part, receives⟩
  · cases eq
  · obtain ⟨path, form⟩ := link
    cases eq
    have mem : (⟨[7], form⟩ : DeferredLink) ∈ staleLinks :=
      stops.split ▸ List.mem_append_cons_self
    obtain rfl : form = "review" := by simpa [staleLinks] using mem
    exact ⟨urls, earlier, later, stops.split, part, receives⟩

/-- The second phase may fail without leaving the document alone. -/
theorem not_atomic : ¬ ∀ (service : FormService Unit) (c : Context) (links : List DeferredLink)
    (s : Unit) (tree : Node) (e : DirectiveError),
    (tree.resolve service c links s).outcome.result = .error e →
      (tree.resolve service c links s).tree = tree := by
  intro atomic
  obtain ⟨result, place⟩ := resolve_staleLinks
  rw [atomic _ _ _ _ _ _ result] at place
  cases place

end Node

end MailMerge
