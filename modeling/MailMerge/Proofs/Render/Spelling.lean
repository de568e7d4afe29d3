import MailMerge.Proofs.Directive.Failed
import MailMerge.Proofs.Render.Stopped
import MailMerge.Proofs.Tree.Spelling
import MailMerge.Render.Render

/-!
# The case of names does not matter

A directive is recognised by its name up to case, and from then on its name is only shown, in errors
and notices. So visits, walks and whole renderings of a document in normal form are the normal forms
of those of the document, and documents that are spelt alike are rendered alike.

## Main definitions

* `Visit.folded`, `Walk.folded`: what a visit and a walk make of a document in normal form.

## Main results

* `fill_folded`: the visit of a node in normal form.
* `walkAt_folded`: the walk over a document in normal form.
* `resolve_folded`: the second phase for a document in normal form.
* `walk_speltAlike`: documents that are spelt alike are rendered alike.
-/

namespace MailMerge

/-! ## Visits -/

/-- A visit with all names in small ASCII letters. -/
def Visit.folded (v : Visit) : Visit :=
  ⟨v.node.folded, v.outcome.mapError (DirectiveError.mapName Text.folded),
    v.notices.map (Notice.mapName Text.folded)⟩

namespace Node

variable {c : Context} {n m : Node}

theorem respelt_folded (isDirective : n.isDirective = true) : n.Respelt Text.folded n.folded :=
  ⟨attributes_folded n, writtenName_folded isDirective⟩

/-- No directive shows other directives. -/
theorem plain_of_filling {d : Directive} {f : Filling} (h : d.filling c n = .ok f) :
    f.element.children.map (List.map folded) = f.element.children := by
  by_cases hd : d = .link
  · subst hd
    rw [Directive.filling_link] at h
    cases target : n.linkTarget c with
    | error e => rw [target] at h; cases h
    | ok t =>
      rw [target] at h
      cases h
      rw [Filling.element_ofTarget]
      rfl
  · obtain ⟨text, element, -⟩ := Directive.exists_showsText_of_ne_link hd h
    rw [element]
    rfl

theorem withFilling_folded (isDirective : n.isDirective = true) {f : Filling}
    (plain : f.element.children.map (List.map folded) = f.element.children) :
    n.folded.withFilling (f.mapName Text.folded) = (n.withFilling f).folded := by
  have emitted := emit?_folded plain (n.labelWith f.label)
  rw [labelWith_folded] at emitted
  rw [withFilling, withFilling, Filling.mapName]
  dsimp only
  rw [emitted]
  cases (n.labelWith f.label).emit? f.element with
  | some m => rfl
  | none =>
    rw [Option.map_none, ← labelWith_folded, writtenName_folded isDirective]
    rfl

/-- The visit of a node in normal form. -/
theorem fill_folded (c : Context) (n : Node) : n.folded.fill c = (n.fill c).folded := by
  cases isDirective : n.isDirective with
  | false =>
    rw [fill_of_not_directive isDirective, fill_of_not_directive (by rwa [isDirective_folded])]
    rfl
  | true =>
    -- the name decides which directive it is, and after that it is only shown
    have recognized : Directive.ofName? n.folded.writtenName = Directive.ofName? n.writtenName := by
      rw [writtenName_folded isDirective]
      exact Directive.ofName?_congr (Text.lowerAscii_folded _)
    rw [fill, fill, isDirective_folded, if_pos isDirective, if_pos isDirective, recognized]
    cases Directive.ofName? n.writtenName with
    | none =>
      rw [writtenName_folded isDirective]
      rfl
    | some d =>
      dsimp only
      rw [(respelt_folded isDirective).filling]
      cases filled : d.filling c n with
      | error e => rfl
      | ok f =>
        simp only [Except.map, Except.mapError]
        rw [withFilling_folded isDirective (plain_of_filling filled)]
        rfl

end Node

/-! ## Walks -/

namespace Walk

variable {α α' β β' γ γ' : Type}

/-- A walk with all names in small ASCII letters, over what `f` makes of its nodes. -/
def folded (f : α → α') (w : Walk α) : Walk α' :=
  ⟨f w.result, w.found, w.failure.map (DirectiveError.mapName Text.folded),
    w.notices.map (Notice.mapName Text.folded)⟩

theorem ofVisit_folded (path : Path) (v : Visit) :
    ofVisit path v.folded = (ofVisit path v).folded Node.folded := by
  obtain ⟨node, outcome, notices⟩ := v
  rcases outcome with e | - | - | form
  · rfl
  · rfl
  · rfl
  · rw [ofVisit, ofVisit, folded, Visit.folded]
    simp [Except.mapError, Notice.mapName]

theorem andThen_folded {f : α → α'} {g : β → β'} {k : γ → γ'} {join : α → β → γ}
    {join' : α' → β' → γ'} (h : ∀ a b, join' (f a) (g b) = k (join a b)) (first : Walk α)
    (second : Walk β) (stay : β) :
    (first.folded f).andThen (second.folded g) (g stay) join' =
      (first.andThen second stay join).folded k := by
  rw [andThen, andThen, folded]
  cases first.failure with
  | some e => simp [folded, h]
  | none => simp [folded, h]

end Walk

namespace Node

variable {c : Context} {n m : Node}

theorem walkAll_folded {ns : List Node}
    (h : ∀ n ∈ ns, ∀ path, n.folded.walkAt c path = (n.walkAt c path).folded folded)
    (path : Path) (i : Nat) :
    walkAll c path i (ns.map folded) = (walkAll c path i ns).folded (List.map folded) := by
  induction ns generalizing i with
  | nil => rfl
  | cons n ns ih =>
    rw [List.map_cons, walkAll, walkAll, h n (by simp), ih fun m hm => h m (by simp [hm])]
    exact Walk.andThen_folded (fun _ _ => List.map_cons.symm) _ _ _

/-- The walk over a document in normal form. -/
theorem walkAt_folded (c : Context) (n : Node) (path : Path) :
    n.folded.walkAt c path = (n.walkAt c path).folded folded := by
  induction n using childInduction generalizing path with
  | step n ih =>
    cases hn : n.hasNoChildren with
    | true =>
      rw [walkAt_of_hasNoChildren hn, walkAt_of_hasNoChildren (by rwa [hasNoChildren_folded]),
        fill_folded, Walk.ofVisit_folded]
    | false =>
      rw [walkAt_of_children hn, walkAt_of_children (by rwa [hasNoChildren_folded]), fill_folded,
        Walk.ofVisit_folded, childList_folded, walkAll_folded ih]
      exact Walk.andThen_folded (fun n ns => (with_children_folded n ns).symm) _ _ _

theorem walk_folded (c : Context) (n : Node) : n.folded.walk c = (n.walk c).folded folded :=
  walkAt_folded c n []

/-! ## Both phases -/

theorem writeLinks_folded (n : Node) (links : List (DeferredLink × String)) :
    n.folded.writeLinks links = ((n.writeLinks links).1.folded, (n.writeLinks links).2) := by
  induction links generalizing n with
  | nil => rfl
  | cons l links ih =>
    obtain ⟨link, url⟩ := l
    have write : ∀ n : Node, (n.writeLink url).folded = n.folded.writeLink url := fun n => by
      rw [writeLink, setHref_folded, label_folded, writeLink]
    rw [writeLinks, writeLinks, modifyAt?_folded write]
    cases n.modifyAt? (fun n => n.writeLink url) link.path with
    | none => rfl
    | some n => exact ih n

section Resolve

variable {σ : Type} (service : FormService σ) (s : σ)

/-- The second phase does not look at names. -/
theorem resolve_folded (c : Context) (links : List DeferredLink) (n : Node) :
    n.folded.resolve service c links s =
      ⟨(n.resolve service c links s).tree.folded, (n.resolve service c links s).outcome⟩ := by
  rw [resolve, resolve]
  split
  · rfl
  · dsimp only
    split
    · rfl
    · rename_i urls _
      rw [writeLinks_folded]
      rcases n.writeLinks (links.zip urls) with ⟨after, - | e⟩ <;> rfl

end Resolve

/-! ## Documents that are spelt alike -/

end Node

/-- Every error is one about the directive that it names. -/
theorem DirectiveError.renamed_of_writtenName? {e : DirectiveError} {name : String}
    (h : e.writtenName? = some name) : e.renamed name = e := by
  cases e <;> cases h <;> rfl

theorem DirectiveError.exists_renamed_eq (e : DirectiveError) : ∃ name, e.renamed name = e := by
  cases e with
  | missingAttribute directive _ | missingContext directive _ | missingValue directive _
  | invalidDirective directive _ => exact ⟨directive, rfl⟩
  | serviceFailure _ _ _ => exact ⟨"", rfl⟩

namespace Node

/-- The error of a visit is one about its directive. -/
theorem renamed_of_fill {c : Context} {n : Node} {e : DirectiveError}
    (h : (n.fill c).outcome = .error e) : e.renamed n.writtenName = e := by
  have fails := (failsWith_iff (isDirective_of_error h)).mpr ⟨h, rfl⟩
  exact DirectiveError.renamed_of_writtenName? fails.writtenName?_eq

/-- Renderings that do the same with documents that are spelt alike. -/
structure RenderedAlike {σ : Type} (r r' : Outcome σ Rendered) : Prop where
  state : r'.state = r.state
  events : r'.events = r.events
  ok : ∀ rendered, r.result = .ok rendered → ∃ rendered', r'.result = .ok rendered' ∧
    rendered.tree.SpeltAlike rendered'.tree ∧ rendered'.directives = rendered.directives ∧
    rendered'.deferredLinks = rendered.deferredLinks
  error : ∀ e, r.result = .error e → ∃ name, r'.result = .error (e.renamed name)

namespace SpeltAlike

variable {c : Context} {n m : Node} (h : n.SpeltAlike m)
include h

theorem mapError_outcome_fill :
    (n.fill c).outcome.mapError (DirectiveError.mapName Text.folded) =
      (m.fill c).outcome.mapError (DirectiveError.mapName Text.folded) := by
  have same : (n.fill c).folded = (m.fill c).folded := by rw [← fill_folded, h, fill_folded]
  exact congrArg Visit.outcome same

/-- Visits of nodes that are spelt alike fail alike, each with its own name. -/
theorem outcome_fill {e : DirectiveError} (failed : (n.fill c).outcome = .error e) :
    (m.fill c).outcome = .error (e.renamed m.writtenName) := by
  have same := h.mapError_outcome_fill (c := c)
  rw [failed] at same
  cases outcome : (m.fill c).outcome with
  | ok r =>
    rw [outcome] at same
    cases same
  | error e' =>
    rw [outcome] at same
    have folded : e.mapName Text.folded = e'.mapName Text.folded := Except.error.inj same
    -- both errors are the same one in small letters, and each is one about its own directive
    rw [← renamed_of_fill outcome, ← e'.renamed_mapName Text.folded, ← folded,
      DirectiveError.renamed_mapName]

theorem exists_ok_fill (ok : ∃ r, (n.fill c).outcome = .ok r) :
    ∃ r, (m.fill c).outcome = .ok r := by
  obtain ⟨r, ok⟩ := ok
  cases outcome : (m.fill c).outcome with
  | ok r' => exact ⟨r', rfl⟩
  | error e =>
    rw [h.symm.outcome_fill outcome] at ok
    cases ok

/-- Walks over documents that are spelt alike stop at the same place. -/
theorem stopsAt {e : DirectiveError} {p : Path} {n' : Node} (stops : n.StopsAt c p n' e) :
    ∃ m', n'.SpeltAlike m' ∧ m.StopsAt c p m' (e.renamed m'.writtenName) := by
  obtain ⟨m', place, alike⟩ := h.exists_at? stops.place
  refine ⟨m', alike, place, alike.outcome_fill stops.error, fun q k before hq => ?_⟩
  -- what has been filled in before that place is filled in here as well
  obtain ⟨k', hq', alike'⟩ := h.symm.exists_at? hq
  exact alike'.symm.exists_ok_fill (stops.earlier q k' before hq')

theorem folded_walk : (n.walk c).folded folded = (m.walk c).folded folded := by
  rw [← walk_folded, h, walk_folded]

theorem result_walk : (n.walk c).result.SpeltAlike (m.walk c).result :=
  congrArg Walk.result (h.folded_walk (c := c))

/-- Walks over documents that are spelt alike find the same. -/
theorem outcome_walk {found : Found} (ok : (n.walk c).outcome = .ok found) :
    (m.walk c).outcome = .ok found := by
  obtain ⟨none, rfl⟩ := Walk.outcome_eq_ok_iff.mp ok
  have failure : (n.walk c).failure.map _ = (m.walk c).failure.map _ :=
    congrArg Walk.failure (h.folded_walk (c := c))
  rw [none, Option.map_none] at failure
  exact Walk.outcome_eq_ok_iff.mpr
    ⟨Option.map_eq_none_iff.mp failure.symm, (congrArg Walk.found (h.folded_walk (c := c))).symm⟩

/-- The place where a walk over a document fails is where walks over documents that are spelt alike
fail, with the name that stands there. -/
theorem outcome_walk_error {e : DirectiveError} (failed : (n.walk c).outcome = .error e) :
    ∃ p n' m', n'.SpeltAlike m' ∧ n.StopsAt c p n' e ∧ e.writtenName? = some n'.writtenName ∧
      m.StopsAt c p m' (e.renamed m'.writtenName) ∧
      (m.walk c).outcome = .error (e.renamed m'.writtenName) := by
  obtain ⟨p, n', stops⟩ := exists_stopsAt failed
  obtain ⟨m', alike, stops'⟩ := h.stopsAt stops
  have fails := (failsWith_iff (isDirective_of_error stops.error)).mpr ⟨stops.error, rfl⟩
  exact ⟨p, n', m', alike, stops, fails.writtenName?_eq, stops', stops'.failure_walk⟩

section Render

variable {σ : Type} (service : FormService σ) (s : σ)

theorem resolve (links : List DeferredLink) :
    (n.resolve service c links s).tree.SpeltAlike (m.resolve service c links s).tree ∧
      (m.resolve service c links s).outcome = (n.resolve service c links s).outcome := by
  have same := resolve_folded service s c links n
  rw [h, resolve_folded] at same
  obtain ⟨tree, outcome⟩ := Resolved.mk.inj same
  exact ⟨tree.symm, outcome⟩

theorem render : RenderedAlike (n.render service c s) (m.render service c s) := by
  cases outcome : (n.walk c).outcome with
  | error e =>
    obtain ⟨-, -, m', -, -, -, -, failed⟩ := h.outcome_walk_error outcome
    rw [render_of_failure service c s outcome, render_of_failure service c s failed]
    refine ⟨rfl, rfl, fun rendered ok => ?_, fun e' error => ⟨m'.writtenName, ?_⟩⟩
    · cases ok
    · cases error
      rfl
  | ok found =>
    obtain ⟨tree, same⟩ := (h.result_walk (c := c)).resolve (c := c) service s found.deferred
    simp only [Node.render, outcome, h.outcome_walk outcome, same]
    -- both second phases have the same outcome, on documents that are spelt alike
    cases ((n.walk c).result.resolve service c found.deferred s).outcome.result with
    | error e =>
      refine ⟨rfl, rfl, fun rendered ok => ?_, fun e' error => ?_⟩
      · cases ok
      · cases error
        obtain ⟨name, own⟩ := e.exists_renamed_eq
        exact ⟨name, congrArg Except.error own.symm⟩
    | ok links =>
      refine ⟨rfl, rfl, fun rendered ok => ⟨_, rfl, ?_⟩, fun e error => ?_⟩
      · cases ok
        exact ⟨tree, rfl, rfl⟩
      · cases error

end Render

end SpeltAlike

/-- **The case of names does not matter.** Let two documents be equal up to the case of ASCII letters
in the names of directives. A walk over the one succeeds iff a walk over the other does. Then it has
found the same, and at every path both are left with the same element and target, and with the same
nodes to show and the same children up to the case of names. If they fail, they do so at the same
place and with the same error, in which each shows the name as it is written there. A rendering of
both calls the service in the same way, and hands out documents that are equal up to case, or fails
alike. -/
theorem walk_speltAlike (c : Context) {tree tree' : Node} (alike : tree.SpeltAlike tree') :
    ((∃ found, (tree.walk c).outcome = .ok found) ↔
      ∃ found, (tree'.walk c).outcome = .ok found) ∧
    (∀ found, (tree.walk c).outcome = .ok found →
      (tree'.walk c).outcome = .ok found ∧
      (tree.walk c).result.SpeltAlike (tree'.walk c).result ∧
      ∀ p, Option.Rel NotedAlike ((tree.walk c).result.at? p) ((tree'.walk c).result.at? p)) ∧
    (∀ e, (tree.walk c).outcome = .error e → ∃ p n m, n.SpeltAlike m ∧
      tree.StopsAt c p n e ∧ e.writtenName? = some n.writtenName ∧
      tree'.StopsAt c p m (e.renamed m.writtenName) ∧
      (tree'.walk c).outcome = .error (e.renamed m.writtenName)) ∧
    ∀ {σ : Type} (service : FormService σ) (s : σ),
      RenderedAlike (tree.render service c s) (tree'.render service c s) := by
  refine ⟨⟨?_, ?_⟩, fun found ok =>
      ⟨alike.outcome_walk ok, alike.result_walk, alike.result_walk.at?_notedAlike⟩,
    fun e failed => alike.outcome_walk_error failed, fun service s => alike.render service s⟩
  · rintro ⟨found, ok⟩
    exact ⟨found, alike.outcome_walk ok⟩
  · rintro ⟨found, ok⟩
    exact ⟨found, alike.symm.outcome_walk ok⟩

/-- The letter with all names in another spelling. -/
def respeltLetter : Node :=
  .root [.paragraph [
    .text "Dear ", .inlineDirective "RecipientName" [],
    .inlineDirective "LINK" [("to", "https://example.org")],
    .directive .inline "link" [("form", "review")]
      [.text "for ", .inlineDirective "recipientfirstname" []]]]

theorem walk_speltAlike_letter :
    letter.SpeltAlike respeltLetter ∧
      (respeltLetter.walk .sample).outcome = .ok ⟨4, [⟨[0, 3], "review"⟩]⟩ ∧
      (inlineDirective "Salutation" []).SpeltAlike (inlineDirective "SALUTATION" []) ∧
      ((inlineDirective "SALUTATION" []).walk .sample).outcome =
        .error (.invalidDirective "SALUTATION" .unrecognized) := by
  have alike : letter.SpeltAlike respeltLetter := by
    simp [SpeltAlike, letter, respeltLetter, root, paragraph, text, inlineDirective, directive,
      bare, folded, foldedRow, foldedAll, foldedData, Kind.isDirective, Text.folded_eq_folded_iff,
      Text.lowerAscii]
  have alike' : (inlineDirective "Salutation" []).SpeltAlike
      (inlineDirective "SALUTATION" []) := by
    simp [SpeltAlike, inlineDirective, directive, bare, folded, foldedRow, foldedAll, foldedData,
      Kind.isDirective, Text.folded_eq_folded_iff, Text.lowerAscii]
  obtain ⟨-, found, -⟩ := walk_speltAlike .sample alike
  obtain ⟨-, -, failed, -⟩ := walk_speltAlike .sample alike'
  obtain ⟨p, n, m, -, -, -, stops, outcome⟩ :=
    failed (.invalidDirective "Salutation" .unrecognized) rfl
  refine ⟨alike, (found _ rfl).1, alike', ?_⟩
  have place := stops.place
  cases p with
  | nil =>
    cases place
    exact outcome
  | cons i p =>
    rw [at?_cons_of_hasNoChildren rfl] at place
    cases place

end Node

end MailMerge
