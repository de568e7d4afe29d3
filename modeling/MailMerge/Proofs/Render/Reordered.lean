import MailMerge.Proofs.Render.Granted
import MailMerge.Proofs.Render.Resolve

/-!
# Links resolved in any order

The links of a document are written into places of their own, and no write moves the place of
another, so that all of them together are one edit of the document, which has no order. Hence open
links may be resolved in any order, all at once or in several calls, and the document is the same in
the end, as long as every request is granted.

## Main definitions

* `Node.minted`: the links of a document together with what is written for their forms.
* `Node.Resolvable`: links that can be resolved in a document.
* `Node.resolveInTurn`: links resolved in several calls.

## Main results

* `writing_perm`: what is written does not depend on the order of the links.
* `writeLinks_append`: links may be written in portions.
* `resolve_of_grants`, `resolveInTurn_of_grants`: one call and several calls are the same edit.
* `resolve_reordered`: the order of the links and of the calls does not matter.
-/

namespace MailMerge

variable {σ : Type} {service : FormService σ} {c : Context}

namespace Node

variable {tree after : Node} {links links' : List DeferredLink}

/-! ## Writing without an order -/

/-- The link that is written at each path, `url` being the one for a form. -/
def minted (url : String → String) (links : List DeferredLink) : List (DeferredLink × String) :=
  links.map fun link => (link, url link.form)

theorem paths_minted (url : String → String) (links : List DeferredLink) :
    (minted url links).map (fun l => l.1.path) = links.map DeferredLink.path := by
  rw [minted, List.map_map]
  rfl

theorem minted_append (url : String → String) (links links' : List DeferredLink) :
    minted url (links ++ links') = minted url links ++ minted url links' :=
  List.map_append

theorem minted_perm (url : String → String) (perm : links.Perm links') :
    (minted url links).Perm (minted url links') :=
  perm.map _

theorem zip_map_form (url : String → String) (links : List DeferredLink) :
    links.zip ((links.map DeferredLink.form).map url) = minted url links := by
  have zipped : (links.map id).zip (links.map (url ∘ DeferredLink.form)) = _ := List.zip_map'
  rwa [List.map_id, ← List.map_map] at zipped

/-- What is written does not depend on the order of the links. -/
theorem writing_perm {written written' : List (DeferredLink × String)}
    (distinct : (written.map fun l => l.1.path).Nodup) (perm : written.Perm written') :
    writing written = writing written' := by
  funext p n
  by_cases here : ∃ l ∈ written, l.1.path = p
  · obtain ⟨⟨link, url⟩, mem, rfl⟩ := here
    have distinct' := ((perm.map fun l => l.1.path).nodup_iff).mp distinct
    rw [writing_of_mem distinct mem, writing_of_mem distinct' (perm.mem_iff.mp mem)]
  · push Not at here
    rw [writing_of_forall_ne here,
      writing_of_forall_ne fun l mem => here l (perm.mem_iff.mpr mem)]

/-- Links may be written in portions. -/
theorem writeLinks_append {first : List (DeferredLink × String)}
    (h : tree.writeLinks first = (after, none)) (rest : List (DeferredLink × String)) :
    tree.writeLinks (first ++ rest) = after.writeLinks rest := by
  induction first generalizing tree with
  | nil =>
    obtain ⟨rfl, -⟩ := Prod.mk.inj h
    rfl
  | cons l first ih =>
    obtain ⟨link, url⟩ := l
    rw [List.cons_append, writeLinks]
    rw [writeLinks] at h
    cases written : tree.modifyAt? (fun n => n.writeLink url) link.path with
    | none =>
      rw [written] at h
      cases h
    | some m =>
      rw [written] at h
      exact ih h

/-- The links of a document can be resolved if they have paths of their own, which lead to nodes. -/
structure Resolvable (links : List DeferredLink) (tree : Node) : Prop where
  distinct : (links.map DeferredLink.path).Nodup
  places : ∀ link ∈ links, (tree.at? link.path).isSome

theorem resolvable_walk {found : Found} (h : (tree.walk c).outcome = .ok found) :
    Resolvable found.deferred (tree.walk c).result :=
  ⟨nodup_deferred h, isSome_at?_deferred h⟩

namespace Resolvable

theorem perm (h : Resolvable links tree) (perm : links'.Perm links) : Resolvable links' tree where
  distinct := (perm.map DeferredLink.path).nodup_iff.mpr h.distinct
  places link mem := h.places link (perm.mem_iff.mp mem)

theorem left (h : Resolvable (links ++ links') tree) : Resolvable links tree where
  distinct := by
    have distinct := h.distinct
    rw [List.map_append] at distinct
    exact distinct.of_append_left
  places link mem := h.places link (List.mem_append_left _ mem)

/-- The places of other links are still there after an edit. -/
theorem right (h : Resolvable (links ++ links') tree) (f : Path → Node → Node) :
    Resolvable links' (tree.edit f) where
  distinct := by
    have distinct := h.distinct
    rw [List.map_append] at distinct
    exact distinct.of_append_right
  places link mem := by
    obtain ⟨n, hn⟩ := Option.isSome_iff_exists.mp (h.places link (List.mem_append_right _ mem))
    rw [edit, at?_editAt hn]
    rfl

theorem distinct_minted (h : Resolvable links tree) (url : String → String) :
    ((minted url links).map fun l => l.1.path).Nodup := by
  rw [paths_minted]
  exact h.distinct

theorem places_minted (h : Resolvable links tree) (url : String → String) :
    ∀ l ∈ minted url links, (tree.at? l.1.path).isSome := by
  intro l mem
  obtain ⟨link, known, rfl⟩ := List.mem_map.mp mem
  exact h.places link known

theorem writeLinks (h : Resolvable links tree) (url : String → String) :
    tree.writeLinks (minted url links) = (tree.edit (writing (minted url links)), none) :=
  writeLinks_eq_edit (h.distinct_minted url) (h.places_minted url)

/-- Links may be written in portions. -/
theorem edit_append (h : Resolvable (links ++ links') tree) (url : String → String) :
    (tree.edit (writing (minted url links))).edit (writing (minted url links')) =
      tree.edit (writing (minted url (links ++ links'))) := by
  have both := writeLinks_append (h.left.writeLinks url) (minted url links')
  rw [← minted_append, h.writeLinks, (h.right _).writeLinks] at both
  exact (Prod.mk.inj both).1.symm

/-- Links may be written in any order. -/
theorem edit_perm (h : Resolvable links tree) (perm : links'.Perm links) (url : String → String) :
    tree.edit (writing (minted url links')) = tree.edit (writing (minted url links)) :=
  congrArg tree.edit (writing_perm ((h.perm perm).distinct_minted url) (minted_perm url perm))

end Resolvable

/-! ## Resolving without an order -/

section Resolve

variable {link : (user form pub : String) → String}

/-- If everything is granted, the second phase is one edit. -/
theorem resolve_of_grants (h : Resolvable links tree)
    (grants : service.Grants (links.map DeferredLink.form) link) (c : Context) (s : σ) :
    (tree.resolve service c links s).outcome.result = .ok links.length ∧
      (tree.resolve service c links s).tree =
        tree.edit (writing (minted (c.linkTo link) links)) := by
  have outcome := Join.outcome_run_of_grants grants c s
  obtain ⟨after, result⟩ := resolveBy_of_ok outcome tree
  rw [zip_map_form, h.writeLinks] at after result
  exact ⟨result, after⟩

/-- Resolves open links in several calls, one after the other. -/
def resolveInTurn (service : FormService σ) (c : Context) :
    List (List DeferredLink) → σ → Node → List (Except DirectiveError Nat) × Node
  | [], _, tree => ([], tree)
  | links :: batches, s, tree =>
    let resolved := tree.resolve service c links s
    let later := resolveInTurn service c batches resolved.outcome.state resolved.tree
    (resolved.outcome.result :: later.1, later.2)

/-- Several calls write what a single one writes. -/
theorem resolveInTurn_of_grants {batches : List (List DeferredLink)}
    (h : Resolvable batches.flatten tree)
    (grants : service.Grants (batches.flatten.map DeferredLink.form) link) (c : Context) (s : σ) :
    resolveInTurn service c batches s tree =
      (batches.map fun links => .ok links.length,
        tree.edit (writing (minted (c.linkTo link) batches.flatten))) := by
  induction batches generalizing tree s with
  | nil => exact congrArg (Prod.mk []) (Prod.mk.inj (h.writeLinks (c.linkTo link))).1
  | cons links batches ih =>
    rw [List.flatten_cons] at h grants ⊢
    rw [List.map_append] at grants
    obtain ⟨result, after⟩ := resolve_of_grants h.left
      (grants.mono (List.subset_append_left _ _)) c s
    rw [resolveInTurn, after, ih (h.right _) (grants.mono (List.subset_append_right _ _)),
      h.edit_append, result]
    rfl

end Resolve

/-- **The order of the links and of the calls does not matter.** Let a walk have left some links
open, and let a service grant every request for their forms with a link that depends on the user,
the form and the publication only. Then all links are resolved, and in any other order, whatever the
service has gone through, they are resolved to the same document. It is the same document as well
if they are resolved by calls of their own in any order, or by calls for several links at a time. -/
theorem resolve_reordered {found : Found} {c₀ : Context}
    (walked : (tree.walk c₀).outcome = .ok found) (c : Context) (service : FormService σ)
    {link : (user form pub : String) → String}
    (grants : service.Grants (found.deferred.map DeferredLink.form) link) (s : σ) :
    let filled := (tree.walk c₀).result
    let resolved := filled.resolve service c found.deferred s
    (resolved.outcome.result = .ok found.deferred.length ∧
      LinksWritten (minted (c.linkTo link) found.deferred) filled resolved.tree) ∧
    (∀ links t, links.Perm found.deferred →
      (filled.resolve service c links t).outcome.result = .ok found.deferred.length ∧
      (filled.resolve service c links t).tree = resolved.tree ∧
      resolveInTurn service c (links.map fun link => [link]) t filled =
        (links.map fun _ => .ok 1, resolved.tree)) ∧
    ∀ batches t, batches.flatten.Perm found.deferred →
      resolveInTurn service c batches t filled =
        (batches.map fun links => .ok links.length, resolved.tree) := by
  have h := resolvable_walk walked
  obtain ⟨result, after⟩ := resolve_of_grants h grants c s
  have inTurn : ∀ batches t, batches.flatten.Perm found.deferred →
      resolveInTurn service c batches t (tree.walk c₀).result =
        (batches.map fun links => .ok links.length,
          ((tree.walk c₀).result.resolve service c found.deferred s).tree) := by
    intro batches t perm
    rw [resolveInTurn_of_grants (h.perm perm) (grants.mono (perm.map DeferredLink.form).subset),
      h.edit_perm perm, after]
  refine ⟨⟨result, ?_⟩, fun links t perm => ?_, inTurn⟩
  · rw [after]
    exact linksWritten_edit (h.distinct_minted _) (h.places_minted _)
  · obtain ⟨result', after'⟩ := resolve_of_grants (h.perm perm)
      (grants.mono (perm.map DeferredLink.form).subset) c t
    refine ⟨by rw [result', perm.length_eq], by rw [after', after, h.edit_perm perm], ?_⟩
    -- calls for one link each are a special case of calls for several
    have single : (links.map fun link => [link]).flatten = links := List.flatMap_singleton' links
    rw [inTurn _ t (by rwa [single]), List.map_map]
    rfl

/-- A letter with a link to a form around another one, and a third one without a label. -/
def nestedLinks : Node :=
  .root [
    .directive .inline "link" [("form", "outer")] [
      .text "see ", .inlineDirective "link" [("form", "inner")]],
    .inlineDirective "link" [("form", "last")]]

/-- A service that lets the first form wait. -/
def slowOuter : Rehearsal :=
  { Rehearsal.plain with enrolmentDelays := Dict.empty.insert "outer" 2 }

theorem resolve_reordered_nestedLinks :
    (nestedLinks.walk .sample).outcome =
        .ok ⟨3, [⟨[0], "outer"⟩, ⟨[0, 1], "inner"⟩, ⟨[1], "last"⟩]⟩ ∧
      (slowOuter.service Unit).Grants ["outer", "inner", "last"]
        (fun user form _ => slowOuter.linkTo user form) ∧
      (resolveInTurn (slowOuter.service Unit) .sample
          [[⟨[1], "last"⟩], [⟨[0, 1], "inner"⟩, ⟨[0], "outer"⟩]] ()
          (nestedLinks.walk .sample).result).1 = [.ok 1, .ok 2] := by
  have walked : (nestedLinks.walk .sample).outcome =
      .ok ⟨3, [⟨[0], "outer"⟩, ⟨[0, 1], "inner"⟩, ⟨[1], "last"⟩]⟩ := rfl
  have grants : (slowOuter.service Unit).Grants ["outer", "inner", "last"]
      (fun user form _ => slowOuter.linkTo user form) := Rehearsal.grants (by decide)
  obtain ⟨-, -, inTurn⟩ :=
    resolve_reordered walked .sample (slowOuter.service Unit) grants ()
  exact ⟨walked, grants, congrArg Prod.fst
    (inTurn [[⟨[1], "last"⟩], [⟨[0, 1], "inner"⟩, ⟨[0], "outer"⟩]] () (by decide))⟩

end Node

end MailMerge
