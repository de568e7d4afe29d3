import MailMerge.Forms.Rehearsal
import MailMerge.Proofs.Render.Calls
import MailMerge.Proofs.Render.Minted
import MailMerge.Proofs.Render.OpenLinks
import MailMerge.Render.Render

/-!
# Both phases of a rendering

The second phase finds its links by the paths that the first phase has listed, while it gives
labels to some of them. A label lies below a link that had no children, where no place of the
document was, so no write moves another link, and all writes together are one edit. Hence the
second phase cannot lose a link: it ends in a failed request and leaves the document alone, or it
writes each link at the place of its own request.

## Main definitions

* `Node.writing`: what minted links make of a node.
* `Node.Written`: a node after its link has been written.
* `Node.LinksWritten`: a document after its links have been written.
* `Node.resolveBy`: the second phase, with the way in which its links are polled as a parameter.

## Main results

* `writeLinks_eq_edit`: writing links one after the other is one edit.
* `linksWritten_edit`: that edit writes the links and changes nothing else.
* `render_phases`: what both phases do together.
-/

namespace MailMerge

namespace Node

/-! ## One link -/

/-- What minted links make of the node at a path: the link for this path is written on it. -/
def writing (links : List (DeferredLink × String)) (p : Path) (n : Node) : Node :=
  match links.find? fun l => l.1.path = p with
  | some l => n.writeLink l.2
  | none => n

/-- A node after the link `url` has been written on it: nothing but its target changes, and it
shows the link if it had nothing to show. -/
structure Written (n : Node) (url : String) (m : Node) : Prop where
  own : m.own = (n.setHref url).own
  href : m.href? = some url
  labelled : n.hasNoChildren = true → m.children = some [.text url]
  row : n.hasNoChildren = false → n.SameRow m

theorem own_writeLink (n : Node) (url : String) : (n.writeLink url).own = (n.setHref url).own := by
  rw [writeLink, label]
  split <;> rfl

theorem writeLink_of_children {n : Node} (h : n.hasNoChildren = false) (url : String) :
    n.writeLink url = n.setHref url := by
  rw [writeLink, label_of_children h]

theorem children_writeLink {n : Node} (h : n.hasNoChildren = true) (url : String) :
    (n.writeLink url).children = some [.text url] := by
  rw [writeLink, label, if_pos h]
  rfl

theorem children_writeLink_of_children {n : Node} (h : n.hasNoChildren = false) (url : String) :
    (n.writeLink url).children = n.children := by
  rw [writeLink_of_children h]
  rfl

/-- Writing a link does not look at existing children. -/
theorem local_writeLink (p : Path) (url : String) : Local (only p fun n => n.writeLink url) := by
  intro q n children hn some_children
  by_cases eq : q = p
  · have h : ({ n with children := some children } : Node).hasNoChildren = false :=
      hasNoChildren_eq_false_iff.mpr some_children
    rw [eq, only_self, only_self, writeLink_of_children h, writeLink_of_children hn]
    rfl
  · rw [only_of_ne eq, only_of_ne eq]

/-- A node without children gets the link as its only child. -/
theorem at?_writeLink {n m : Node} (h : n.hasNoChildren = true) (url : String) (i : Nat)
    (p : Path) : (n.writeLink url).at? (i :: p) = some m ↔ i = 0 ∧ p = [] ∧ m = .text url :=
  at?_of_label (children_writeLink h url) i p

/-! ## All links -/

section Writing

variable {links : List (DeferredLink × String)} {p : Path}

theorem writing_cons_self (link : DeferredLink) (url : String) (n : Node) :
    writing ((link, url) :: links) link.path n = n.writeLink url := by
  simp [writing]

theorem writing_cons_of_ne {link : DeferredLink} (h : p ≠ link.path) (url : String) (n : Node) :
    writing ((link, url) :: links) p n = writing links p n := by
  rw [writing, List.find?_cons_of_neg (by simpa using h.symm)]
  rfl

/-- Where no link is to be written, nothing is. -/
theorem writing_of_forall_ne (h : ∀ l ∈ links, l.1.path ≠ p) (n : Node) :
    writing links p n = n := by
  rw [writing, List.find?_eq_none.mpr fun l mem => by simpa using h l mem]

/-- Where a link is to be written, it is: no other one has its path. -/
theorem writing_of_mem (distinct : (links.map fun l => l.1.path).Nodup) {link : DeferredLink}
    {url : String} (mem : (link, url) ∈ links) (n : Node) :
    writing links link.path n = n.writeLink url := by
  induction links with
  | nil => cases mem
  | cons first rest ih =>
    obtain ⟨fresh, distinct⟩ := List.nodup_cons.mp distinct
    rcases List.mem_cons.mp mem with rfl | mem
    · exact writing_cons_self link url n
    · have ne : link.path ≠ first.1.path := by
        intro eq
        exact fresh (List.mem_map.mpr ⟨_, mem, eq⟩)
      rw [writing_cons_of_ne ne]
      exact ih distinct mem

theorem local_writing (links : List (DeferredLink × String)) : Local (writing links) := by
  intro q n children hn some_children
  rw [writing, writing]
  cases links.find? fun l => l.1.path = q with
  | none => rfl
  | some l => simpa only [only_self] using local_writeLink q l.2 q n children hn some_children

/-- **Writing links one after the other is one edit.** No write moves the place of another: what it
adds lies below a node that had no children. -/
theorem writeLinks_eq_edit {tree : Node} (distinct : (links.map fun l => l.1.path).Nodup)
    (places : ∀ l ∈ links, (tree.at? l.1.path).isSome) :
    tree.writeLinks links = (tree.edit (writing links), none) := by
  induction links generalizing tree with
  | nil => rw [writeLinks, edit, editAt_eq_self fun p m _ => writing_of_forall_ne (by simp) m]
  | cons first rest ih =>
    obtain ⟨link, url⟩ := first
    obtain ⟨fresh, distinct⟩ := List.nodup_cons.mp distinct
    obtain ⟨m, hm⟩ := Option.isSome_iff_exists.mp (places (link, url) (by simp))
    have write := modifyAt?_eq_editAt (f := fun n => n.writeLink url)
      (fun n hn => children_writeLink_of_children hn url) hm []
    -- the other paths still lead to nodes after the first write
    have stay : ∀ l ∈ rest,
        ((tree.editAt (only ([] ++ link.path) fun n => n.writeLink url) []).at? l.1.path).isSome := by
      intro l mem
      obtain ⟨n, hn⟩ := Option.isSome_iff_exists.mp (places l (List.mem_cons_of_mem _ mem))
      rw [at?_editAt hn]
      rfl
    rw [writeLinks, write]
    dsimp only
    rw [ih distinct stay, edit, editAt_editAt (local_writeLink _ url) (local_writing rest)]
    -- both edits have to agree at every place that the document had before
    refine congrArg (·, none) (editAt_congr fun p n hp => ?_)
    rw [List.nil_append, List.nil_append]
    by_cases eq : p = link.path
    · subst eq
      have elsewhere : ∀ l ∈ rest, l.1.path ≠ link.path := fun l mem same =>
        fresh (List.mem_map.mpr ⟨l, mem, same⟩)
      rw [only_self, writing_cons_self]
      cases hn : n.hasNoChildren with
      | false => exact writing_of_forall_ne elsewhere _
      | true =>
        refine editAt_eq_self fun q m _ => writing_of_forall_ne (fun l mem same => ?_) m
        cases q with
        | nil => exact elsewhere l mem (by rw [same, List.append_nil])
        | cons i q =>
          -- the path of another link is a place of the document, a label is not
          have place := places l (List.mem_cons_of_mem _ mem)
          rw [same, at?_append, hp, Option.bind_some, at?_cons_of_hasNoChildren hn] at place
          cases place
    · rw [only_of_ne eq, writing_cons_of_ne eq]
      cases hn : n.hasNoChildren with
      | false => rfl
      | true => exact editAt_of_hasNoChildren hn ..

/-- A node as it stands in the document after its link has been written. -/
theorem written_editAt (distinct : (links.map fun l => l.1.path).Nodup) {link : DeferredLink}
    {url : String} (mem : (link, url) ∈ links) (n : Node) :
    n.Written url (n.editAt (writing links) link.path) := by
  have own : (n.editAt (writing links) link.path).own = (n.setHref url).own := by
    rw [own_editAt, writing_of_mem distinct mem, own_writeLink]
  refine ⟨own, ?_, fun hn => ?_, fun hn => ?_⟩
  · change (n.editAt (writing links) link.path).own.href? = some url
    rw [own]
    rfl
  · rw [editAt_of_hasNoChildren hn, writing_of_mem distinct mem, children_writeLink hn]
  · rw [editAt_of_children hn]
    exact ⟨by rw [children_of_hasNoChildren hn]; rfl, length_editAll ..⟩

/-- A node as it stands in the document after other links have been written. -/
theorem kept_editAt (h : ∀ l ∈ links, l.1.path ≠ p) (n : Node) :
    (n.editAt (writing links) p).own = n.own ∧ n.SameRow (n.editAt (writing links) p) := by
  refine ⟨by rw [own_editAt, writing_of_forall_ne h], ?_⟩
  cases hn : n.hasNoChildren with
  | true =>
    rw [editAt_of_hasNoChildren hn, writing_of_forall_ne h]
    exact .of_children rfl
  | false =>
    rw [editAt_of_children hn]
    exact ⟨by rw [children_of_hasNoChildren hn]; rfl, length_editAll ..⟩

end Writing

/-- A document after minted links have been written into it: every link at its own path, all other
nodes as they were, and nothing new but the labels of links that had none. -/
structure LinksWritten (links : List (DeferredLink × String)) (before after : Node) : Prop where
  written : ∀ link url, (link, url) ∈ links → ∃ n m, before.at? link.path = some n ∧
    after.at? link.path = some m ∧ n.Written url m
  kept : ∀ p n, before.at? p = some n → (∀ l ∈ links, l.1.path ≠ p) →
    ∃ m, after.at? p = some m ∧ m.own = n.own ∧ n.SameRow m
  new : ∀ p m, (before.at? p = none ∧ after.at? p = some m) ↔
    ∃ link url n, (link, url) ∈ links ∧ p = link.path ++ [0] ∧ before.at? link.path = some n ∧
      n.hasNoChildren = true ∧ m = .text url

theorem linksWritten_edit {links : List (DeferredLink × String)} {tree : Node}
    (distinct : (links.map fun l => l.1.path).Nodup)
    (places : ∀ l ∈ links, (tree.at? l.1.path).isSome) :
    LinksWritten links tree (tree.edit (writing links)) where
  written link url mem := by
    obtain ⟨n, hn⟩ := Option.isSome_iff_exists.mp (places _ mem)
    exact ⟨n, _, hn, at?_editAt hn .., written_editAt distinct mem n⟩
  kept p n hp elsewhere := ⟨_, at?_editAt hp .., kept_editAt elsewhere n⟩
  new p m := by
    constructor
    · rintro ⟨new, hm⟩
      obtain ⟨q, r, n, rfl, hq, hn, hr⟩ := (at?_editAt_of_none new ..).mp hm
      rw [List.nil_append] at hr
      cases r with
      | nil => simp [hq] at new
      | cons i r =>
        -- only a written link has left anything below its node
        by_cases h : ∀ l ∈ links, l.1.path ≠ q
        · rw [writing_of_forall_ne h, at?_cons_of_hasNoChildren hn] at hr
          cases hr
        · push Not at h
          obtain ⟨⟨link, url⟩, mem, rfl⟩ := h
          rw [writing_of_mem distinct mem] at hr
          obtain ⟨rfl, rfl, rfl⟩ := (at?_writeLink hn url i r).mp hr
          exact ⟨link, url, n, mem, rfl, hq, hn, rfl⟩
    · rintro ⟨link, url, n, mem, rfl, hq, hn, rfl⟩
      have new : tree.at? (link.path ++ [0]) = none := by
        rw [at?_append, hq, Option.bind_some, at?_cons_of_hasNoChildren hn]
      refine ⟨new, (at?_editAt_of_none new ..).mpr ⟨link.path, [0], n, rfl, hq, hn, ?_⟩⟩
      rw [List.nil_append, writing_of_mem distinct mem]
      exact (at?_writeLink hn url 0 []).mpr ⟨rfl, rfl, rfl⟩

/-- Links with paths of their own that lead to nodes are all written, one minted link each. -/
theorem exists_linksWritten {links : List DeferredLink} {urls : List String} {tree : Node}
    (length : urls.length = links.length) (distinct : (links.map DeferredLink.path).Nodup)
    (places : ∀ link ∈ links, (tree.at? link.path).isSome) :
    ∃ after, tree.writeLinks (links.zip urls) = (after, none) ∧
      LinksWritten (links.zip urls) tree after := by
  have paths : ((links.zip urls).map fun l => l.1.path) = links.map DeferredLink.path :=
    calc ((links.zip urls).map fun l => l.1.path)
      _ = ((links.zip urls).map Prod.fst).map DeferredLink.path := by rw [List.map_map]; rfl
      _ = links.map DeferredLink.path := by rw [List.map_fst_zip length.ge]
  have distinct' : ((links.zip urls).map fun l => l.1.path).Nodup := by rwa [paths]
  have places' : ∀ l ∈ links.zip urls, (tree.at? l.1.path).isSome := fun l mem =>
    places l.1 (List.of_mem_zip mem).1
  exact ⟨_, writeLinks_eq_edit distinct' places', linksWritten_edit distinct' places'⟩

/-! ## The second phase -/

section Resolve

variable {σ : Type} {service : FormService σ} {c : Context} {links : List DeferredLink} {s : σ}
  {tree : Node}

/-- Resolves the open links of a document; `polled` is what becomes of their tasks. -/
def resolveBy (polled : Join σ → Join σ) (links : List DeferredLink) (s : σ) (tree : Node) :
    Resolved σ :=
  if links.isEmpty then ⟨tree, .ok 0, s, [], []⟩
  else
    let join := polled (.start (links.map DeferredLink.form) s)
    let notices := .resolving links.length :: join.notices
    match join.outcome with
    | .error e => ⟨tree, .error e, join.state, join.events, notices⟩
    | .ok urls =>
      match tree.writeLinks (links.zip urls) with
      | (tree, some e) => ⟨tree, .error e, join.state, join.events, notices⟩
      | (tree, none) => ⟨tree, .ok links.length, join.state, join.events, notices⟩

/-- The second phase polls round by round. -/
theorem resolve_eq_resolveBy (service : FormService σ) (c : Context) (links : List DeferredLink)
    (s : σ) (tree : Node) :
    tree.resolve service c links s = tree.resolveBy (Join.run service c) links s := rfl

/-- The second phase leaves the service as its join does, and nothing happens but in the join. -/
theorem state_resolveBy {polled : Join σ → Join σ} (idle : polled (.start [] s) = .start [] s)
    (links : List DeferredLink) (tree : Node) :
    (tree.resolveBy polled links s).outcome.state =
        (polled (.start (links.map DeferredLink.form) s)).state ∧
      (tree.resolveBy polled links s).outcome.events =
        (polled (.start (links.map DeferredLink.form) s)).events := by
  cases links with
  | nil =>
    rw [List.map_nil, idle]
    exact ⟨rfl, rfl⟩
  | cons link links =>
    rw [resolveBy, if_neg (by simp)]
    dsimp only
    split
    · exact ⟨rfl, rfl⟩
    · split <;> exact ⟨rfl, rfl⟩

theorem resolveBy_of_error {polled : Join σ → Join σ} {e : DirectiveError} (some_link : links ≠ [])
    (h : (polled (.start (links.map DeferredLink.form) s)).outcome = .error e) :
    (tree.resolveBy polled links s).outcome.result = .error e ∧
      (tree.resolveBy polled links s).tree = tree := by
  rw [resolveBy, if_neg (by simpa using some_link)]
  dsimp only
  rw [h]
  exact ⟨rfl, rfl⟩

/-- The links of a join without failure are written into the document. -/
theorem resolveBy_of_ok {polled : Join σ → Join σ} {urls : List String}
    (h : (polled (.start (links.map DeferredLink.form) s)).outcome = .ok urls) (tree : Node) :
    (tree.resolveBy polled links s).tree = (tree.writeLinks (links.zip urls)).1 ∧
      (tree.resolveBy polled links s).outcome.result =
        (tree.writeLinks (links.zip urls)).2.elim (.ok links.length) .error := by
  cases links with
  | nil => exact ⟨rfl, rfl⟩
  | cons link links =>
    rw [resolveBy, if_neg (by simp)]
    dsimp only
    rw [h]
    dsimp only
    split <;> rename_i written <;> rw [written] <;> exact ⟨rfl, rfl⟩

/-- The second phase ends in a failed request, with the document left alone, or it writes every
link that it has been given, each of them minted by its own task. -/
theorem resolve_cases (service : FormService σ) (c : Context) (s : σ)
    (distinct : (links.map DeferredLink.path).Nodup)
    (places : ∀ link ∈ links, (tree.at? link.path).isSome) :
    (∃ operation form source,
      ((Join.start (links.map DeferredLink.form) s).run service c).outcome =
        .error (.serviceFailure operation form source) ∧
      (tree.resolve service c links s).outcome.result =
        .error (.serviceFailure operation form source) ∧
      (tree.resolve service c links s).tree = tree) ∨
    ∃ urls schedule,
      ((Join.start (links.map DeferredLink.form) s).run service c).outcome = .ok urls ∧
      (tree.resolve service c links s).outcome.result = .ok links.length ∧
      urls.length = links.length ∧
      (Join.start (links.map DeferredLink.form) s).run service c =
        (Join.start (links.map DeferredLink.form) s).follow service c schedule ∧
      (∀ k link url, (links.zip urls)[k]? = some (link, url) →
        (Join.start (links.map DeferredLink.form) s).Minted service c schedule k link.form url) ∧
      LinksWritten (links.zip urls) tree (tree.resolve service c links s).tree := by
  rw [resolve_eq_resolveBy]
  rcases Join.outcome_run service c (links.map DeferredLink.form) s with
    ⟨operation, form, source, mem, outcome⟩ | ⟨urls, schedule, outcome, length, run, minted⟩
  · left
    have some_link : links ≠ [] := by
      rintro rfl
      cases mem
    exact ⟨operation, form, source, outcome, resolveBy_of_error some_link outcome⟩
  · right
    rw [List.length_map] at length
    obtain ⟨after, write, written⟩ := exists_linksWritten length distinct places
    obtain ⟨tree', result⟩ := resolveBy_of_ok outcome tree
    rw [write] at tree' result
    refine ⟨urls, schedule, outcome, result, length, run, fun k link url hk => ?_, ?_⟩
    · obtain ⟨hlink, hurl⟩ := List.getElem?_zip_eq_some.mp hk
      exact minted k link.form url (by rw [List.getElem?_map, hlink]; rfl) hurl
    · rw [tree']
      exact written

/-- **Both phases of a rendering.** If the first phase fails, its failure is the answer and the
service is not called at all. If it succeeds, no link that it has listed is ever lost: the second
phase ends in a failed request, with the document as the first phase has left it, or it resolves
every listed link. Then each of them has been minted by its own task and stands at its own path,
everything else is as the first phase has left it, and the counts of both phases are reported. -/
theorem render_phases (service : FormService σ) (c : Context) (s : σ) (tree : Node) :
    (∀ e, (tree.walk c).outcome = .error e →
      (tree.render service c s).result = .error e ∧ (tree.render service c s).state = s ∧
        (tree.render service c s).events = [] ∧
        (tree.render service.recording c (s, [])).state = (s, [])) ∧
    ∀ found, (tree.walk c).outcome = .ok found →
      let filled := (tree.walk c).result
      let resolved := filled.resolve service c found.deferred s
      let join := Join.start (found.deferred.map DeferredLink.form) s
      (∃ operation form source,
        (join.run service c).outcome = .error (.serviceFailure operation form source) ∧
        resolved.outcome.result = .error (.serviceFailure operation form source) ∧
        resolved.tree = filled ∧
        (tree.render service c s).result = .error (.serviceFailure operation form source)) ∨
      ∃ urls schedule, (join.run service c).outcome = .ok urls ∧
        resolved.outcome.result = .ok found.deferred.length ∧
        urls.length = found.deferred.length ∧
        join.run service c = join.follow service c schedule ∧
        (∀ k link url, (found.deferred.zip urls)[k]? = some (link, url) →
          join.Minted service c schedule k link.form url) ∧
        LinksWritten (found.deferred.zip urls) filled resolved.tree ∧
        (tree.render service c s).result =
          .ok ⟨resolved.tree, found.directives, found.deferred.length⟩ := by
  constructor
  · intro e h
    rw [render_of_failure service c s h, render_of_failure service.recording c (s, []) h]
    exact ⟨rfl, rfl, rfl, rfl⟩
  · intro found h
    obtain ⟨ok, eq⟩ := Walk.outcome_eq_ok_iff.mp h
    have deferred : found.deferred = openLinks tree.places := by rw [← eq, found_walk ok]
    have distinct : (found.deferred.map DeferredLink.path).Nodup := by
      rw [deferred]
      exact nodup_of_pairwise_before (pairwise_openLinks (tree.pairwise_placesAt []))
    have places : ∀ link ∈ found.deferred, ((tree.walk c).result.at? link.path).isSome := by
      intro link mem
      rw [deferred] at mem
      obtain ⟨-, n, m, -, hm, -⟩ := exists_openLink_walk ok mem
      rw [hm]
      rfl
    -- the listed paths lead to nodes of the filled document, so the second phase loses none
    rcases resolve_cases service c s distinct places with
      ⟨operation, form, source, outcome, result, same⟩ |
      ⟨urls, schedule, outcome, result, length, run, minted, written⟩
    · refine .inl ⟨operation, form, source, outcome, result, same, ?_⟩
      rw [render]
      dsimp only
      rw [h]
      dsimp only
      rw [result]
    · refine .inr ⟨urls, schedule, outcome, result, length, run, minted, written, ?_⟩
      rw [render]
      dsimp only
      rw [h]
      dsimp only
      rw [result]

end Resolve

theorem render_phases_letter :
    (letter.walk .sample).outcome = .ok ⟨4, [⟨[0, 3], "review"⟩]⟩ ∧
      ∃ tree, (letter.render (Rehearsal.plain.service Unit) .sample ()).result = .ok ⟨tree, 4, 1⟩ ∧
        ∃ n m, (letter.walk .sample).result.at? [0, 3] = some n ∧ tree.at? [0, 3] = some m ∧
          n.Written "https://forms.test/review/fill?token=token-user-ada" m := by
  have h : (letter.walk .sample).outcome = .ok ⟨4, [⟨[0, 3], "review"⟩]⟩ := rfl
  have run : (Join.start ["review"] ()).run (Rehearsal.plain.service Unit) .sample =
      (Join.start ["review"] ()).round (Rehearsal.plain.service Unit) .sample := by
    rw [Join.run, if_pos (by decide), Join.run, if_neg (by decide)]
  have minted : ((Join.start ["review"] ()).run (Rehearsal.plain.service Unit) .sample).outcome =
      .ok ["https://forms.test/review/fill?token=token-user-ada"] := by rw [run]; rfl
  rcases (render_phases (Rehearsal.plain.service Unit) .sample () letter).2 _ h with
    ⟨operation, form, source, outcome, -⟩ | ⟨urls, schedule, outcome, -, -, -, -, written, result⟩
  · cases outcome.symm.trans minted
  · obtain rfl := Except.ok.inj (outcome.symm.trans minted)
    exact ⟨h, _, result, written.written ⟨[0, 3], "review"⟩ _ (by simp)⟩

end Node

end MailMerge
