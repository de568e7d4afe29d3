import MailMerge.Context.Sample
import MailMerge.Proofs.Directive.Fill
import MailMerge.Proofs.Tree.Edit
import MailMerge.Render.Walk

/-!
# A walk is an edit

The walk visits the places of a document in document order and stops at the first visit that fails.
A walk that does not fail edits the document: every node is left as its own visit leaves it, and
what the walk has found can be read off the places of the document as it was before.

## Main definitions

* `openLinks`: the open links among places.
* `Node.GetsLabel`: links that are given a label.
* `Node.FilledIn`: what a successful walk may make of a node.

## Main results

* `failure_walkAt`: the failure of a walk is that of the first visit that fails.
* `found_walkAt`: what a successful walk has found.
* `result_walkAt`: a successful walk is an edit.
* `walk_pointwise`: the document after a successful walk, place by place.
-/

namespace MailMerge

namespace Walk

variable {α β γ : Type}

@[simp] theorem result_ofVisit (path : Path) (v : Visit) : (ofVisit path v).result = v.node := by
  unfold ofVisit
  split <;> rfl

@[simp] theorem failure_ofVisit (path : Path) (v : Visit) :
    (ofVisit path v).failure = v.error? := by
  unfold ofVisit Visit.error?
  split <;> simp_all

/-- What a single successful visit finds: a directive, which may be an open link. -/
theorem found_ofVisit {v : Visit} {r : Option Resolution} (h : v.outcome = .ok r) (path : Path) :
    (ofVisit path v).found =
      ⟨if r.isSome then 1 else 0, (v.form?.map (DeferredLink.mk path)).toList⟩ := by
  unfold ofVisit Visit.form?
  rcases r with - | - | form <;> simp [h, Resolution.form?]

theorem failure_andThen (first : Walk α) (second : Walk β) (stay : β) (join : α → β → γ) :
    (first.andThen second stay join).failure = first.failure.or second.failure := by
  unfold andThen
  cases h : first.failure <;> rfl

/-- After a first walk that has not failed the second one follows. -/
theorem andThen_of_ok {first : Walk α} (h : first.failure = none) (second : Walk β) (stay : β)
    (join : α → β → γ) :
    first.andThen second stay join =
      ⟨join first.result second.result,
        ⟨first.found.directives + second.found.directives,
          first.found.deferred ++ second.found.deferred⟩,
        second.failure, first.notices ++ second.notices⟩ := by
  rw [andThen, h]

theorem outcome_eq_ok_iff {w : Walk α} {found : Found} :
    w.outcome = .ok found ↔ w.failure = none ∧ w.found = found := by
  unfold outcome
  cases w.failure <;> simp

end Walk

/-- The open links among places, in the order of the places. -/
def openLinks (places : List (Path × Node)) : List DeferredLink :=
  places.filterMap fun place => place.2.openForm?.map (DeferredLink.mk place.1)

theorem mem_openLinks {places : List (Path × Node)} {link : DeferredLink} :
    link ∈ openLinks places ↔ ∃ n, (link.path, n) ∈ places ∧ n.openForm? = some link.form := by
  obtain ⟨path, form⟩ := link
  rw [openLinks, List.mem_filterMap]
  constructor
  · rintro ⟨⟨p, n⟩, mem, h⟩
    obtain ⟨form', named, h⟩ := Option.map_eq_some_iff.mp h
    cases h
    exact ⟨n, mem, named⟩
  · rintro ⟨n, mem, named⟩
    exact ⟨(path, n), mem, by rw [named, Option.map_some]⟩

namespace Node

variable {c : Context}

/-- What a visit of a node in this context leaves of it, wherever it stands. -/
def visited (c : Context) : Path → Node → Node := fun _ n => (n.fill c).node

/-! ## Visits in document order -/

theorem walkAt_of_hasNoChildren {n : Node} (h : n.hasNoChildren = true) (c : Context)
    (path : Path) : n.walkAt c path = .ofVisit path (n.fill c) := by
  obtain ⟨kind, name, attributes, children, value, data, others⟩ := n
  cases children with
  | none => rfl
  | some children =>
    have : children.isEmpty = true := h
    simp only [walkAt, this, if_true]

theorem walkAt_of_children {n : Node} (h : n.hasNoChildren = false) (c : Context) (path : Path) :
    n.walkAt c path =
      (Walk.ofVisit path (n.fill c)).andThen (walkAll c path 0 n.childList) n.childList
        fun n children => { n with children := some children } := by
  obtain ⟨kind, name, attributes, children, value, data, others⟩ := n
  cases children with
  | none => simp [hasNoChildren, childList] at h
  | some children =>
    have : children.isEmpty = false := h
    simp only [walkAt, this, Bool.false_eq_true, if_false]
    rfl

/-- The failure of a walk over nodes in a row is the first one below them. -/
theorem failure_walkAll {ns : List Node}
    (h : ∀ n ∈ ns, ∀ path, (n.walkAt c path).failure =
      (n.placesAt path).findSome? fun place => (place.2.fill c).error?)
    (path : Path) (i : Nat) :
    (walkAll c path i ns).failure =
      (placesOfAll path i ns).findSome? fun place => (place.2.fill c).error? := by
  induction ns generalizing i with
  | nil => rfl
  | cons n ns ih =>
    rw [walkAll, Walk.failure_andThen, placesOfAll, List.findSome?_append, h n (by simp),
      ih (fun m hm => h m (by simp [hm]))]

/-- The failure of a walk is that of the first visit in document order that fails. -/
theorem failure_walkAt (c : Context) (n : Node) (path : Path) :
    (n.walkAt c path).failure =
      (n.placesAt path).findSome? fun place => (place.2.fill c).error? := by
  induction n using childInduction generalizing path with
  | step n ih =>
    -- the node itself comes first, and only if its visit succeeds, its children follow
    have below := failure_walkAll (fun child h path => ih child h path) path 0
    rw [placesAt_eq, List.findSome?_cons]
    cases hn : n.hasNoChildren with
    | true =>
      rw [walkAt_of_hasNoChildren hn, Walk.failure_ofVisit, hasNoChildren_iff.mp hn]
      cases (n.fill c).error? <;> rfl
    | false =>
      rw [walkAt_of_children hn, Walk.failure_andThen, Walk.failure_ofVisit, below]
      cases (n.fill c).error? <;> rfl

/-- A walk succeeds iff every visit on its own does. -/
theorem failure_walkAt_eq_none_iff {n : Node} {path : Path} :
    (n.walkAt c path).failure = none ↔
      ∀ p m, n.at? p = some m → ∃ r, (m.fill c).outcome = .ok r := by
  rw [failure_walkAt, List.findSome?_eq_none_iff]
  constructor
  · intro h p m hp
    exact Visit.error?_eq_none_iff.mp (h (path ++ p, m) (mem_placesAt.mpr ⟨p, rfl, hp⟩))
  · rintro h ⟨q, m⟩ mem
    obtain ⟨p, -, hp⟩ := mem_placesAt.mp mem
    exact Visit.error?_eq_none_iff.mpr (h p m hp)

/-- What succeeds for a node succeeds for its children. -/
theorem failure_walkAt_of_child {n child : Node} {path : Path} (mem : child ∈ n.childList)
    (h : (n.walkAt c path).failure = none) (path' : Path) :
    (child.walkAt c path').failure = none := by
  obtain ⟨k, hk⟩ := List.getElem?_of_mem mem
  apply failure_walkAt_eq_none_iff.mpr
  intro p m hp
  exact failure_walkAt_eq_none_iff.mp h (k :: p) m (by rwa [at?_cons_of_child hk])

/-! ## What a successful walk has found -/

theorem found_walkAll {ns : List Node}
    (h : ∀ n ∈ ns, ∀ path, (n.walkAt c path).failure = none ∧ (n.walkAt c path).found =
      ⟨(n.placesAt path).countP fun place => place.2.isDirective, openLinks (n.placesAt path)⟩)
    (path : Path) (i : Nat) :
    (walkAll c path i ns).found =
      ⟨(placesOfAll path i ns).countP fun place => place.2.isDirective,
        openLinks (placesOfAll path i ns)⟩ := by
  induction ns generalizing i with
  | nil => rfl
  | cons n ns ih =>
    obtain ⟨ok, found⟩ := h n (by simp) (path ++ [i])
    rw [walkAll, Walk.andThen_of_ok ok, found, ih fun m hm => h m (by simp [hm]), placesOfAll,
      List.countP_append, openLinks, openLinks, openLinks, List.filterMap_append]

/-- A successful visit resolves something iff its node is a directive. -/
theorem isSome_of_fill {n : Node} {r : Option Resolution} (h : (n.fill c).outcome = .ok r) :
    r.isSome = n.isDirective := by
  rcases fill_cases h with ⟨plain, rfl, -⟩ | ⟨isLink, target, -, -, rfl, -⟩ |
    ⟨isDirective, -, text, -, rfl, -⟩
  · exact plain.symm
  · exact isLink.1.symm
  · exact isDirective.symm

/-- A successful walk has counted the directives of the document, and lists its open links. -/
theorem found_walkAt {n : Node} {path : Path} (h : (n.walkAt c path).failure = none) :
    (n.walkAt c path).found =
      ⟨(n.placesAt path).countP fun place => place.2.isDirective,
        openLinks (n.placesAt path)⟩ := by
  induction n using childInduction generalizing path with
  | step n ih =>
    obtain ⟨r, ok⟩ := failure_walkAt_eq_none_iff.mp h [] n rfl
    have here : (Walk.ofVisit path (n.fill c)).found =
        ⟨if n.isDirective then 1 else 0, (n.openForm?.map (DeferredLink.mk path)).toList⟩ := by
      rw [Walk.found_ofVisit ok, isSome_of_fill ok, form?_fill ok]
    have all : openLinks ((path, n) :: placesOfAll path 0 n.childList) =
        (n.openForm?.map (DeferredLink.mk path)).toList ++
          openLinks (placesOfAll path 0 n.childList) := by
      rw [openLinks, openLinks, List.filterMap_cons]
      cases n.openForm? <;> rfl
    rw [placesAt_eq, all, List.countP_cons]
    cases hn : n.hasNoChildren with
    | true =>
      rw [walkAt_of_hasNoChildren hn, here, hasNoChildren_iff.mp hn]
      simp [placesOfAll, openLinks]
    | false =>
      -- the children are walked over as they were: a visit never touches existing children
      have visit : (Walk.ofVisit path (n.fill c)).failure = none := by
        rw [Walk.failure_ofVisit]
        exact Visit.error?_eq_none_iff.mpr ⟨r, ok⟩
      have below := found_walkAll (c := c) (fun child (mem : child ∈ n.childList) path' =>
        have ok := failure_walkAt_of_child mem h path'
        ⟨ok, ih child mem ok⟩) path 0
      rw [walkAt_of_children hn, Walk.andThen_of_ok visit, here, below, Nat.add_comm]

/-! ## The document after a successful walk -/

theorem result_walkAll {ns : List Node}
    (h : ∀ n ∈ ns, ∀ path, (n.walkAt c path).failure = none ∧
      (n.walkAt c path).result = n.editAt (visited c) path)
    (path : Path) (i : Nat) :
    (walkAll c path i ns).result = editAll (visited c) path i ns := by
  induction ns generalizing i with
  | nil => rfl
  | cons n ns ih =>
    obtain ⟨ok, result⟩ := h n (by simp) (path ++ [i])
    rw [walkAll, Walk.andThen_of_ok ok, result, ih fun m hm => h m (by simp [hm]), editAll]

/-- A successful walk is an edit: every node is left as its own visit leaves it. -/
theorem result_walkAt {n : Node} {path : Path} (h : (n.walkAt c path).failure = none) :
    (n.walkAt c path).result = n.editAt (visited c) path := by
  induction n using childInduction generalizing path with
  | step n ih =>
    cases hn : n.hasNoChildren with
    | true =>
      rw [walkAt_of_hasNoChildren hn, editAt_of_hasNoChildren hn, Walk.result_ofVisit]
      rfl
    | false =>
      obtain ⟨r, ok⟩ := failure_walkAt_eq_none_iff.mp h [] n rfl
      have visit : (Walk.ofVisit path (n.fill c)).failure = none := by
        rw [Walk.failure_ofVisit]
        exact Visit.error?_eq_none_iff.mpr ⟨r, ok⟩
      have below := result_walkAll (c := c) (fun child (mem : child ∈ n.childList) path' =>
        have ok := failure_walkAt_of_child mem h path'
        ⟨ok, ih child mem ok⟩) path 0
      rw [walkAt_of_children hn, Walk.andThen_of_ok visit, editAt_of_children hn, below,
        Walk.result_ofVisit]
      rfl

theorem walk_eq_edit {n : Node} (h : (n.walk c).failure = none) :
    (n.walk c).result = n.edit (visited c) :=
  result_walkAt h

/-! ## One node of it -/

/-- Nodes with equally many children, and a list of them on both sides or on none. -/
def SameRow (n m : Node) : Prop :=
  m.children.isSome = n.children.isSome ∧ m.childList.length = n.childList.length

theorem SameRow.of_children {n m : Node} (h : m.children = n.children) : n.SameRow m :=
  ⟨by rw [h], by rw [childList, childList, h]⟩

/-- A link without children gets what it leads to as its label, unless it leads to a form. -/
def GetsLabel (c : Context) (n : Node) (label : String) : Prop :=
  n.IsLink ∧ n.hasNoChildren = true ∧
    ∃ target, n.linkTarget c = .ok target ∧ target.label? = some label

/-- What a successful walk may make of a node. What the node has been written with stays. A node
that is no directive stays as it is. A directive had not been rendered; it carries what its own
visit notes, which for a link is an anchor to its target and for any other directive a span around
a text. Only links without a label get children. -/
structure FilledIn (c : Context) (n m : Node) : Prop where
  source : n.SameSource m
  plain : n.isDirective = false → m.data = n.data ∧ n.SameRow m
  fresh : n.isDirective = true → n.tag? = none
  noted : n.isDirective = true →
    (∃ resolution, (n.fill c).outcome = .ok (some resolution)) ∧ m.data = (n.fill c).node.data
  link : n.IsLink → ∃ target, n.linkTarget c = .ok target ∧
    m.tag? = some .a ∧ m.href? = some target.href ∧ m.shown? = none
  text : n.isDirective = true → ¬ n.IsLink → ∃ text,
    m.tag? = some .span ∧ m.href? = n.href? ∧ m.shown? = some [.text text]
  labelled : ∀ label, n.GetsLabel c label → m.children = some [.text label]
  row : (∀ label, ¬ n.GetsLabel c label) → n.SameRow m

/-- The children that a visit leaves: the label of a link that gets one, or those that were there. -/
theorem children_fill {n : Node} {r : Option Resolution} (h : (n.fill c).outcome = .ok r) :
    (∃ label, n.GetsLabel c label ∧ (n.fill c).node.children = some [.text label]) ∨
      ((∀ label, ¬ n.GetsLabel c label) ∧ (n.fill c).node.children = n.children) := by
  rcases fill_cases h with ⟨plain, -, node⟩ | ⟨isLink, target, ht, -, -, node⟩ |
    ⟨-, notLink, text, -, -, node⟩
  · refine .inr ⟨fun label gets => ?_, by rw [node]⟩
    have := gets.1.1
    rw [plain] at this
    cases this
  · rw [node]
    have unlabelled (hl : ∀ label, target.label? = some label → n.hasNoChildren = false)
        (label : String) : ¬ n.GetsLabel c label := by
      rintro ⟨-, none, target', ht', label'⟩
      obtain rfl : target = target' := Except.ok.inj (ht.symm.trans ht')
      rw [hl label label'] at none
      cases none
    cases hl : target.label? with
    | none => exact .inr ⟨unlabelled fun label h => by simp [hl] at h, rfl⟩
    | some label =>
      cases hn : n.hasNoChildren with
      | true => exact .inl ⟨label, ⟨isLink, hn, target, ht, hl⟩, children_labelWith hn label⟩
      | false =>
        refine .inr ⟨unlabelled fun _ _ => hn, ?_⟩
        rw [labelWith_of_children hn]
  · exact .inr ⟨fun label gets => notLink gets.1, by rw [node]⟩

/-- A node gets at most one label. -/
theorem GetsLabel.unique {n : Node} {label label' : String} (h : n.GetsLabel c label)
    (h' : n.GetsLabel c label') : label = label' := by
  obtain ⟨-, -, target, ht, hl⟩ := h
  obtain ⟨-, -, target', ht', hl'⟩ := h'
  obtain rfl : target = target' := Except.ok.inj (ht.symm.trans ht')
  exact Option.some.inj (hl.symm.trans hl')

/-- A visit that succeeds fills its node in. -/
theorem filledIn_fill {n : Node} {r : Option Resolution} (h : (n.fill c).outcome = .ok r) :
    n.FilledIn c (n.fill c).node where
  source := sameSource_fill c n
  plain isPlain := by
    rw [fill_of_not_directive isPlain]
    exact ⟨rfl, rfl, rfl⟩
  fresh isDirective := by
    obtain ⟨-, -, -, -, fresh, -⟩ := filling_of_fill isDirective h
    exact fresh
  noted isDirective := by
    obtain ⟨-, f, -, -, -, rfl, -⟩ := filling_of_fill isDirective h
    exact ⟨⟨f.resolution, h⟩, rfl⟩
  link isLink := by
    obtain ⟨target, ht, -, -, node⟩ := link_of_fill isLink h
    rw [node]
    exact ⟨target, ht, rfl, rfl, rfl⟩
  text isDirective notLink := by
    obtain ⟨text, -, -, node⟩ := text_of_fill isDirective notLink h
    rw [node, ← href_dataOrBlank n]
    exact ⟨text, rfl, rfl, rfl⟩
  labelled label gets := by
    rcases children_fill h with ⟨label', gets', children⟩ | ⟨none, -⟩
    · rw [gets.unique gets', children]
    · exact absurd gets (none label)
  row unlabelled := by
    rcases children_fill h with ⟨label, gets, -⟩ | ⟨-, children⟩
    · exact absurd gets (unlabelled label)
    · exact .of_children children

/-- What lies below a node is no part of how the node is filled in. -/
theorem FilledIn.with_children {n m : Node} (h : n.FilledIn c m) (hn : n.hasNoChildren = false)
    {children : List Node} (length : children.length = n.childList.length) :
    n.FilledIn c { m with children := some children } := by
  have row : n.SameRow { m with children := some children } := by
    refine ⟨?_, length⟩
    rw [children_of_hasNoChildren hn]
    rfl
  refine ⟨⟨h.source.kind, h.source.name, h.source.attributes, h.source.value, h.source.others,
    h.source.dataOthers, h.source.otherProperties⟩, fun isPlain => ⟨(h.plain isPlain).1, row⟩,
    h.fresh, h.noted, h.link, h.text, ?_, fun _ => row⟩
  rintro label ⟨-, none, -⟩
  rw [hn] at none
  cases none

/-- Every node of a successful walk is filled in. -/
theorem filledIn_editAt {n : Node} {r : Option Resolution} (h : (n.fill c).outcome = .ok r)
    (path : Path) : n.FilledIn c (n.editAt (visited c) path) := by
  cases hn : n.hasNoChildren with
  | true =>
    rw [editAt_of_hasNoChildren hn]
    exact filledIn_fill h
  | false =>
    rw [editAt_of_children hn]
    exact (filledIn_fill h).with_children hn (length_editAll ..)

/-- Below a text there is nothing. -/
theorem at?_text {label : String} {p : Path} {m : Node} :
    (text label).at? p = some m ↔ p = [] ∧ m = .text label := by
  cases p with
  | nil => simp [eq_comm]
  | cons i p => simp [at?_cons_of_hasNoChildren (n := text label) rfl]

/-- Below a node with a label there is nothing but the label. -/
theorem at?_of_label {n m : Node} {label : String} (h : n.children = some [.text label]) (i : Nat)
    (p : Path) : n.at? (i :: p) = some m ↔ i = 0 ∧ p = [] ∧ m = .text label := by
  rw [at?_cons, childList, h]
  constructor
  · intro hm
    cases i with
    | zero =>
      obtain ⟨rfl, rfl⟩ := at?_text.mp hm
      exact ⟨rfl, rfl, rfl⟩
    | succ i => cases hm
  · rintro ⟨rfl, rfl, rfl⟩
    rfl

/-- Below a node that had no children a visit leaves nothing but its label. -/
theorem at?_fill {n m : Node} {r : Option Resolution} (h : (n.fill c).outcome = .ok r)
    (hn : n.hasNoChildren = true) (i : Nat) (p : Path) :
    (n.fill c).node.at? (i :: p) = some m ↔
      i = 0 ∧ p = [] ∧ ∃ label, n.GetsLabel c label ∧ m = .text label := by
  rcases children_fill h with ⟨label, gets, children⟩ | ⟨unlabelled, children⟩
  · -- the node has been given a label
    rw [at?_of_label children]
    constructor
    · rintro ⟨rfl, rfl, rfl⟩
      exact ⟨rfl, rfl, label, gets, rfl⟩
    · rintro ⟨rfl, rfl, label', gets', rfl⟩
      rw [gets.unique gets']
      exact ⟨rfl, rfl, rfl⟩
  · -- the node is left without children
    have none : (n.fill c).node.hasNoChildren = true := by
      rw [hasNoChildren, childList, children]
      exact hn
    rw [at?_cons_of_hasNoChildren none]
    constructor
    · intro hm
      cases hm
    · rintro ⟨-, -, label, gets, -⟩
      exact absurd gets (unlabelled label)

/-! ## The whole document -/

/-- Every place of a document stays in a successful walk, and its node is filled in. -/
theorem exists_filledIn_walk {tree n : Node} (ok : (tree.walk c).failure = none) {p : Path}
    (hp : tree.at? p = some n) :
    ∃ m, (tree.walk c).result.at? p = some m ∧ n.FilledIn c m := by
  obtain ⟨r, visit⟩ := failure_walkAt_eq_none_iff.mp ok p n hp
  rw [walk_eq_edit ok]
  exact ⟨_, at?_editAt hp .., filledIn_editAt visit _⟩

/-- The node that a successful walk leaves in a place is the one that was there, filled in. -/
theorem filledIn_walk {tree n m : Node} (ok : (tree.walk c).failure = none) {p : Path}
    (hp : tree.at? p = some n) (hm : (tree.walk c).result.at? p = some m) : n.FilledIn c m := by
  obtain ⟨m', hm', filled⟩ := exists_filledIn_walk ok hp
  obtain rfl := Option.some.inj (hm.symm.trans hm')
  exact filled

/-- The new places of a successful walk are the labels that it has given. -/
theorem new_place_walk_iff {tree m : Node} (ok : (tree.walk c).failure = none) {p : Path} :
    (tree.at? p = none ∧ (tree.walk c).result.at? p = some m) ↔
      ∃ q n label, p = q ++ [0] ∧ tree.at? q = some n ∧ n.GetsLabel c label ∧
        m = .text label := by
  have visits := failure_walkAt_eq_none_iff.mp ok
  rw [walk_eq_edit ok]
  constructor
  · rintro ⟨new, hm⟩
    -- a new place lies below a node without children, whose visit has left a label there
    obtain ⟨q, r, n, rfl, hq, hn, hr⟩ := (at?_editAt_of_none new ..).mp hm
    cases r with
    | nil => simp [hq] at new
    | cons i r =>
      obtain ⟨_, visit⟩ := visits q n hq
      obtain ⟨rfl, rfl, label, gets, rfl⟩ := (at?_fill visit hn i r).mp hr
      exact ⟨q, n, label, rfl, hq, gets, rfl⟩
  · rintro ⟨q, n, label, rfl, hq, gets, rfl⟩
    have new : tree.at? (q ++ [0]) = none := by
      rw [at?_append, hq, Option.bind_some, at?_cons_of_hasNoChildren gets.2.1]
    obtain ⟨_, visit⟩ := visits q n hq
    refine ⟨new, (at?_editAt_of_none new ..).mpr ⟨q, [0], n, rfl, hq, gets.2.1, ?_⟩⟩
    exact (at?_fill visit gets.2.1 0 []).mpr ⟨rfl, rfl, label, gets, rfl⟩

/-- **A successful walk fills in every node on its own and changes nothing else.** Every place of
the document stays and holds what its own node has been filled in to; the only new places are the
labels of links without children that lead to an address or a plain target. -/
theorem walk_pointwise {tree : Node} {found : Found} (h : (tree.walk c).outcome = .ok found) :
    (∀ p n, tree.at? p = some n →
      ∃ m, (tree.walk c).result.at? p = some m ∧ n.FilledIn c m) ∧
    ∀ p m, (tree.at? p = none ∧ (tree.walk c).result.at? p = some m) ↔
      ∃ q n label, p = q ++ [0] ∧ tree.at? q = some n ∧ n.GetsLabel c label ∧
        m = .text label := by
  obtain ⟨ok, -⟩ := Walk.outcome_eq_ok_iff.mp h
  exact ⟨fun p n hp => exists_filledIn_walk ok hp, fun p m => new_place_walk_iff ok⟩

/-- A letter with a link that has no label and a link to a form around a name. -/
def letter : Node :=
  .root [.paragraph [
    .text "Dear ", .inlineDirective "recipientName" [],
    .inlineDirective "link" [("to", "https://example.org")],
    .directive .inline "Link" [("form", "review")]
      [.text "for ", .inlineDirective "RECIPIENTFIRSTNAME" []]]]

theorem walk_pointwise_letter :
    (letter.walk .sample).outcome = .ok ⟨4, [⟨[0, 3], "review"⟩]⟩ ∧
      (∃ m, (letter.walk .sample).result.at? [0, 3, 1] = some m ∧
        (inlineDirective "RECIPIENTFIRSTNAME" []).FilledIn .sample m) ∧
      (letter.walk .sample).result.at? [0, 2, 0] = some (.text "https://example.org") := by
  have h : (letter.walk .sample).outcome = .ok ⟨4, [⟨[0, 3], "review"⟩]⟩ := rfl
  obtain ⟨places, newPlaces⟩ := walk_pointwise h
  have gets : (inlineDirective "link" [("to", "https://example.org")]).GetsLabel .sample
      "https://example.org" := ⟨by decide, rfl, .url "https://example.org", rfl, rfl⟩
  exact ⟨h, places [0, 3, 1] _ rfl,
    ((newPlaces [0, 2, 0] _).mpr ⟨[0, 2], _, _, rfl, rfl, gets, rfl⟩).2⟩

end Node

end MailMerge
