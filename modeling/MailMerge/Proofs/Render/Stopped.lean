import MailMerge.Proofs.Render.Walk
import MailMerge.Proofs.Tree.Order

/-!
# A walk that stops

A walk stops at the first directive in document order that cannot be filled in. It is still an edit:
the nodes before that directive are left as their own visits leave them, and so is the directive,
whose visit has failed; nothing behind it has been touched, and that includes all that lies below it.

## Main definitions

* `Node.StopsAt`: the first place whose visit fails.
* `Node.visitedTo`: what visits up to a place leave of the nodes.

## Main results

* `exists_stopsAt`: a walk that fails stops somewhere.
* `StopsAt.failure_walk`, `StopsAt.result_walk`: the failure of a walk that stops, and the document
  that it leaves.
* `walk_stopped`: the document after a walk that has failed, place by place.
-/

namespace MailMerge

theorem Walk.andThen_of_error {α β γ : Type} {first : Walk α} {e : DirectiveError}
    (h : first.failure = some e) (second : Walk β) (stay : β) (join : α → β → γ) :
    first.andThen second stay join =
      ⟨join first.result stay, first.found, some e, first.notices⟩ := by
  rw [andThen, h]

theorem Walk.outcome_eq_error_iff {α : Type} {w : Walk α} {e : DirectiveError} :
    w.outcome = .error e ↔ w.failure = some e := by
  unfold outcome
  cases w.failure <;> simp

theorem Visit.error?_eq_some_iff {v : Visit} {e : DirectiveError} :
    v.error? = some e ↔ v.outcome = .error e := by
  unfold error?
  cases v.outcome <;> simp

namespace Node

variable {c : Context} {tree n m : Node} {e : DirectiveError} {p path stop : Path}

/-- The node `n` at `p` is the first one whose visit fails, and it fails with `e`. -/
structure StopsAt (c : Context) (tree : Node) (p : Path) (n : Node) (e : DirectiveError) :
    Prop where
  place : tree.at? p = some n
  error : (n.fill c).outcome = .error e
  earlier : ∀ q m, q.Before p → tree.at? q = some m → ∃ r, (m.fill c).outcome = .ok r

/-- What visits up to the place `stop` leave of the node at a path. -/
def visitedTo (c : Context) (stop : Path) (p : Path) (n : Node) : Node :=
  if stop.Before p then n else (n.fill c).node

/-! ## The failure -/

/-- Only directives can fail. -/
theorem isDirective_of_error (h : (n.fill c).outcome = .error e) : n.isDirective = true := by
  cases isDirective : n.isDirective with
  | true => rfl
  | false =>
    rw [fill_of_not_directive isDirective] at h
    cases h

/-- A walk that fails stops somewhere. -/
theorem exists_stopsAt (h : (tree.walk c).outcome = .error e) : ∃ p n, tree.StopsAt c p n e := by
  rw [Walk.outcome_eq_error_iff, walk, failure_walkAt] at h
  obtain ⟨left, ⟨p, n⟩, right, split, error, good⟩ := List.findSome?_eq_some_iff.mp h
  refine ⟨p, n, at?_of_places split, Visit.error?_eq_some_iff.mp error, fun q m before hq => ?_⟩
  exact Visit.error?_eq_none_iff.mp (good _ ((mem_left_iff split).mpr ⟨hq, before⟩))

/-- A walk that stops fails as the visit at its last place does. -/
theorem StopsAt.failure_walk (h : tree.StopsAt c p n e) : (tree.walk c).outcome = .error e := by
  obtain ⟨left, right, split⟩ := List.append_of_mem (mem_places.mpr h.place)
  rw [Walk.outcome_eq_error_iff, walk, failure_walkAt]
  refine List.findSome?_eq_some_iff.mpr
    ⟨left, _, right, split, Visit.error?_eq_some_iff.mpr h.error, ?_⟩
  rintro ⟨q, m⟩ mem
  obtain ⟨hq, before⟩ := (mem_left_iff split).mp mem
  exact Visit.error?_eq_none_iff.mpr (h.earlier q m before hq)

/-- A walk stops at one place only. -/
theorem StopsAt.unique {q : Path} {e' : DirectiveError} (h : tree.StopsAt c p n e)
    (h' : tree.StopsAt c q m e') : p = q := by
  rcases Path.before_or_eq_or_after p q with before | eq | after
  · obtain ⟨r, ok⟩ := h'.earlier p n before h.place
    cases h.error.symm.trans ok
  · exact eq
  · obtain ⟨r, ok⟩ := h.earlier q m after h'.place
    cases h'.error.symm.trans ok

/-! ## Visits up to a place -/

theorem visitedTo_of_before (h : p.Before stop) (n : Node) :
    visitedTo c stop p n = (n.fill c).node :=
  if_neg h.asymm

theorem visitedTo_self (n : Node) : visitedTo c stop stop n = (n.fill c).node :=
  if_neg fun h => h.ne rfl

/-- Below a node that comes after the last visit nothing changes. -/
theorem editAt_visitedTo_of_after (h : stop.Before path) (n : Node) :
    n.editAt (visitedTo c stop) path = n :=
  editAt_eq_self fun p _ _ => if_pos (h.append p)

theorem editAll_visitedTo_of_after {i : Nat} (h : ∀ k, stop.Before (path ++ [i + k]))
    (ns : List Node) : editAll (visitedTo c stop) path i ns = ns := by
  apply List.ext_getElem?
  intro k
  rw [getElem?_editAll]
  cases hk : ns[k]? with
  | none => rfl
  | some n => exact congrArg some (editAt_visitedTo_of_after (h k) n)

/-- Putting the children of a node back after its visit changes nothing. -/
theorem node_fill_with_childList (hn : n.hasNoChildren = false) (c : Context) :
    { (n.fill c).node with children := some n.childList } = (n.fill c).node := by
  have kept := fill_children c hn
  have some_child : (n.fill c).node.hasNoChildren = false := by
    rw [hasNoChildren, childList, kept]
    exact hn
  have same : (n.fill c).node.childList = n.childList := by rw [childList, childList, kept]
  rw [← same, with_childList some_child]

/-- Of the node at the last place everything is left that its own visit leaves. -/
theorem editAt_visitedTo_self (n : Node) (path : Path) :
    n.editAt (visitedTo c path) path = (n.fill c).node := by
  cases hn : n.hasNoChildren with
  | true => rw [editAt_of_hasNoChildren hn, visitedTo_self]
  | false =>
    -- the children come after their node, and a visit keeps them
    have below : editAll (visitedTo c path) path 0 n.childList = n.childList :=
      editAll_visitedTo_of_after (fun k => path.before_append (by simp)) _
    rw [editAt_of_children hn, visitedTo_self, below, node_fill_with_childList hn]

/-- A node before the last place is filled in. -/
theorem filledIn_editAt_visitedTo (h : path.Before stop) {r : Option Resolution}
    (ok : (n.fill c).outcome = .ok r) : n.FilledIn c (n.editAt (visitedTo c stop) path) := by
  cases hn : n.hasNoChildren with
  | true =>
    rw [editAt_of_hasNoChildren hn, visitedTo_of_before h]
    exact filledIn_fill ok
  | false =>
    rw [editAt_of_children hn, visitedTo_of_before h]
    exact (filledIn_fill ok).with_children hn (length_editAll ..)

/-! ## The document that is left -/

/-- Of nodes in a row, those before the one where the walk stops are left as a walk of their own
leaves them, and those behind it are as they were. -/
theorem result_walkAll_of_stop {ns : List Node} {k i : Nat} {child : Node}
    (hk : ns[k]? = some child)
    (earlier : ∀ (j : Nat) (n : Node), j < k → ns[j]? = some n →
      ∀ path, (n.walkAt c path).failure = none)
    (failed : (child.walkAt c (path ++ [i + k])).failure ≠ none)
    (left : (child.walkAt c (path ++ [i + k])).result =
      child.editAt (visitedTo c (path ++ (i + k) :: p)) (path ++ [i + k])) :
    (walkAll c path i ns).result = editAll (visitedTo c (path ++ (i + k) :: p)) path i ns := by
  induction k generalizing ns i with
  | zero =>
    obtain ⟨ns, rfl⟩ : ∃ rest, ns = child :: rest := by
      cases ns with
      | nil => cases hk
      | cons n rest => exact ⟨rest, congrArg (· :: rest) (by simpa using hk)⟩
    rw [Nat.add_zero] at failed left ⊢
    obtain ⟨e, failure⟩ := Option.ne_none_iff_exists'.mp failed
    -- whatever lies under the nodes behind comes after the place where the walk stops
    have behind : editAll (visitedTo c (path ++ i :: p)) path (i + 1) ns = ns :=
      editAll_visitedTo_of_after (fun k => Path.before_of_lt path (by omega) p []) ns
    rw [editAll, behind, walkAll, Walk.andThen_of_error failure, left]
  | succ k ih =>
    cases ns with
    | nil => cases hk
    | cons n ns =>
      have ok : (n.walkAt c (path ++ [i])).failure = none := earlier 0 n (by omega) rfl _
      have index : i + (k + 1) = i + 1 + k := by omega
      rw [index] at failed left ⊢
      -- whatever lies under the first node comes before the place where the walk stops
      have first : (n.walkAt c (path ++ [i])).result =
          n.editAt (visitedTo c (path ++ (i + 1 + k) :: p)) (path ++ [i]) := by
        rw [result_walkAt ok]
        refine editAt_congr fun q m _ => (visitedTo_of_before ?_ m).symm
        rw [List.append_assoc]
        exact Path.before_of_lt path (by omega) q p
      have rest := ih (by simpa using hk)
        (fun j m lt hj => earlier (j + 1) m (by omega) (by simpa using hj)) failed left
      rw [walkAll, Walk.andThen_of_ok ok, editAll, first, rest]

/-- A walk that stops leaves what the visits up to its last place leave. -/
theorem StopsAt.result_walkAt (h : tree.StopsAt c p n e) (path : Path) :
    (tree.walkAt c path).result = tree.editAt (visitedTo c (path ++ p)) path := by
  -- the induction is on the path to the last place, for this is how the failure is handed on
  induction p generalizing tree path with
  | nil =>
    obtain rfl : tree = n := by simpa using h.place
    rw [List.append_nil, editAt_visitedTo_self]
    cases hn : tree.hasNoChildren with
    | true => rw [walkAt_of_hasNoChildren hn, Walk.result_ofVisit]
    | false =>
      have failure : (Walk.ofVisit path (tree.fill c)).failure = some e := by
        rw [Walk.failure_ofVisit, Visit.error?_eq_some_iff, h.error]
      rw [walkAt_of_children hn, Walk.andThen_of_error failure, Walk.result_ofVisit,
        node_fill_with_childList hn]
  | cons k p ih =>
    obtain ⟨child, hk, hp⟩ := Option.bind_eq_some_iff.mp h.place
    have hn : tree.hasNoChildren = false :=
      hasNoChildren_eq_false_iff.mpr (List.ne_nil_of_mem (List.mem_of_getElem? hk))
    obtain ⟨r, ok⟩ := h.earlier [] tree (Path.before_append [] (by simp)) rfl
    have visit : (Walk.ofVisit path (tree.fill c)).failure = none := by
      rw [Walk.failure_ofVisit]
      exact Visit.error?_eq_none_iff.mpr ⟨r, ok⟩
    have stops : child.StopsAt c p n e := by
      refine ⟨hp, h.error, fun q m before hq => h.earlier (k :: q) m ?_ ?_⟩
      · exact Path.before_iff_lt.mpr (List.cons_lt_cons_iff.mpr
          (.inr ⟨rfl, Path.before_iff_lt.mp before⟩))
      · rwa [at?_cons_of_child hk]
    have earlier (j : Nat) (m : Node) (lt : j < k) (hj : tree.childList[j]? = some m)
        (path : Path) : (m.walkAt c path).failure = none := by
      refine failure_walkAt_eq_none_iff.mpr fun q m' hq => h.earlier (j :: q) m' ?_ ?_
      · exact Path.before_of_lt [] lt q p
      · rwa [at?_cons_of_child hj]
    have failed (path : Path) : (child.walkAt c path).failure ≠ none := by
      intro noFailure
      obtain ⟨r, ok⟩ := failure_walkAt_eq_none_iff.mp noFailure p n hp
      rw [h.error] at ok
      cases ok
    have below : (walkAll c path 0 tree.childList).result =
        editAll (visitedTo c (path ++ k :: p)) path 0 tree.childList := by
      have left := ih stops (path ++ [0 + k])
      rw [List.append_assoc, List.singleton_append] at left
      have result := result_walkAll_of_stop hk earlier (failed _) left
      rwa [Nat.zero_add] at result
    rw [walkAt_of_children hn, Walk.andThen_of_ok visit, Walk.result_ofVisit, below,
      editAt_of_children hn, visitedTo_of_before (path.before_append (by simp))]

theorem StopsAt.result_walk (h : tree.StopsAt c p n e) :
    (tree.walk c).result = tree.edit (visitedTo c p) :=
  h.result_walkAt []

/-- A visit that fails leaves its node with a label at most. -/
theorem node_of_error (h : (n.fill c).outcome = .error e) :
    ∃ label, (n.fill c).node = n.labelWith label := by
  rcases node_fill_cases c n with same | ⟨f, -, ok⟩ | ⟨f, -, labelled⟩
  · exact ⟨none, same⟩
  · cases h.symm.trans ok
  · exact ⟨f.label, labelled⟩

/-- **A walk that fails reports the first directive that cannot be filled in and touches nothing
behind it.** A walk fails iff a directive of the document fails on its own. Then it fails as the
first of them in document order does; the nodes before that one are filled in, its own annotations
are as they were, and so is every node behind it with all that lies below. -/
theorem walk_stopped (c : Context) (tree : Node) :
    ((∃ e, (tree.walk c).outcome = .error e) ↔
      ∃ p n e, tree.at? p = some n ∧ n.isDirective = true ∧ (n.fill c).outcome = .error e) ∧
    ∀ e, (tree.walk c).outcome = .error e →
      ∃ p n, tree.StopsAt c p n e ∧ n.isDirective = true ∧
        (∀ q m, q.Before p → tree.at? q = some m →
          ∃ m', (tree.walk c).result.at? q = some m' ∧ m.FilledIn c m') ∧
        (∃ n', (tree.walk c).result.at? p = some n' ∧ n' = (n.fill c).node ∧
          n.SameSource n' ∧ n'.data = n.data) ∧
        ∀ q m, p.Before q → tree.at? q = some m → (tree.walk c).result.at? q = some m := by
  constructor
  · constructor
    · rintro ⟨e, h⟩
      obtain ⟨p, n, stops⟩ := exists_stopsAt h
      exact ⟨p, n, e, stops.place, isDirective_of_error stops.error, stops.error⟩
    · rintro ⟨p, n, e, hp, -, error⟩
      cases outcome : (tree.walk c).outcome with
      | error e' => exact ⟨e', rfl⟩
      | ok found =>
        -- a walk that does not fail has visited every place with success
        obtain ⟨ok, -⟩ := Walk.outcome_eq_ok_iff.mp outcome
        obtain ⟨r, visit⟩ := failure_walkAt_eq_none_iff.mp ok p n hp
        rw [error] at visit
        cases visit
  · intro e h
    obtain ⟨p, n, stops⟩ := exists_stopsAt h
    rw [stops.result_walk]
    refine ⟨p, n, stops, isDirective_of_error stops.error, fun q m before hq => ?_,
      ⟨_, at?_editAt stops.place .., editAt_visitedTo_self n p, ?_⟩, fun q m after hq => ?_⟩
    · obtain ⟨r, ok⟩ := stops.earlier q m before hq
      exact ⟨_, at?_editAt hq .., filledIn_editAt_visitedTo before ok⟩
    · rw [List.nil_append, editAt_visitedTo_self]
      obtain ⟨label, node⟩ := node_of_error stops.error
      exact ⟨sameSource_fill c n, by rw [node, data_labelWith]⟩
    · rw [edit, at?_editAt hq, List.nil_append, editAt_visitedTo_of_after after]

/-- A letter with a link that leads nowhere between two names. -/
def draft : Node :=
  .root [.paragraph [
    .inlineDirective "recipientName" [], .inlineDirective "link" [],
    .inlineDirective "recipientName" []]]

theorem walk_stopped_draft :
    (draft.walk .sample).outcome = .error (.invalidDirective "link" .noTarget) ∧
      draft.StopsAt .sample [0, 1] (inlineDirective "link" []) (.invalidDirective "link" .noTarget) ∧
      (draft.walk .sample).result.at? [0, 2] = some (inlineDirective "recipientName" []) := by
  have h : (draft.walk .sample).outcome = .error (.invalidDirective "link" .noTarget) := rfl
  have split : draft.places =
      [([], draft), ([0], .paragraph [.inlineDirective "recipientName" [],
          .inlineDirective "link" [], .inlineDirective "recipientName" []]),
        ([0, 0], .inlineDirective "recipientName" [])] ++
      ([0, 1], .inlineDirective "link" []) :: [([0, 2], .inlineDirective "recipientName" [])] := rfl
  have stops : draft.StopsAt .sample [0, 1] (inlineDirective "link" [])
      (.invalidDirective "link" .noTarget) := by
    refine ⟨rfl, rfl, fun q m before hq => ?_⟩
    have mem := (mem_left_iff split).mpr ⟨hq, before⟩
    simp only [List.mem_cons, List.not_mem_nil, or_false, Prod.mk.injEq] at mem
    rcases mem with ⟨rfl, rfl⟩ | ⟨rfl, rfl⟩ | ⟨rfl, rfl⟩ <;> exact ⟨_, rfl⟩
  obtain ⟨p, n, stops', -, -, -, behind⟩ := (walk_stopped .sample draft).2 _ h
  obtain rfl := stops'.unique stops
  exact ⟨h, stops, behind [0, 2] _ (by decide) rfl⟩

end Node

end MailMerge
