import Mathlib
import MailMerge.Tree.Path

/-!
# The places of a document in document order

Every node of a document stands at one path. Listing the nodes with their paths, a node before
its children and the children from first to last, gives each path once and in document order.
Whatever walks over a document meets its nodes in the order of this list.

## Main definitions

* `Path.Before`: document order of paths.
* `Node.placesAt`, `Node.places`: the nodes of a document with their paths.

## Main results

* `at?_append`: a node below a node is found by one path after the other.
* `Node.childInduction`: what passes from all children of a node to the node holds of all nodes.
* `mem_placesAt`: the listed places are those where a node can be found.
* `pairwise_placesAt`: they are listed in document order, each of them once.
* `directives_eq`: the directives are those of the places.
-/

namespace MailMerge

/-- Document order: a path comes before its extensions, and what lies under a child comes before
what lies under a later child of the same node. -/
def Path.Before (p q : Path) : Prop :=
  (∃ i r, q = p ++ i :: r) ∨
    ∃ shared i j r r', i < j ∧ p = shared ++ i :: r ∧ q = shared ++ j :: r'

/-- No path comes before itself. -/
theorem Path.Before.ne {p q : Path} (h : p.Before q) : p ≠ q := by
  rintro rfl
  rcases h with ⟨i, r, h⟩ | ⟨shared, i, j, r, r', lt, h, h'⟩
  · simp at h
  · -- the paths part at one index, which would have to be less than itself
    rw [h] at h'
    have := List.append_cancel_left h'
    simp only [List.cons.injEq] at this
    omega

namespace Node

theorem hasNoChildren_iff {n : Node} : n.hasNoChildren = true ↔ n.childList = [] := by
  simp [hasNoChildren]

theorem hasNoChildren_eq_false_iff {n : Node} : n.hasNoChildren = false ↔ n.childList ≠ [] := by
  simp [hasNoChildren]

/-- A node with children has a list of them. -/
theorem children_of_hasNoChildren {n : Node} (h : n.hasNoChildren = false) :
    n.children = some n.childList := by
  cases hc : n.children <;> simp_all [hasNoChildren, childList]

/-- Writing the children of a node that has some back changes nothing. -/
theorem with_childList {n : Node} (h : n.hasNoChildren = false) :
    { n with children := some n.childList } = n := by
  rw [← children_of_hasNoChildren h]
  cases n
  rfl

/-! ## Finding nodes -/

@[simp] theorem at?_nil (n : Node) : n.at? [] = some n := rfl

theorem at?_cons (n : Node) (i : Nat) (p : Path) :
    n.at? (i :: p) = n.childList[i]?.bind fun child => child.at? p := rfl

theorem at?_cons_of_child {n child : Node} {i : Nat} (h : n.childList[i]? = some child)
    (p : Path) : n.at? (i :: p) = child.at? p := by
  rw [at?_cons, h, Option.bind_some]

theorem at?_cons_of_no_child {n : Node} {i : Nat} (h : n.childList[i]? = none) (p : Path) :
    n.at? (i :: p) = none := by
  rw [at?_cons, h, Option.bind_none]

/-- A node below a node is found by one path after the other. -/
theorem at?_append (n : Node) (p q : Path) :
    n.at? (p ++ q) = (n.at? p).bind fun m => m.at? q := by
  induction p generalizing n with
  | nil => rfl
  | cons i p ih =>
    rw [List.cons_append, at?_cons, at?_cons]
    cases n.childList[i]? with
    | none => rfl
    | some child => exact ih child

/-- Below a node without children nothing is found. -/
theorem at?_cons_of_hasNoChildren {n : Node} (h : n.hasNoChildren = true) (i : Nat) (p : Path) :
    n.at? (i :: p) = none :=
  at?_cons_of_no_child (by simp [hasNoChildren_iff.mp h]) p

/-! ## Induction over documents -/

theorem sizeOf_lt_of_mem_childList {n child : Node} (h : child ∈ n.childList) :
    sizeOf child < sizeOf n := by
  obtain ⟨kind, name, attributes, children, value, data, others⟩ := n
  cases children with
  | none => simp [childList] at h
  | some children =>
    have := List.sizeOf_lt_of_mem (show child ∈ children from h)
    simp only [Node.mk.sizeOf_spec, Option.some.sizeOf_spec]
    omega

/-- What passes from all children of a node to the node holds of all nodes. -/
theorem childInduction {motive : Node → Prop}
    (step : ∀ n, (∀ child ∈ n.childList, motive child) → motive n) (n : Node) : motive n :=
  step n fun child h =>
    have := sizeOf_lt_of_mem_childList h
    childInduction step child
termination_by sizeOf n

/-! ## Places -/

mutual

/-- The nodes of a document with their paths, in document order; the document itself stands at
`path`. -/
def placesAt (path : Path) : Node → List (Path × Node)
  | ⟨kind, name, attributes, none, value, data, others⟩ =>
    [(path, ⟨kind, name, attributes, none, value, data, others⟩)]
  | ⟨kind, name, attributes, some children, value, data, others⟩ =>
    (path, ⟨kind, name, attributes, some children, value, data, others⟩) ::
      placesOfAll path 0 children

/-- The places of children of the node at `path`, the first of which has index `i`. -/
def placesOfAll (path : Path) (i : Nat) : List Node → List (Path × Node)
  | [] => []
  | n :: ns => placesAt (path ++ [i]) n ++ placesOfAll path (i + 1) ns

end

/-- The nodes of a whole document with their paths, in document order. -/
def places (n : Node) : List (Path × Node) := n.placesAt []

theorem placesAt_eq (path : Path) (n : Node) :
    n.placesAt path = (path, n) :: placesOfAll path 0 n.childList := by
  obtain ⟨kind, name, attributes, children, value, data, others⟩ := n
  cases children <;> simp [placesAt, placesOfAll, childList]

/-- The places under nodes in a row are those under each of them. -/
theorem mem_placesOfAll {path : Path} {i : Nat} {ns : List Node} {place : Path × Node} :
    place ∈ placesOfAll path i ns ↔
      ∃ (k : Nat) (n : Node), ns[k]? = some n ∧ place ∈ n.placesAt (path ++ [i + k]) := by
  induction ns generalizing i with
  | nil => simp [placesOfAll]
  | cons n ns ih =>
    rw [placesOfAll, List.mem_append, ih]
    constructor
    · rintro (h | ⟨k, m, hk, h⟩)
      · exact ⟨0, n, rfl, h⟩
      · exact ⟨k + 1, m, hk, by rwa [show i + (k + 1) = i + 1 + k by omega]⟩
    · rintro ⟨k, m, hk, h⟩
      cases k with
      | zero =>
        obtain rfl : n = m := by simpa using hk
        exact .inl h
      | succ k => exact .inr ⟨k, m, hk, by rwa [show i + 1 + k = i + (k + 1) by omega]⟩

/-- The listed places are those where a node can be found. -/
theorem mem_placesAt {n m : Node} {path q : Path} :
    (q, m) ∈ n.placesAt path ↔ ∃ p, q = path ++ p ∧ n.at? p = some m := by
  induction n using childInduction generalizing path with
  | step n ih =>
    -- the induction is on the document, not on the path: the list is made node by node
    rw [placesAt_eq, List.mem_cons, mem_placesOfAll]
    constructor
    · rintro (h | ⟨k, child, hk, h⟩)
      · obtain ⟨rfl, rfl⟩ := Prod.mk.inj h
        exact ⟨[], by simp, rfl⟩
      · obtain ⟨p, rfl, hp⟩ := (ih child (List.mem_of_getElem? hk)).mp h
        exact ⟨k :: p, by simp, by rw [at?_cons_of_child hk, hp]⟩
    · rintro ⟨p, rfl, hp⟩
      cases p with
      | nil =>
        obtain rfl : n = m := by simpa using hp
        exact .inl (by simp)
      | cons k p =>
        obtain ⟨child, hk, hp⟩ := Option.bind_eq_some_iff.mp hp
        exact .inr ⟨k, child, hk, (ih child (List.mem_of_getElem? hk)).mpr ⟨p, by simp, hp⟩⟩

theorem mem_places {n m : Node} {p : Path} : (p, m) ∈ n.places ↔ n.at? p = some m := by
  simp [places, mem_placesAt]

/-- Places are listed in document order if those under each child are. -/
theorem pairwise_placesOfAll {path : Path} {i : Nat} {ns : List Node}
    (h : ∀ n ∈ ns, ∀ path, (n.placesAt path).Pairwise fun x y => x.1.Before y.1) :
    (placesOfAll path i ns).Pairwise fun x y => x.1.Before y.1 := by
  induction ns generalizing i with
  | nil => exact .nil
  | cons n ns ih =>
    refine List.pairwise_append.mpr ⟨h n (by simp) _, ih fun m hm => h m (by simp [hm]), ?_⟩
    -- what lies under the first node comes before what lies under the others
    rintro ⟨p, m⟩ hx ⟨q, m'⟩ hy
    obtain ⟨r, rfl, -⟩ := mem_placesAt.mp hx
    obtain ⟨k, n', -, hy⟩ := mem_placesOfAll.mp hy
    obtain ⟨r', rfl, -⟩ := mem_placesAt.mp hy
    exact .inr ⟨path, i, i + 1 + k, r, r', by omega, by simp, by simp⟩

/-- Places are listed in document order. -/
theorem pairwise_placesAt (n : Node) (path : Path) :
    (n.placesAt path).Pairwise fun x y => x.1.Before y.1 := by
  induction n using childInduction generalizing path with
  | step n ih =>
    rw [placesAt_eq]
    -- a node comes before everything below it
    refine .cons ?_ (pairwise_placesOfAll fun child h path => ih child h path)
    rintro ⟨q, m⟩ h
    obtain ⟨k, child, -, h⟩ := mem_placesOfAll.mp h
    obtain ⟨r, rfl, -⟩ := mem_placesAt.mp h
    exact .inl ⟨0 + k, r, by simp⟩

/-! ## Directives -/

theorem directives_cons (n : Node) :
    n.directives = (if n.isDirective then [n] else []) ++ directivesOfAll n.childList := by
  obtain ⟨kind, name, attributes, children, value, data, others⟩ := n
  cases children <;> cases h : kind.isDirective <;>
    simp [directives, directivesOfAll, childList, isDirective, h]

/-- The directives among nodes in a row are those of their places. -/
theorem directivesOfAll_eq {ns : List Node}
    (h : ∀ n ∈ ns, ∀ path, n.directives =
      ((n.placesAt path).filter fun place => place.2.isDirective).map Prod.snd)
    (path : Path) (i : Nat) :
    directivesOfAll ns =
      ((placesOfAll path i ns).filter fun place => place.2.isDirective).map Prod.snd := by
  induction ns generalizing i with
  | nil => rfl
  | cons n ns ih =>
    rw [directivesOfAll, placesOfAll, List.filter_append, List.map_append,
      h n (by simp) (path ++ [i]), ih (fun m hm => h m (by simp [hm])) (i + 1)]

/-- The directives are those of the places, in their order. -/
theorem directives_eq (n : Node) (path : Path) :
    n.directives = ((n.placesAt path).filter fun place => place.2.isDirective).map Prod.snd := by
  induction n using childInduction generalizing path with
  | step n ih =>
    rw [directives_cons, placesAt_eq, List.filter_cons,
      directivesOfAll_eq (fun child h path => ih child h path) path 0]
    split <;> simp_all

end Node

end MailMerge
