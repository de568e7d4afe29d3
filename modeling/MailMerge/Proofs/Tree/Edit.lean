import MailMerge.Proofs.Tree.Places
import MailMerge.Tree.Annotate

/-!
# Editing every node on its own

Both phases of a rendering change a document in the same way: at every place the node is reworked
without regard to the nodes below it, and a node that has children keeps them in their places. Such
a change is an edit. It is given by a function of the path and of the node as it stood before, so
two changes of a document are the same as soon as they agree at every place.

## Main definitions

* `Node.own`: a node without its children.
* `Node.editAt`, `Node.edit`: the document with every node edited.
* `Node.Local`: functions that look at no child and replace none.

## Main results

* `at?_editAt`: at a place there stands the edited node of that place.
* `at?_editAt_of_none`: new places lie below nodes that had no children.
* `editAt_congr`: an edit is determined by what it does at the places of the document.
* `editAt_editAt`: one edit after the other is an edit.
* `modifyAt?_eq_editAt`: changing a single node is an edit.
-/

namespace MailMerge

namespace Node

/-- A node without its children. -/
def own (n : Node) : Node := { n with children := none }

@[simp] theorem own_with_children (n : Node) (children : Option (List Node)) :
    ({ n with children := children } : Node).own = n.own := rfl

/-- A function of nodes that does not look at existing children, and keeps them. -/
def Local (f : Path → Node → Node) : Prop :=
  ∀ path n children, n.hasNoChildren = false → children ≠ [] →
    f path { n with children := some children } = { f path n with children := some children }

mutual

/-- The document with every node edited on its own; the document itself stands at `path`. -/
def editAt (f : Path → Node → Node) (path : Path) : Node → Node
  | ⟨kind, name, attributes, none, value, data, others⟩ =>
    f path ⟨kind, name, attributes, none, value, data, others⟩
  | ⟨kind, name, attributes, some children, value, data, others⟩ =>
    if children.isEmpty then f path ⟨kind, name, attributes, some children, value, data, others⟩
    else
      { f path ⟨kind, name, attributes, some children, value, data, others⟩ with
        children := some (editAll f path 0 children) }

/-- The children of the node at `path`, the first of which has index `i`, with every node edited. -/
def editAll (f : Path → Node → Node) (path : Path) (i : Nat) : List Node → List Node
  | [] => []
  | n :: ns => editAt f (path ++ [i]) n :: editAll f path (i + 1) ns

end

/-- The whole document with every node edited on its own. -/
def edit (n : Node) (f : Path → Node → Node) : Node := n.editAt f []

variable {f g : Path → Node → Node}

/-! ## One node and its children -/

theorem editAt_of_hasNoChildren {n : Node} (h : n.hasNoChildren = true) (f : Path → Node → Node)
    (path : Path) : n.editAt f path = f path n := by
  obtain ⟨kind, name, attributes, children, value, data, others⟩ := n
  cases children with
  | none => rfl
  | some children =>
    have : children.isEmpty = true := h
    simp only [editAt, this, if_true]

theorem editAt_of_children {n : Node} (h : n.hasNoChildren = false) (f : Path → Node → Node)
    (path : Path) :
    n.editAt f path = { f path n with children := some (editAll f path 0 n.childList) } := by
  obtain ⟨kind, name, attributes, children, value, data, others⟩ := n
  cases children with
  | none => simp [hasNoChildren, childList] at h
  | some children =>
    have : children.isEmpty = false := h
    simp only [editAt, this, Bool.false_eq_true, if_false]
    rfl

/-- But for its children, a node is edited on its own. -/
theorem own_editAt (n : Node) (f : Path → Node → Node) (path : Path) :
    (n.editAt f path).own = (f path n).own := by
  cases h : n.hasNoChildren with
  | true => rw [editAt_of_hasNoChildren h]
  | false => rw [editAt_of_children h, own_with_children]

theorem getElem?_editAll (f : Path → Node → Node) (path : Path) (i : Nat) (ns : List Node)
    (k : Nat) :
    (editAll f path i ns)[k]? = ns[k]?.map fun n => n.editAt f (path ++ [i + k]) := by
  induction ns generalizing i k with
  | nil => simp [editAll]
  | cons n ns ih =>
    cases k with
    | zero => simp [editAll]
    | succ k =>
      rw [editAll, List.getElem?_cons_succ, List.getElem?_cons_succ, ih,
        show i + 1 + k = i + (k + 1) by omega]

@[simp] theorem length_editAll (f : Path → Node → Node) (path : Path) (i : Nat) (ns : List Node) :
    (editAll f path i ns).length = ns.length := by
  induction ns generalizing i with
  | nil => rfl
  | cons n ns ih => rw [editAll, List.length_cons, List.length_cons, ih]

theorem childList_editAt_of_children {n : Node} (h : n.hasNoChildren = false)
    (f : Path → Node → Node) (path : Path) :
    (n.editAt f path).childList = editAll f path 0 n.childList := by
  rw [editAt_of_children h]
  rfl

/-! ## Places of an edited document -/

/-- At every place there stands the edited node of that place. -/
theorem at?_editAt {n m : Node} {p : Path} (h : n.at? p = some m) (f : Path → Node → Node)
    (path : Path) : (n.editAt f path).at? p = some (m.editAt f (path ++ p)) := by
  induction p generalizing n path with
  | nil =>
    obtain rfl : n = m := by simpa using h
    simp
  | cons i p ih =>
    obtain ⟨child, hi, h⟩ := Option.bind_eq_some_iff.mp h
    have hn : n.hasNoChildren = false :=
      hasNoChildren_eq_false_iff.mpr (List.ne_nil_of_mem (List.mem_of_getElem? hi))
    have hchild : (n.editAt f path).childList[i]? = some (child.editAt f (path ++ [i])) := by
      rw [childList_editAt_of_children hn, getElem?_editAll, hi, Option.map_some, Nat.zero_add]
    rw [at?_cons_of_child hchild, ih h, List.append_assoc, List.singleton_append]

/-- New places lie below nodes that had no children; there stands what the node has been given. -/
theorem at?_editAt_of_none {n m : Node} {p : Path} (h : n.at? p = none) (f : Path → Node → Node)
    (path : Path) :
    (n.editAt f path).at? p = some m ↔
      ∃ q r parent, p = q ++ r ∧ n.at? q = some parent ∧ parent.hasNoChildren = true ∧
        (f (path ++ q) parent).at? r = some m := by
  constructor
  · intro hm
    induction p generalizing n path with
    | nil => simp at h
    | cons i p ih =>
      cases hn : n.hasNoChildren with
      | true =>
        -- the path ends here as far as the document is concerned
        rw [editAt_of_hasNoChildren hn] at hm
        exact ⟨[], i :: p, n, rfl, rfl, hn, by rwa [List.append_nil]⟩
      | false =>
        obtain ⟨child', hi', hm⟩ := Option.bind_eq_some_iff.mp hm
        rw [childList_editAt_of_children hn, getElem?_editAll] at hi'
        obtain ⟨child, hi, rfl⟩ := Option.map_eq_some_iff.mp hi'
        rw [at?_cons_of_child hi] at h
        obtain ⟨q, r, parent, rfl, hq, hparent, hr⟩ := ih h (path ++ [0 + i]) hm
        refine ⟨i :: q, r, parent, rfl, by rwa [at?_cons_of_child hi], hparent, ?_⟩
        rwa [List.append_assoc, List.singleton_append, Nat.zero_add] at hr
  · rintro ⟨q, r, parent, rfl, hq, hparent, hr⟩
    rw [at?_append, at?_editAt hq, Option.bind_some, editAt_of_hasNoChildren hparent]
    exact hr

/-! ## Equal edits -/

/-- Edits of nodes in a row agree if they agree at every place below. -/
theorem editAll_congr {path : Path} {i : Nat} {ns ms : List Node} (length : ns.length = ms.length)
    (h : ∀ (k : Nat) (n m : Node), ns[k]? = some n → ms[k]? = some m →
      n.editAt f (path ++ [i + k]) = m.editAt g (path ++ [i + k])) :
    editAll f path i ns = editAll g path i ms := by
  apply List.ext_getElem?
  intro k
  rw [getElem?_editAll, getElem?_editAll]
  rcases Nat.lt_or_ge k ns.length with lt | ge
  · have lt' : k < ms.length := length ▸ lt
    rw [List.getElem?_eq_getElem lt, List.getElem?_eq_getElem lt', Option.map_some,
      Option.map_some]
    exact congrArg some (h k _ _ (List.getElem?_eq_getElem lt) (List.getElem?_eq_getElem lt'))
  · rw [List.getElem?_eq_none ge, List.getElem?_eq_none (length ▸ ge)]
    rfl

/-- An edit is determined by what it does at the places of the document. -/
theorem editAt_congr {n : Node} {path : Path}
    (h : ∀ p m, n.at? p = some m → f (path ++ p) m = g (path ++ p) m) :
    n.editAt f path = n.editAt g path := by
  induction n using childInduction generalizing path with
  | step n ih =>
    have here : f path n = g path n := by simpa using h [] n rfl
    cases hn : n.hasNoChildren with
    | true => rw [editAt_of_hasNoChildren hn, editAt_of_hasNoChildren hn, here]
    | false =>
      rw [editAt_of_children hn, editAt_of_children hn, here]
      -- a place below a child is a place of the document, with the index of the child in front
      have below : editAll f path 0 n.childList = editAll g path 0 n.childList := by
        refine editAll_congr rfl fun k child child' hk hk' => ?_
        obtain rfl : child = child' := Option.some.inj (hk.symm.trans hk')
        refine ih child (List.mem_of_getElem? hk) fun p m hp => ?_
        have := h (k :: p) m (by rwa [at?_cons_of_child hk])
        rwa [List.append_assoc, List.singleton_append, Nat.zero_add]
      rw [below]

/-- An edit that leaves every node as it is changes nothing. -/
theorem editAt_eq_self {n : Node} {path : Path}
    (h : ∀ p m, n.at? p = some m → f (path ++ p) m = m) : n.editAt f path = n := by
  induction n using childInduction generalizing path with
  | step n ih =>
    have here : f path n = n := by simpa using h [] n rfl
    cases hn : n.hasNoChildren with
    | true => rw [editAt_of_hasNoChildren hn, here]
    | false =>
      have below : editAll f path 0 n.childList = n.childList := by
        apply List.ext_getElem?
        intro k
        rw [getElem?_editAll]
        cases hk : n.childList[k]? with
        | none => rfl
        | some child =>
          refine congrArg some (ih child (List.mem_of_getElem? hk) fun p m hp => ?_)
          have := h (k :: p) m (by rwa [at?_cons_of_child hk])
          rwa [List.append_assoc, List.singleton_append, Nat.zero_add]
      rw [editAt_of_children hn, here, below, with_childList hn]

/-! ## Edits one after the other -/

/-- A local function keeps existing children. -/
theorem Local.children (hf : Local f) (path : Path) {n : Node} (h : n.hasNoChildren = false) :
    (f path n).children = n.children := by
  have := hf path n n.childList h (hasNoChildren_eq_false_iff.mp h)
  rw [with_childList h] at this
  rw [this, children_of_hasNoChildren h]

theorem Local.hasNoChildren (hf : Local f) (path : Path) {n : Node}
    (h : n.hasNoChildren = false) : (f path n).hasNoChildren = false := by
  rw [Node.hasNoChildren, childList, hf.children path h]
  exact h

/-- One edit after the other. Where a node has no children, the second edit also reaches what the
first one has put below it. -/
theorem editAt_editAt (hf : Local f) (hg : Local g) (n : Node) (path : Path) :
    (n.editAt f path).editAt g path =
      n.editAt (fun p m => if m.hasNoChildren then (f p m).editAt g p else g p (f p m)) path := by
  induction n using childInduction generalizing path with
  | step n ih =>
    cases hn : n.hasNoChildren with
    | true => rw [editAt_of_hasNoChildren hn, editAt_of_hasNoChildren hn, if_pos hn]
    | false =>
      have some_children : editAll f path 0 n.childList ≠ [] := by
        rw [Ne, ← List.length_eq_zero_iff, length_editAll, List.length_eq_zero_iff]
        exact hasNoChildren_eq_false_iff.mp hn
      have below : editAll g path 0 (editAll f path 0 n.childList) =
          editAll (fun p m => if m.hasNoChildren then (f p m).editAt g p else g p (f p m)) path 0
            n.childList := by
        apply editAll_congr (length_editAll ..)
        intro k child' child hk' hk
        rw [getElem?_editAll, hk, Option.map_some] at hk'
        rw [← Option.some.inj hk']
        exact ih child (List.mem_of_getElem? hk) _
      have edited : ({ f path n with children := some (editAll f path 0 n.childList) } :
          Node).hasNoChildren = false := hasNoChildren_eq_false_iff.mpr some_children
      -- the second edit does not look at the children that the first one has left
      rw [editAt_of_children hn, editAt_of_children edited,
        hg path _ _ (hf.hasNoChildren path hn) some_children, editAt_of_children hn, ← below,
        if_neg (by simp [hn])]
      rfl

/-! ## A single node -/

/-- What is done to the node at `path` and to no other. -/
def only (path : Path) (f : Node → Node) : Path → Node → Node :=
  fun p n => if p = path then f n else n

theorem only_self (path : Path) (f : Node → Node) (n : Node) : only path f path n = f n :=
  if_pos rfl

theorem only_of_ne {path p : Path} (h : p ≠ path) (f : Node → Node) (n : Node) :
    only path f p n = n :=
  if_neg h

/-- Changing the node at a single place is an edit. -/
theorem modifyAt?_eq_editAt {f : Node → Node} (hf : ∀ n, n.hasNoChildren = false →
    (f n).children = n.children) {n m : Node} {p : Path} (h : n.at? p = some m) (path : Path) :
    n.modifyAt? f p = some (n.editAt (only (path ++ p) f) path) := by
  induction p generalizing n path with
  | nil =>
    rw [List.append_nil]
    cases hn : n.hasNoChildren with
    | true => rw [editAt_of_hasNoChildren hn, only_self]; rfl
    | false =>
      -- no path below a node is the path of the node
      have below : editAll (only path f) path 0 n.childList = n.childList := by
        apply List.ext_getElem?
        intro k
        rw [getElem?_editAll]
        cases hk : n.childList[k]? with
        | none => rfl
        | some child =>
          refine congrArg some (editAt_eq_self fun q m _ => only_of_ne ?_ f m)
          simp
      have hc : (f n).hasNoChildren = false := by
        rw [hasNoChildren, childList, hf n hn]
        exact hn
      have : (f n).childList = n.childList := by rw [childList, childList, hf n hn]
      rw [editAt_of_children hn, only_self, below, ← this, with_childList hc]
      rfl
  | cons i p ih =>
    obtain ⟨child, hi, h⟩ := Option.bind_eq_some_iff.mp h
    have hn : n.hasNoChildren = false :=
      hasNoChildren_eq_false_iff.mpr (List.ne_nil_of_mem (List.mem_of_getElem? hi))
    -- the path leads through the child with index `i`, so the other children stay as they are
    have below : n.childList.set i (child.editAt (only (path ++ i :: p) f) (path ++ [i])) =
        editAll (only (path ++ i :: p) f) path 0 n.childList := by
      apply List.ext_getElem?
      intro k
      rw [getElem?_editAll, List.getElem?_set, Nat.zero_add]
      split
      · rename_i eq
        subst eq
        obtain ⟨lt, -⟩ := List.getElem?_eq_some_iff.mp hi
        rw [if_pos lt, hi, Option.map_some]
      · rename_i ne
        cases hk : n.childList[k]? with
        | none => rfl
        | some sibling =>
          refine congrArg some (editAt_eq_self fun q m _ => only_of_ne ?_ f m).symm
          rw [List.append_assoc, List.singleton_append]
          exact fun eq => ne (List.cons.inj (List.append_cancel_left eq)).1.symm
    have elsewhere : only (path ++ i :: p) f path n = n := only_of_ne (by simp) f n
    have hchild := ih h (path ++ [i])
    rw [List.append_assoc, List.singleton_append] at hchild
    rw [modifyAt?, hi, editAt_of_children hn, elsewhere, ← below]
    simp [hchild]

end Node

end MailMerge
