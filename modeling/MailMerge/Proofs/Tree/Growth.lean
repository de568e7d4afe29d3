import MailMerge.Proofs.Directive.Fill
import MailMerge.Proofs.Tree.Edit
import MailMerge.Render.Walk

/-!
# Documents that grow

Whatever is done to a document in a rendering, nothing that has been there goes away. A node keeps
what it has been written with, an element that has been noted on it stays, and so do its children
once it has some. What is new in a document is a text that has been put below a node without
children. So a document can be said to grow, and growth has two laws: it goes on from one change to
the next, and a node may grow on its own as well as in its children.

## Main definitions

* `Node.Keeps`: what a node has to keep.
* `Node.GrowsTo`: a document and what it may become.

## Main results

* `GrowsTo.trans`: growth goes on.
* `GrowsTo.of_children`: a node grows on its own and in its children.
* `growsTo_editAt`, `growsTo_modifyAt?`: edits grow a document if they grow its nodes.
-/

namespace MailMerge

namespace Node

variable {k n m : Node}

/-! ## One node -/

/-- What the node `n` has is kept in `m`: all that it has been written with, its element with the
nodes that this shows, and its children, if it has any, in their number. -/
structure Keeps (n m : Node) : Prop where
  source : n.SameSource m
  element : n.tag? ≠ none → m.tag? = n.tag? ∧ m.shown? = n.shown?
  row : n.hasNoChildren = false → m.childList.length = n.childList.length

theorem Keeps.hasNoChildren (h : n.Keeps m) (hn : n.hasNoChildren = false) :
    m.hasNoChildren = false := by
  have row := h.row hn
  rw [hasNoChildren_eq_false_iff, Ne, ← List.length_eq_zero_iff] at hn ⊢
  rwa [row]

theorem Keeps.refl (n : Node) : n.Keeps n := ⟨.refl n, fun _ => ⟨rfl, rfl⟩, fun _ => rfl⟩

theorem Keeps.trans (h : k.Keeps n) (h' : n.Keeps m) : k.Keeps m where
  source := h.source.trans h'.source
  element noted := by
    obtain ⟨tag, shown⟩ := h.element noted
    obtain ⟨tag', shown'⟩ := h'.element (tag ▸ noted)
    exact ⟨tag'.trans tag, shown'.trans shown⟩
  row hk := (h'.row (h.hasNoChildren hk)).trans (h.row hk)

theorem Keeps.with_children (h : n.Keeps m) {children : List Node}
    (length : children.length = n.childList.length) :
    n.Keeps { m with children := some children } where
  source := ⟨h.source.kind, h.source.name, h.source.attributes, h.source.value, h.source.others,
    h.source.dataOthers, h.source.otherProperties⟩
  element := h.element
  row _ := length

theorem keeps_label (n : Node) (text : String) : n.Keeps (n.label text) where
  source := sameSource_labelWith n (some text)
  element _ := by
    have data := data_labelWith n (some text)
    rw [labelWith] at data
    rw [tag?, tag?, shown?, shown?, data]
    exact ⟨rfl, rfl⟩
  row hn := by rw [label_of_children hn]

/-- An element is noted where there is none yet. -/
theorem keeps_emit? {e : Element} (h : n.emit? e = some m) : n.Keeps m where
  source := sameSource_emit? h
  element noted := by
    rw [emit?_eq_none_iff.mpr (Option.isSome_iff_ne_none.mpr noted)] at h
    cases h
  row _ := by rw [childList, childList, children_emit? h]

theorem keeps_setHref (n : Node) (href : String) : n.Keeps (n.setHref href) where
  source := ⟨rfl, rfl, rfl, rfl, rfl, rfl, rfl⟩
  element noted := by
    cases data : n.data with
    | none => rw [tag?, data] at noted; exact absurd rfl noted
    | some d => simp [setHref, tag?, shown?, dataOrBlank, data]
  row _ := rfl

/-! ## A document -/

/-- A document `before` that may become `after`: every place stays, and its node keeps what it has;
what is new is a text. -/
structure GrowsTo (before after : Node) : Prop where
  places : ∀ p n, before.at? p = some n → ∃ m, after.at? p = some m ∧ n.Keeps m
  added : ∀ p m, before.at? p = none → after.at? p = some m → m.kind = .text

theorem GrowsTo.refl (n : Node) : n.GrowsTo n where
  places _ m hp := ⟨m, hp, .refl m⟩
  added _ _ new hm := by cases new.symm.trans hm

/-- Growth goes on. -/
theorem GrowsTo.trans (h : k.GrowsTo n) (h' : n.GrowsTo m) : k.GrowsTo m where
  places p x hx := by
    obtain ⟨y, hy, keeps⟩ := h.places p x hx
    obtain ⟨z, hz, keeps'⟩ := h'.places p y hy
    exact ⟨z, hz, keeps.trans keeps'⟩
  added p z new hz := by
    cases hy : n.at? p with
    | none => exact h'.added p z hy hz
    | some y =>
      -- what is new in between is a text and remains one
      obtain ⟨z', hz', keeps⟩ := h'.places p y hy
      obtain rfl := Option.some.inj (hz.symm.trans hz')
      exact keeps.source.kind.trans (h.added p y new hy)

/-- A node grows on its own and in its children. Only where there was no child may there be a new
one, which is a text without children. -/
theorem GrowsTo.of_children (own : n.Keeps m)
    (below : ∀ (i : Nat) (child : Node), n.childList[i]? = some child →
      ∃ child', m.childList[i]? = some child' ∧ child.GrowsTo child')
    (new : n.hasNoChildren = true → ∀ child ∈ m.childList,
      child.kind = .text ∧ child.hasNoChildren = true) :
    n.GrowsTo m where
  places p x hp := by
    cases p with
    | nil =>
      obtain rfl : n = x := by simpa using hp
      exact ⟨m, rfl, own⟩
    | cons i p =>
      obtain ⟨child, hi, hp⟩ := Option.bind_eq_some_iff.mp hp
      obtain ⟨child', hi', grows⟩ := below i child hi
      obtain ⟨y, hy, keeps⟩ := grows.places p x hp
      exact ⟨y, by rwa [at?_cons_of_child hi'], keeps⟩
  added p y absent hy := by
    cases p with
    | nil => cases absent
    | cons i p =>
      obtain ⟨child', hi', hy⟩ := Option.bind_eq_some_iff.mp hy
      cases hn : n.hasNoChildren with
      | true =>
        -- the new child is a text, and there is nothing below it
        obtain ⟨text, leaf⟩ := new hn child' (List.mem_of_getElem? hi')
        cases p with
        | nil =>
          obtain rfl : child' = y := by simpa using hy
          exact text
        | cons j p =>
          rw [at?_cons_of_hasNoChildren leaf] at hy
          cases hy
      | false =>
        obtain ⟨lt, -⟩ := List.getElem?_eq_some_iff.mp hi'
        have hi := List.getElem?_eq_getElem (own.row hn ▸ lt)
        obtain ⟨child'', hi'', grows⟩ := below i _ hi
        obtain rfl := Option.some.inj (hi'.symm.trans hi'')
        rw [at?_cons_of_child hi] at absent
        exact grows.added p y absent hy

/-- A node that grows on its own and leaves its children alone. -/
theorem GrowsTo.of_same_children (own : n.Keeps m) (same : m.children = n.children) :
    n.GrowsTo m := by
  have same : m.childList = n.childList := by rw [childList, childList, same]
  refine .of_children own (fun i child hi => ⟨child, by rwa [same], .refl child⟩) ?_
  intro hn child mem
  rw [same, hasNoChildren_iff.mp hn] at mem
  cases mem

/-! ## Changes of one node -/

theorem growsTo_label (n : Node) (text : String) : n.GrowsTo (n.label text) := by
  cases hn : n.hasNoChildren with
  | false =>
    rw [label_of_children hn]
    exact .refl n
  | true =>
    refine .of_children (keeps_label n text) (fun i child hi => ?_) (fun _ child mem => ?_)
    · rw [hasNoChildren_iff.mp hn] at hi
      cases hi
    · rw [label, if_pos hn] at mem
      obtain rfl := List.mem_singleton.mp mem
      exact ⟨rfl, rfl⟩

theorem growsTo_labelWith (n : Node) (label : Option String) : n.GrowsTo (n.labelWith label) := by
  cases label with
  | none => exact .refl n
  | some text => exact growsTo_label n text

theorem growsTo_emit? {e : Element} (h : n.emit? e = some m) : n.GrowsTo m :=
  .of_same_children (keeps_emit? h) (children_emit? h)

theorem growsTo_setHref (n : Node) (href : String) : n.GrowsTo (n.setHref href) :=
  .of_same_children (keeps_setHref n href) rfl

/-! ## Changes of a document -/

/-- An edit grows a document if it grows every node. -/
theorem growsTo_editAt {f : Path → Node → Node} (hf : ∀ path m, GrowsTo m (f path m)) (n : Node)
    (path : Path) : n.GrowsTo (n.editAt f path) := by
  induction n using childInduction generalizing path with
  | step n ih =>
    cases hn : n.hasNoChildren with
    | true =>
      rw [editAt_of_hasNoChildren hn]
      exact hf path n
    | false =>
      obtain ⟨m, hm, own⟩ := (hf path n).places [] n rfl
      obtain rfl : f path n = m := by simpa using hm
      rw [editAt_of_children hn]
      refine .of_children (own.with_children (length_editAll ..)) (fun i child hi => ?_) ?_
      · refine ⟨_, ?_, ih child (List.mem_of_getElem? hi) (path ++ [0 + i])⟩
        rw [childList, Option.getD_some, getElem?_editAll, hi, Option.map_some]
      · intro empty
        rw [hn] at empty
        cases empty

/-- Changing a single node grows a document if it grows that node. -/
theorem growsTo_modifyAt? {f : Node → Node} (hf : ∀ k, GrowsTo k (f k)) {p : Path}
    (h : n.modifyAt? f p = some m) : n.GrowsTo m := by
  induction p generalizing n m with
  | nil =>
    obtain rfl : f n = m := by simpa [modifyAt?] using h
    exact hf n
  | cons i p ih =>
    obtain ⟨child, changed, hi, hc, rfl⟩ := modifyAt?_cons_eq_some_iff.mp h
    have grows := ih hc
    refine .of_children ((Keeps.refl n).with_children (List.length_set ..)) (fun j x hj => ?_) ?_
    · rw [childList, Option.getD_some, List.getElem?_set]
      by_cases eq : i = j
      · subst eq
        obtain rfl := Option.some.inj (hi.symm.trans hj)
        rw [if_pos rfl, if_pos (List.getElem?_eq_some_iff.mp hi).1]
        exact ⟨changed, rfl, grows⟩
      · rw [if_neg eq]
        exact ⟨x, hj, .refl x⟩
    · intro empty
      rw [hasNoChildren_iff.mp empty] at hi
      cases hi

end Node

end MailMerge
