import MailMerge.Proofs.Json.Value
import MailMerge.Proofs.Render.Resolve
import MailMerge.Proofs.Tree.Growth
import MailMerge.Render.Render

/-!
# Well-formed documents

A node keeps the keys that have no meaning here in dictionaries next to its fields. As types go,
such a dictionary may also hold a key that does have a meaning, and a kind may be an unknown one
with the name of a known one. Written down, such a node would say one thing twice or something
else than it is. The documents that are read or rendered are not like that: they are well-formed,
and whatever a rendering does to a well-formed document leaves it so.

## Main definitions

* `Foreign`: keys without a meaning, with values in key order.
* `Node.Proper`: a node that is well-formed but for the nodes below it.
* `Node.WellFormed`: documents, all nodes of which are proper.

## Main results

* `WellFormed.fill`, `WellFormed.writeLink`: visits and minted links keep a node well-formed.
* `WellFormed.editAt`, `WellFormed.modifyAt?`: so do edits that keep every node so.
* `WellFormed.walk`, `WellFormed.render`: both phases of a rendering keep a document well-formed.
-/

namespace MailMerge

/-- Values under keys without a meaning: none of them is `known`, and all are in key order. -/
structure Foreign (known : List String) (others : Dict Json) : Prop where
  unknown : ∀ key ∈ known, others.get? key = none
  sorted : ∀ key v, others.get? key = some v → v.sorted = v

theorem Foreign.empty (known : List String) : Foreign known .empty := ⟨fun _ _ => rfl, nofun⟩

theorem Foreign.of_mem {known : List String} {others : Dict Json} (h : Foreign known others)
    {e : String × Json} (mem : e ∈ others.entries) : e.1 ∉ known ∧ e.2.sorted = e.2 := by
  have found := Dict.get?_of_mem mem
  refine ⟨fun known => ?_, h.sorted e.1 e.2 found⟩
  rw [h.unknown e.1 known] at found
  cases found

/-- The keys of a node that have a meaning. -/
def Node.knownKeys : List String := ["type", "name", "attributes", "children", "value", "data"]

/-- The keys of annotations that have a meaning. -/
def NodeData.knownKeys : List String := ["hName", "hProperties", "hChildren"]

/-- The keys of properties that have a meaning. -/
def NodeData.propertyKeys : List String := ["href"]

namespace Node

variable {n m : Node}

/-! ## One node -/

/-- A node that is as its text says: its kind is the one with its name, and no key with a meaning
stands among those without. -/
structure Proper (n : Node) : Prop where
  kind : Kind.ofName n.kind.name = n.kind
  others : Foreign knownKeys n.others
  dataOthers : Foreign NodeData.knownKeys n.dataOrBlank.others
  otherProperties : Foreign NodeData.propertyKeys n.dataOrBlank.otherProperties

theorem Proper.of_sameSource (h : n.Proper) (same : n.SameSource m) : m.Proper where
  kind := by rw [same.kind, h.kind]
  others := same.others ▸ h.others
  dataOthers := same.dataOthers ▸ h.dataOthers
  otherProperties := same.otherProperties ▸ h.otherProperties

/-- A document, all nodes of which are proper: those in it and those shown in place of others. -/
inductive WellFormed : Node → Prop
  | mk {n : Node} (proper : n.Proper) (children : ∀ child ∈ n.childList, WellFormed child)
      (shown : ∀ child ∈ n.shown?.getD [], WellFormed child) : WellFormed n

theorem WellFormed.proper (h : n.WellFormed) : n.Proper := by
  cases h
  assumption

theorem WellFormed.children (h : n.WellFormed) : ∀ child ∈ n.childList, child.WellFormed := by
  cases h
  assumption

theorem WellFormed.shown (h : n.WellFormed) : ∀ child ∈ n.shown?.getD [], child.WellFormed := by
  cases h
  assumption

/-- A node is well-formed if its annotations are, should there be any. -/
theorem WellFormed.of_data (kind : Kind.ofName n.kind.name = n.kind)
    (others : Foreign knownKeys n.others) (children : ∀ child ∈ n.childList, child.WellFormed)
    (data : ∀ d, n.data = some d → Foreign NodeData.knownKeys d.others ∧
      Foreign NodeData.propertyKeys d.otherProperties ∧
      ∀ child ∈ d.shown.getD [], child.WellFormed) : n.WellFormed := by
  cases noted : n.data with
  | none =>
    refine ⟨⟨kind, others, ?_, ?_⟩, children, ?_⟩
    · rw [dataOrBlank, noted]
      exact .empty _
    · rw [dataOrBlank, noted]
      exact .empty _
    · rw [shown?, noted]
      exact List.forall_mem_nil _
  | some d =>
    obtain ⟨dataOthers, otherProperties, shown⟩ := data d noted
    refine ⟨⟨kind, others, ?_, ?_⟩, children, ?_⟩
    · rwa [dataOrBlank, noted]
    · rwa [dataOrBlank, noted]
    · rwa [shown?, noted]

theorem wellFormed_text (value : String) : (text value).WellFormed :=
  ⟨⟨rfl, .empty _, .empty _, .empty _⟩, nofun, nofun⟩

theorem forall_mem_text {value : String} : ∀ child ∈ [text value], child.WellFormed := by
  intro child mem
  rw [List.mem_singleton.mp mem]
  exact wellFormed_text value

/-! ## Changes of one node -/

theorem WellFormed.label (h : n.WellFormed) (text : String) : (n.label text).WellFormed := by
  rw [Node.label]
  split
  · exact ⟨h.proper.of_sameSource ⟨rfl, rfl, rfl, rfl, rfl, rfl, rfl⟩, forall_mem_text, h.shown⟩
  · exact h

theorem WellFormed.labelWith (h : n.WellFormed) (text : Option String) :
    (n.labelWith text).WellFormed := by
  cases text with
  | none => exact h
  | some text => exact h.label text

theorem WellFormed.withElement (h : n.WellFormed) {e : Element}
    (shows : ∀ child ∈ e.children.getD [], child.WellFormed) :
    ({ n with data := some (n.dataOrBlank.withElement e) } : Node).WellFormed :=
  ⟨h.proper.of_sameSource ⟨rfl, rfl, rfl, rfl, rfl, rfl, rfl⟩, h.children, shows⟩

theorem WellFormed.setHref (h : n.WellFormed) (href : String) :
    (n.setHref href).WellFormed := by
  have same : (n.setHref href).shown? = n.shown? := by
    cases data : n.data <;> simp [Node.setHref, shown?, dataOrBlank, NodeData.blank, data]
  exact ⟨h.proper.of_sameSource (keeps_setHref n href).source, h.children, same ▸ h.shown⟩

/-- A successful visit puts nothing but texts below its node. -/
theorem WellFormed.fill (h : n.WellFormed) {c : Context} {r : Option Resolution}
    (ok : (n.fill c).outcome = .ok r) : (n.fill c).node.WellFormed := by
  rcases fill_cases ok with
    ⟨-, -, node⟩ | ⟨-, target, -, -, -, node⟩ | ⟨-, -, text, -, -, node⟩
  · rw [node]
    exact h
  · have labelled := (h.labelWith target.label?).withElement (e := .anchor target.href) nofun
    rw [dataOrBlank_labelWith] at labelled
    rw [node]
    exact labelled
  · rw [node]
    exact h.withElement (e := .span text) forall_mem_text

theorem WellFormed.writeLink (h : n.WellFormed) (url : String) : (n.writeLink url).WellFormed :=
  (h.label url).setHref url

/-! ## Changes of a document -/

theorem WellFormed.with_children (h : n.WellFormed) {children : List Node}
    (below : ∀ child ∈ children, child.WellFormed) :
    ({ n with children := some children } : Node).WellFormed :=
  ⟨h.proper.of_sameSource ⟨rfl, rfl, rfl, rfl, rfl, rfl, rfl⟩, below, h.shown⟩

/-- An edit that keeps the nodes at all places well-formed keeps the document so. -/
theorem WellFormed.editAt (h : n.WellFormed) {f : Path → Node → Node} {path : Path}
    (hf : ∀ p m, n.at? p = some m → m.WellFormed → (f (path ++ p) m).WellFormed) :
    (n.editAt f path).WellFormed := by
  induction n using childInduction generalizing path with
  | step n ih =>
    have here : (f path n).WellFormed := by simpa using hf [] n rfl h
    cases hn : n.hasNoChildren with
    | true =>
      rw [editAt_of_hasNoChildren hn]
      exact here
    | false =>
      rw [editAt_of_children hn]
      apply here.with_children
      intro child mem
      obtain ⟨i, hi⟩ := List.mem_iff_getElem?.mp mem
      rw [getElem?_editAll, Option.map_eq_some_iff] at hi
      obtain ⟨before, hi, rfl⟩ := hi
      have mem := List.mem_of_getElem? hi
      -- a place below a child is a place of the document, with the index of the child in front
      refine ih before mem (h.children before mem) fun p m hp wf => ?_
      have := hf (i :: p) m (by rwa [at?_cons_of_child hi]) wf
      rwa [List.append_assoc, List.singleton_append, Nat.zero_add]

theorem WellFormed.modifyAt? (h : n.WellFormed) {f : Node → Node}
    (hf : ∀ k : Node, k.WellFormed → (f k).WellFormed) {p : Path}
    (changed : n.modifyAt? f p = some m) : m.WellFormed := by
  induction p generalizing n m with
  | nil =>
    obtain rfl : f n = m := by simpa [Node.modifyAt?] using changed
    exact hf n h
  | cons i p ih =>
    obtain ⟨child, after, hi, below, rfl⟩ := modifyAt?_cons_eq_some_iff.mp changed
    have new := ih (h.children child (List.mem_of_getElem? hi)) below
    apply h.with_children
    intro k mem
    rcases List.mem_or_eq_of_mem_set mem with mem | rfl
    · exact h.children k mem
    · exact new

/-! ## Rendering -/

/-- Filling in a document keeps it well-formed. -/
theorem WellFormed.walk (h : n.WellFormed) {c : Context} {found : Found}
    (ok : (n.walk c).outcome = .ok found) : (n.walk c).result.WellFormed := by
  obtain ⟨ok, -⟩ := Walk.outcome_eq_ok_iff.mp ok
  rw [walk_eq_edit ok]
  apply h.editAt
  intro p m hp wf
  obtain ⟨r, filled⟩ := failure_walkAt_eq_none_iff.mp ok p m hp
  exact wf.fill filled

/-- Writing links keeps a document well-formed, however many of them find their node. -/
theorem WellFormed.writeLinks (h : n.WellFormed) (links : List (DeferredLink × String)) :
    (n.writeLinks links).1.WellFormed := by
  induction links generalizing n with
  | nil => exact h
  | cons link links ih =>
    obtain ⟨link, url⟩ := link
    rw [Node.writeLinks]
    cases changed : n.modifyAt? (fun n => n.writeLink url) link.path with
    | none => exact h
    | some m => exact ih (h.modifyAt? (fun _ wf => wf.writeLink url) changed)

theorem WellFormed.resolve {σ : Type} (h : n.WellFormed) (service : FormService σ) (c : Context)
    (links : List DeferredLink) (s : σ) : (n.resolve service c links s).tree.WellFormed := by
  rw [Node.resolve]
  split
  · exact h
  · dsimp only
    split
    · exact h
    · rename_i urls _
      have written := h.writeLinks (links.zip urls)
      split <;> rename_i write <;> rw [write] at written <;> exact written

/-- Rendering keeps a document well-formed. -/
theorem WellFormed.render {σ : Type} (h : n.WellFormed) {service : FormService σ} {c : Context}
    {s : σ} {rendered : Rendered} (ok : (n.render service c s).result = .ok rendered) :
    rendered.tree.WellFormed := by
  cases first : (n.walk c).outcome with
  | error e =>
    rw [render_of_failure service c s first] at ok
    cases ok
  | ok found =>
    have resolved := (h.walk first).resolve service c found.deferred s
    rw [Node.render] at ok
    dsimp only at ok
    rw [first] at ok
    dsimp only at ok
    split at ok
    · cases ok
    · cases ok
      exact resolved

end Node

end MailMerge
