import MailMerge.Proofs.Tree.Places
import MailMerge.Text.Lowercase
import MailMerge.Tree.Annotate

/-!
# Documents that differ in the spelling of names

The names of directives may be spelt in capital or small letters. Writing all of them in small
letters gives a document a normal form, and two documents are spelt alike if they have the same
one. Whatever is looked up or noted in a document is looked up or noted in its normal form in the
same way.

## Main definitions

* `Text.folded`: a text in small ASCII letters.
* `Node.folded`: a document with the names of its directives in small ASCII letters.
* `Node.SpeltAlike`: documents that are equal up to the spelling of the names of directives.

## Main results

* `speltAlike_iff`: what it means to be spelt alike, node by node.
* `at?_folded`, `modifyAt?_folded`: looking up and changing a node in the normal form.
* `label_folded`, `emit?_folded`: noting something on a node of it.
-/

namespace MailMerge

namespace Text

/-- A text in small ASCII letters. -/
def folded (s : String) : String := String.ofList (lowerAscii s)

theorem folded_eq_folded_iff {s t : String} :
    folded s = folded t ↔ lowerAscii s = lowerAscii t :=
  String.ofList_inj

theorem lowerAscii_folded (s : String) : lowerAscii (folded s) = lowerAscii s := by
  rw [lowerAscii, folded, String.toList_ofList, lowerAscii, List.map_map]
  exact List.map_congr_left fun c _ => Char.toLower_toLower_eq_toLower c

end Text

namespace Node

/-! ## The normal form -/

mutual

/-- A document with the names of its directives in small ASCII letters, those among the nodes that
are shown included. -/
def folded : Node → Node
  | ⟨kind, name, attributes, children, value, data, others⟩ =>
    ⟨kind, if kind.isDirective then name.map Text.folded else name, attributes,
      foldedRow children, value, foldedData data, others⟩

/-- The children of a node, which may have no list of them. -/
def foldedRow : Option (List Node) → Option (List Node)
  | none => none
  | some ns => some (foldedAll ns)

/-- Nodes in a row. -/
def foldedAll : List Node → List Node
  | [] => []
  | n :: ns => n.folded :: foldedAll ns

/-- The annotations of a node. -/
def foldedData : Option (NodeData Node) → Option (NodeData Node)
  | none => none
  | some ⟨tag, href, otherProperties, shown, others⟩ =>
    some ⟨tag, href, otherProperties, foldedRow shown, others⟩

end

theorem foldedAll_eq (ns : List Node) : foldedAll ns = ns.map folded := by
  induction ns with
  | nil => rfl
  | cons n ns ih => rw [foldedAll, ih, List.map_cons]

theorem foldedRow_eq (row : Option (List Node)) : foldedRow row = row.map (List.map folded) := by
  cases row with
  | none => rfl
  | some ns => rw [foldedRow, foldedAll_eq, Option.map_some]

end Node

/-- The normal form of annotations: that of the nodes that are shown. -/
def NodeData.folded (d : NodeData Node) : NodeData Node :=
  { d with shown := d.shown.map (List.map Node.folded) }

namespace Node

variable {n m : Node}

theorem foldedData_eq (data : Option (NodeData Node)) :
    foldedData data = data.map NodeData.folded := by
  cases data with
  | none => rfl
  | some d => exact congrArg (fun shown => some { d with shown := shown }) (foldedRow_eq d.shown)

/-- The normal form of a node, field by field. -/
theorem folded_eq (n : Node) : n.folded =
    ⟨n.kind, if n.isDirective then n.name.map Text.folded else n.name, n.attributes,
      n.children.map (List.map folded), n.value, n.data.map NodeData.folded, n.others⟩ := by
  obtain ⟨kind, name, attributes, children, value, data, others⟩ := n
  rw [folded, foldedRow_eq, foldedData_eq]
  rfl

@[simp] theorem attributes_folded (n : Node) : n.folded.attributes = n.attributes := by
  rw [folded_eq]

@[simp] theorem children_folded (n : Node) :
    n.folded.children = n.children.map (List.map folded) := by
  rw [folded_eq]

@[simp] theorem data_folded (n : Node) : n.folded.data = n.data.map NodeData.folded := by
  rw [folded_eq]

@[simp] theorem isDirective_folded (n : Node) : n.folded.isDirective = n.isDirective := by
  rw [folded_eq]
  rfl

theorem writtenName_folded (isDirective : n.isDirective = true) :
    n.folded.writtenName = Text.folded n.writtenName := by
  rw [folded_eq, isDirective, writtenName, writtenName]
  cases n.name <;> rfl

@[simp] theorem childList_folded (n : Node) : n.folded.childList = n.childList.map folded := by
  rw [childList, children_folded, childList]
  cases n.children <;> rfl

@[simp] theorem hasNoChildren_folded (n : Node) : n.folded.hasNoChildren = n.hasNoChildren := by
  rw [hasNoChildren, childList_folded, List.isEmpty_map, hasNoChildren]

@[simp] theorem tag?_folded (n : Node) : n.folded.tag? = n.tag? := by
  rw [tag?, data_folded, tag?]
  cases n.data <;> rfl

@[simp] theorem href?_folded (n : Node) : n.folded.href? = n.href? := by
  rw [href?, data_folded, href?]
  cases n.data <;> rfl

@[simp] theorem shown?_folded (n : Node) :
    n.folded.shown? = n.shown?.map (List.map folded) := by
  rw [shown?, data_folded, shown?]
  cases n.data <;> rfl

/-! ### Looking nodes up and changing them -/

/-- A node of the normal form is the normal form of a node. -/
theorem at?_folded (n : Node) (p : Path) : n.folded.at? p = (n.at? p).map folded := by
  induction p generalizing n with
  | nil => rfl
  | cons i p ih =>
    rw [at?_cons, at?_cons, childList_folded, List.getElem?_map]
    cases n.childList[i]? with
    | none => rfl
    | some child => exact ih child

/-- Other children in normal form. -/
theorem with_children_folded (n : Node) (ns : List Node) :
    { n with children := some ns }.folded = { n.folded with children := some (ns.map folded) } := by
  rw [folded_eq, folded_eq]
  rfl

/-- Other annotations in normal form. -/
theorem with_data_folded (n : Node) (d : NodeData Node) :
    { n with data := some d }.folded = { n.folded with data := some d.folded } := by
  rw [folded_eq, folded_eq]
  rfl

theorem modifyAt?_folded {f : Node → Node} (hf : ∀ n, (f n).folded = f n.folded) (n : Node)
    (p : Path) : n.folded.modifyAt? f p = (n.modifyAt? f p).map folded := by
  induction p generalizing n with
  | nil => exact congrArg some (hf n).symm
  | cons i p ih =>
    rw [modifyAt?, modifyAt?, childList_folded, List.getElem?_map]
    cases n.childList[i]? with
    | none => rfl
    | some child =>
      have changed := ih child
      cases h : child.modifyAt? f p with
      | none => simp [h, changed]
      | some child' => simp [h, changed, with_children_folded, List.map_set]

/-! ### Noting something -/

theorem label_folded (n : Node) (text : String) : (n.label text).folded = n.folded.label text := by
  rw [label, label, hasNoChildren_folded]
  split
  · rw [with_children_folded]
    rfl
  · rfl

theorem labelWith_folded (n : Node) (text : Option String) :
    (n.labelWith text).folded = n.folded.labelWith text := by
  cases text with
  | none => rfl
  | some text => exact label_folded n text

theorem dataOrBlank_folded (n : Node) : n.folded.dataOrBlank = n.dataOrBlank.folded := by
  rw [dataOrBlank, data_folded, dataOrBlank]
  cases n.data <;> rfl

theorem setHref_folded (n : Node) (href : String) :
    (n.setHref href).folded = n.folded.setHref href := by
  rw [setHref, setHref, with_data_folded, dataOrBlank_folded]
  rfl

/-- An element that shows no directives is noted on the normal form as well. -/
theorem emit?_folded {e : Element} (plain : e.children.map (List.map folded) = e.children)
    (n : Node) : n.folded.emit? e = (n.emit? e).map folded := by
  rw [emit?, emit?, tag?_folded]
  split
  · rfl
  · rw [Option.map_some, with_data_folded, dataOrBlank_folded, NodeData.withElement,
      NodeData.withElement, NodeData.folded, NodeData.folded, plain]

/-! ## Documents that are spelt alike -/

/-- Documents that are equal up to the case of ASCII letters in the names of directives. -/
def SpeltAlike (n m : Node) : Prop := n.folded = m.folded

/-- Rows of nodes that are spelt alike, one by one, or no rows at all. -/
def RowsAlike : Option (List Node) → Option (List Node) → Prop :=
  Option.Rel (List.Forall₂ SpeltAlike)

theorem map_folded_eq_iff {ns ms : List Node} :
    ns.map folded = ms.map folded ↔ List.Forall₂ SpeltAlike ns ms := by
  rw [← List.forall₂_eq_eq_eq, List.forall₂_map_left_iff, List.forall₂_map_right_iff]
  rfl

/-- Images are equal iff the originals are related so, or both are absent. -/
theorem map_eq_map_iff {α β : Type} {f : α → β} {a b : Option α} :
    a.map f = b.map f ↔ Option.Rel (fun x y => f x = f y) a b := by
  cases a <;> cases b <;> simp

theorem rowsAlike_iff {row row' : Option (List Node)} :
    row.map (List.map folded) = row'.map (List.map folded) ↔ RowsAlike row row' := by
  simp only [map_eq_map_iff, map_folded_eq_iff, RowsAlike]

end Node

/-- Annotations that are equal up to the spelling of names in the nodes that are shown. -/
structure NodeData.SpeltAlike (d d' : NodeData Node) : Prop where
  tag : d.tag = d'.tag
  href : d.href = d'.href
  otherProperties : d.otherProperties = d'.otherProperties
  shown : Node.RowsAlike d.shown d'.shown
  others : d.others = d'.others

theorem NodeData.folded_eq_folded_iff {d d' : NodeData Node} :
    d.folded = d'.folded ↔ d.SpeltAlike d' := by
  rw [folded, folded, NodeData.mk.injEq, Node.rowsAlike_iff]
  exact ⟨fun ⟨tag, href, properties, shown, others⟩ => ⟨tag, href, properties, shown, others⟩,
    fun ⟨tag, href, properties, shown, others⟩ => ⟨tag, href, properties, shown, others⟩⟩

namespace Node

variable {n m : Node}

/-- Names of nodes that are spelt alike: the same ones, up to case for directives. -/
def NamesAlike (n m : Node) : Prop :=
  if n.isDirective then
    Option.Rel (fun s t => Text.lowerAscii s = Text.lowerAscii t) n.name m.name
  else n.name = m.name

theorem namesAlike_iff (kind : n.kind = m.kind) :
    (if n.isDirective then n.name.map Text.folded else n.name) =
        (if m.isDirective then m.name.map Text.folded else m.name) ↔ NamesAlike n m := by
  rw [NamesAlike, isDirective, isDirective, ← kind]
  split
  · simp only [map_eq_map_iff, Text.folded_eq_folded_iff]
  · rfl

/-- Documents are spelt alike iff their nodes are equal in everything, except that the names of
directives may differ in the case of ASCII letters. -/
theorem speltAlike_iff : n.SpeltAlike m ↔
    (n.kind = m.kind ∧ n.attributes = m.attributes ∧ n.value = m.value ∧ n.others = m.others) ∧
    NamesAlike n m ∧ RowsAlike n.children m.children ∧
    Option.Rel NodeData.SpeltAlike n.data m.data := by
  have data : n.data.map NodeData.folded = m.data.map NodeData.folded ↔
      Option.Rel NodeData.SpeltAlike n.data m.data := by
    simp only [map_eq_map_iff, NodeData.folded_eq_folded_iff]
  rw [SpeltAlike, folded_eq, folded_eq, Node.mk.injEq, rowsAlike_iff, data]
  constructor
  · rintro ⟨kind, name, attributes, children, value, data, others⟩
    exact ⟨⟨kind, attributes, value, others⟩, (namesAlike_iff kind).mp name, children, data⟩
  · rintro ⟨⟨kind, attributes, value, others⟩, name, children, data⟩
    exact ⟨kind, (namesAlike_iff kind).mpr name, attributes, children, value, data, others⟩

/-- Nodes with the same element and target that show the same nodes and have the same children, up
to the spelling of names. -/
structure NotedAlike (n m : Node) : Prop where
  tag : n.tag? = m.tag?
  href : n.href? = m.href?
  shown : RowsAlike n.shown? m.shown?
  children : RowsAlike n.children m.children

namespace SpeltAlike

variable (h : n.SpeltAlike m)
include h

theorem symm : m.SpeltAlike n := Eq.symm h

theorem tag? : n.tag? = m.tag? := by rw [← tag?_folded, h, tag?_folded]

theorem href? : n.href? = m.href? := by rw [← href?_folded, h, href?_folded]

theorem children : RowsAlike n.children m.children := by
  rw [← rowsAlike_iff, ← children_folded, h, children_folded]

theorem shown? : RowsAlike n.shown? m.shown? := by
  rw [← rowsAlike_iff, ← shown?_folded, h, shown?_folded]

/-- Documents that are spelt alike have the same places, with nodes that are spelt alike. -/
theorem at? (p : Path) : Option.Rel SpeltAlike (n.at? p) (m.at? p) := by
  have same : (n.at? p).map folded = (m.at? p).map folded := by
    rw [← at?_folded, h, at?_folded]
  exact map_eq_map_iff.mp same

theorem at?_notedAlike (p : Path) : Option.Rel NotedAlike (n.at? p) (m.at? p) :=
  match n.at? p, m.at? p, h.at? p with
  | _, _, .some alike => .some ⟨alike.tag?, alike.href?, alike.shown?, alike.children⟩
  | _, _, .none => .none

theorem exists_at? {p : Path} {n' : Node} (hp : n.at? p = some n') :
    ∃ m', m.at? p = some m' ∧ n'.SpeltAlike m' := by
  have related := h.at? p
  rw [hp] at related
  generalize m.at? p = found at related
  cases related with
  | some related => exact ⟨_, rfl, related⟩

end SpeltAlike

end Node

end MailMerge
