import MailMerge.Tree.Path

/-!
# Annotating nodes

Rendering never removes anything from a document: it notes on a node which element it
becomes, and gives a label to a link that has none. A node is annotated at most once.

## Main definitions

* `Element`: what a directive is rendered to.
* `Node.emit?`: notes an element on a node that has none yet.
* `Node.label`: gives a node without children a text to show.
* `Node.setHref`: notes the target of a link that was left open.

## Main results

* `label_of_children`, `label_label`: a label never replaces anything and is given once.
* `emit?_eq_none_iff`: a node refuses an element exactly if it has one.
-/

namespace MailMerge

/-- What a directive is rendered to. Without children of its own the element shows the
children of the node. -/
structure Element where
  tag : Tag
  href : Option String
  children : Option (List Node)

namespace Element

/-- A span around a text. -/
def span (text : String) : Element := ⟨.span, none, some [Node.text text]⟩

/-- An anchor that shows the children of its node. -/
def anchor (href : String) : Element := ⟨.a, some href, none⟩

end Element

/-- The annotations with an element noted. A target noted before stays if the element has
none. -/
def NodeData.withElement (d : NodeData Node) (e : Element) : NodeData Node :=
  { d with tag := some e.tag, href := e.href.or d.href, shown := e.children }

namespace Node

/-- The annotations of a node, blank ones if there are none yet. -/
def dataOrBlank (n : Node) : NodeData Node := n.data.getD .blank

/-- Notes the element that a node is rendered to; a node that has one refuses. -/
def emit? (n : Node) (e : Element) : Option Node :=
  if n.tag?.isSome then none else some { n with data := some (n.dataOrBlank.withElement e) }

/-- Gives a node without children a text to show. -/
def label (n : Node) (text : String) : Node :=
  if n.hasNoChildren then { n with children := some [Node.text text] } else n

/-- Gives a node without children a text to show if there is one. -/
def labelWith (n : Node) : Option String → Node
  | some text => n.label text
  | none => n

/-- Notes the target of a link, whatever it was before. -/
def setHref (n : Node) (href : String) : Node :=
  { n with data := some { n.dataOrBlank with href := some href } }

/-- A node with children keeps them. -/
theorem label_of_children {n : Node} (h : n.hasNoChildren = false) (text : String) :
    n.label text = n := by simp [label, h]

theorem labelWith_of_children {n : Node} (h : n.hasNoChildren = false) (text : Option String) :
    n.labelWith text = n := by
  cases text with
  | none => rfl
  | some text => exact label_of_children h text

/-- A labelled node has children. -/
theorem hasNoChildren_label (n : Node) (text : String) :
    (n.label text).hasNoChildren = false := by
  unfold label
  split <;> simp_all [hasNoChildren, childList]

/-- The first label stays. -/
theorem label_label (n : Node) (first second : String) :
    (n.label first).label second = n.label first :=
  label_of_children (hasNoChildren_label n first) second

/-- A node refuses an element exactly if it has one. -/
theorem emit?_eq_none_iff {n : Node} {e : Element} : n.emit? e = none ↔ n.tag?.isSome := by
  cases h : n.tag? <;> simp [emit?, h]

end Node

end MailMerge
