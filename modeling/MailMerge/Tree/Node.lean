import MailMerge.Json.Value

/-!
# Document trees

A document is a tree of nodes. Most nodes only carry text or children; a directive is a
node that stands for something to be filled in. What a directive has been rendered to is
recorded in its `data`, next to the keys that other tools keep there. Keys that have no
meaning here are carried along untouched.

## Main definitions

* `Kind`: what a node is.
* `Node`, `NodeData`: nodes and the annotations on them.
* `Node.text`, `Node.paragraph`, `Node.root`, `Node.directive?`: building nodes.
* `Node.attribute?`, `Node.href?`, `Node.tag?`: looking at one node.
* `Node.textContent`, `Node.renderedText`: the text below a node.

## Main results

* `Kind.ofName_name`: a kind is determined by its name, unless it is an unknown kind with
  the name of a known one.
-/

namespace MailMerge

/-- The three shapes of a directive. -/
inductive Shape where
  | container
  | leaf
  | inline
deriving DecidableEq, Repr

/-- What a node is. -/
inductive Kind where
  | root
  | paragraph
  | text
  | directive (shape : Shape)
  | other (name : String)
deriving DecidableEq, Repr

namespace Kind

/-- The name of a kind in documents. -/
def name : Kind → String
  | .root => "root"
  | .paragraph => "paragraph"
  | .text => "text"
  | .directive .container => "containerDirective"
  | .directive .leaf => "leafDirective"
  | .directive .inline => "textDirective"
  | .other name => name

/-- The kind with a name. -/
def ofName (name : String) : Kind :=
  if name = "root" then .root
  else if name = "paragraph" then .paragraph
  else if name = "text" then .text
  else if name = "containerDirective" then .directive .container
  else if name = "leafDirective" then .directive .leaf
  else if name = "textDirective" then .directive .inline
  else .other name

/-- True for directives of any shape. -/
def isDirective : Kind → Bool
  | .directive _ => true
  | _ => false

@[simp] theorem name_ofName (s : String) : (ofName s).name = s := by
  unfold ofName
  repeat' split
  all_goals simp_all [name]

/-- A kind is determined by its name. -/
theorem ofName_name {k : Kind} (h : ∀ s, k = .other s → ofName s = .other s) :
    ofName k.name = k := by
  match k with
  | .root | .paragraph | .text => rfl
  | .directive .container | .directive .leaf | .directive .inline => rfl
  | .other s => exact h s rfl

end Kind

/-- The element that a directive is rendered to. -/
inductive Tag where
  | span
  | a
deriving DecidableEq, Repr

/-- The name of an element. -/
def Tag.name : Tag → String
  | .span => "span"
  | .a => "a"

/-- What is noted about a node: the element it is rendered to, the target of that element,
the nodes shown in place of its children, and what other tools have noted. -/
structure NodeData (ν : Type) where
  tag : Option Tag
  href : Option String
  otherProperties : Dict Json
  shown : Option (List ν)
  others : Dict Json

/-- A node of a document. Children that are absent and an empty list of children are told
apart, as are absent and empty attributes and data. -/
structure Node where
  kind : Kind
  name : Option String
  attributes : Option (Dict String)
  children : Option (List Node)
  value : Option String
  data : Option (NodeData Node)
  others : Dict Json

/-- Nothing noted yet. -/
def NodeData.blank {ν : Type} : NodeData ν := ⟨none, none, .empty, none, .empty⟩

namespace Node

/-- A node that is nothing but its kind. -/
def bare (kind : Kind) : Node := ⟨kind, none, none, none, none, none, .empty⟩

instance : Inhabited Node := ⟨bare .root⟩

/-- A text. -/
def text (value : String) : Node := { bare .text with value := some value }

/-- A paragraph. -/
def paragraph (children : List Node) : Node := { bare .paragraph with children := some children }

/-- A whole document. -/
def root (children : List Node) : Node := { bare .root with children := some children }

/-- A directive of the given shape. -/
def directive (shape : Shape) (name : String) (attributes : List (String × String))
    (children : List Node) : Node :=
  { bare (.directive shape) with
    name := some name
    attributes := some (.ofList attributes)
    children := some children }

/-- A directive of the given kind, unless the kind is not one of directives. -/
def directive? (kind : Kind) (name : String) (attributes : List (String × String))
    (children : List Node) : Option Node :=
  match kind with
  | .directive shape => some (directive shape name attributes children)
  | _ => none

/-- An inline directive without a label. -/
def inlineDirective (name : String) (attributes : List (String × String)) : Node :=
  directive .inline name attributes []

/-- True for directives of any shape. -/
def isDirective (n : Node) : Bool := n.kind.isDirective

/-- The name of a directive as it is written; without one it counts as empty. -/
def writtenName (n : Node) : String := n.name.getD ""

/-- The value of an attribute, which may be empty. -/
def attribute? (n : Node) (key : String) : Option String := n.attributes.bind (·.get? key)

/-- The children, none of them if there is no list of children. -/
def childList (n : Node) : List Node := n.children.getD []

/-- True when there is no child. -/
def hasNoChildren (n : Node) : Bool := n.childList.isEmpty

/-- The element that the node has been rendered to. -/
def tag? (n : Node) : Option Tag := n.data.bind (·.tag)

/-- The target of the element that the node has been rendered to. -/
def href? (n : Node) : Option String := n.data.bind (·.href)

/-- The nodes shown in place of the children. -/
def shown? (n : Node) : Option (List Node) := n.data.bind (·.shown)

mutual

/-- The text of a node and of all nodes below it. -/
def textContent : Node → String
  | ⟨_, _, _, none, value, _, _⟩ => value.getD ""
  | ⟨_, _, _, some children, value, _, _⟩ => value.getD "" ++ textOfAll children

/-- The text of nodes in a row. -/
def textOfAll : List Node → String
  | [] => ""
  | n :: ns => n.textContent ++ textOfAll ns

end

/-- The text of the element that a node is rendered to: of the nodes shown in place of its
children if there are any, and of its children otherwise. -/
def renderedText (n : Node) : String := textOfAll (n.shown?.getD n.childList)

mutual

/-- The directives among a node and all nodes below it, in document order. -/
def directives : Node → List Node
  | ⟨kind, name, attributes, none, value, data, others⟩ =>
    if kind.isDirective then [⟨kind, name, attributes, none, value, data, others⟩] else []
  | ⟨kind, name, attributes, some children, value, data, others⟩ =>
    let below := directivesOfAll children
    if kind.isDirective then
      ⟨kind, name, attributes, some children, value, data, others⟩ :: below
    else below

/-- The directives in a row of nodes, in document order. -/
def directivesOfAll : List Node → List Node
  | [] => []
  | n :: ns => n.directives ++ directivesOfAll ns

end

end Node

end MailMerge
