import MailMerge.Directive.Fill

/-!
# Filling in a whole document

The directives of a document are filled in one after the other in document order: a node
before its children, and children from first to last. The first directive that cannot be
filled in ends the walk; what comes behind it stays as it was. Links to forms are listed
with their paths, since their targets are still open.

## Main definitions

* `DeferredLink`: a link whose target is still open.
* `Walk`: nodes that have been walked over, and what was found on the way.
* `Node.walk`: the walk over a document.

## Main results

* `fill_children`: a node with children keeps them when it is filled in, which is why the
  walk may go on with the children that the node had before.
-/

namespace MailMerge

/-- A link to a form whose target is still open. -/
structure DeferredLink where
  path : Path
  form : String
deriving DecidableEq, Repr

/-- What a walk without failure has found: the number of directives and the open links in
document order. -/
structure Found where
  directives : Nat
  deferred : List DeferredLink
deriving DecidableEq, Repr

/-- Nodes as a walk leaves them, what it has found, and the error that has ended it. -/
structure Walk (α : Type) where
  result : α
  found : Found
  failure : Option DirectiveError
  notices : List Notice

namespace Walk

variable {α β γ : Type}

/-- The walk over a single node at `path`. -/
def ofVisit (path : Path) (visit : Visit) : Walk Node :=
  match visit.outcome with
  | .error e => ⟨visit.node, ⟨0, []⟩, some e, visit.notices⟩
  | .ok none => ⟨visit.node, ⟨0, []⟩, none, visit.notices⟩
  | .ok (some .resolved) => ⟨visit.node, ⟨1, []⟩, none, visit.notices⟩
  | .ok (some (.deferred form)) =>
    ⟨visit.node, ⟨1, [⟨path, form⟩]⟩, none, visit.notices ++ [.deferring form path]⟩

/-- A walk that goes on with another one unless it has failed; `stay` is what is left behind
the failure. -/
def andThen (first : Walk α) (second : Walk β) (stay : β) (join : α → β → γ) : Walk γ :=
  match first.failure with
  | some e => ⟨join first.result stay, first.found, some e, first.notices⟩
  | none =>
    ⟨join first.result second.result,
      ⟨first.found.directives + second.found.directives,
        first.found.deferred ++ second.found.deferred⟩,
      second.failure, first.notices ++ second.notices⟩

/-- What has been found, or the error that has ended the walk. -/
def outcome (w : Walk α) : Except DirectiveError Found :=
  match w.failure with
  | some e => .error e
  | none => .ok w.found

end Walk

namespace Node

mutual

/-- The walk over a node at `path` and all nodes below it. Without children there is nothing
to go on with: a label that the node has just been given holds no directive. -/
def walkAt (c : Context) (path : Path) : Node → Walk Node
  | ⟨kind, name, attributes, none, value, data, others⟩ =>
    .ofVisit path (fill c ⟨kind, name, attributes, none, value, data, others⟩)
  | ⟨kind, name, attributes, some children, value, data, others⟩ =>
    let here := Walk.ofVisit path
      (fill c ⟨kind, name, attributes, some children, value, data, others⟩)
    if children.isEmpty then here
    else
      here.andThen (walkAll c path 0 children) children
        fun n children => { n with children := some children }

/-- The walk over children of the node at `path`, the first of which has index `i`. -/
def walkAll (c : Context) (path : Path) (i : Nat) : List Node → Walk (List Node)
  | [] => ⟨[], ⟨0, []⟩, none, []⟩
  | n :: ns =>
    (walkAt c (path ++ [i]) n).andThen (walkAll c path (i + 1) ns) ns List.cons

end

/-- Fills in all directives of a document. -/
def walk (c : Context) (tree : Node) : Walk Node := tree.walkAt c []

theorem children_emit? {n m : Node} {e : Element} (h : n.emit? e = some m) :
    m.children = n.children := by
  simp only [emit?] at h
  split at h
  · simp at h
  · simp only [Option.some.injEq] at h
    rw [← h]

/-- A node with children keeps them when it is filled in. -/
theorem fill_children (c : Context) {n : Node} (h : n.hasNoChildren = false) :
    (n.fill c).node.children = n.children := by
  unfold fill
  split
  · split
    · rfl
    · split
      · rfl
      · simp only [withFilling, labelWith_of_children h]
        split
        · rename_i m hm
          exact children_emit? hm
        · rfl
  · rfl

end Node

end MailMerge
