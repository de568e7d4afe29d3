import MailMerge.Render.Join
import MailMerge.Render.Walk

/-!
# Rendering a document

A document is rendered in two phases. First all directives are filled in; then the links
that are still open are resolved side by side and their targets are written into the
document. Requests are made only if the first phase has succeeded, and the document is
handed out only if both have.

## Main definitions

* `Node.writeLinks`: writes minted links into a document.
* `Node.resolve`: the second phase.
* `Node.render`: both phases.
* `inviteLink`: the resolution of a single form.

## Main results

* `resolve_nil`: without open links nothing happens.
* `render_of_failure`: nothing is requested for a document that cannot be filled in.
-/

namespace MailMerge

/-- What came of requests: the result, the service afterwards, and what has happened. -/
structure Outcome (σ α : Type) where
  result : Except DirectiveError α
  state : σ
  events : List Event
  notices : List Notice

/-- A document after its open links have been resolved or not. -/
structure Resolved (σ : Type) where
  tree : Node
  outcome : Outcome σ Nat

/-- What has been rendered. -/
structure Rendered where
  tree : Node
  directives : Nat
  deferredLinks : Nat

namespace Node

/-- Writes a minted link on the node of an open link, which shows it if it has no label. -/
def writeLink (n : Node) (url : String) : Node := (n.label url).setHref url

/-- Writes minted links into a document one after the other. A link whose node is gone ends
this; the links before it stay written. -/
def writeLinks (tree : Node) : List (DeferredLink × String) → Node × Option DirectiveError
  | [] => (tree, none)
  | (link, url) :: rest =>
    match tree.modifyAt? (fun n => n.writeLink url) link.path with
    | some tree => tree.writeLinks rest
    | none => (tree, some (.invalidDirective "link" (.gone link.path)))

variable {σ : Type}

/-- Resolves the open links of a document side by side and writes their targets once all of
them are known. -/
def resolve (service : FormService σ) (c : Context) (links : List DeferredLink) (s : σ)
    (tree : Node) : Resolved σ :=
  if links.isEmpty then ⟨tree, .ok 0, s, [], []⟩
  else
    let join := (Join.start (links.map DeferredLink.form) s).run service c
    let notices := .resolving links.length :: join.notices
    match join.outcome with
    | .error e => ⟨tree, .error e, join.state, join.events, notices⟩
    | .ok urls =>
      match tree.writeLinks (links.zip urls) with
      | (tree, some e) => ⟨tree, .error e, join.state, join.events, notices⟩
      | (tree, none) => ⟨tree, .ok links.length, join.state, join.events, notices⟩

/-- Renders a document completely. -/
def render (service : FormService σ) (c : Context) (s : σ) (tree : Node) : Outcome σ Rendered :=
  let walk := tree.walk c
  match walk.outcome with
  | .error e => ⟨.error e, s, [], walk.notices⟩
  | .ok found =>
    let resolved := walk.result.resolve service c found.deferred s
    let notices := walk.notices ++ resolved.outcome.notices
    match resolved.outcome.result with
    | .error e => ⟨.error e, resolved.outcome.state, resolved.outcome.events, notices⟩
    | .ok links =>
      ⟨.ok ⟨resolved.tree, found.directives, links⟩, resolved.outcome.state,
        resolved.outcome.events, notices ++ [.rendered found.directives links]⟩

/-- Without open links nothing happens. -/
@[simp] theorem resolve_nil (service : FormService σ) (c : Context) (s : σ) (tree : Node) :
    tree.resolve service c [] s = ⟨tree, .ok 0, s, [], []⟩ := rfl

/-- Nothing is requested for a document that cannot be filled in. -/
theorem render_of_failure (service : FormService σ) (c : Context) (s : σ) {tree : Node}
    {e : DirectiveError} (h : (tree.walk c).outcome = .error e) :
    tree.render service c s = ⟨.error e, s, [], (tree.walk c).notices⟩ := by
  simp [render, h]

end Node

/-- Resolves the link to a single form. -/
def inviteLink {σ : Type} (service : FormService σ) (c : Context) (form : String) (s : σ) :
    Outcome σ String :=
  let join := (Join.start [form] s).run service c
  ⟨join.outcome.map fun urls => urls.headD "", join.state, join.events, join.notices⟩

end MailMerge
