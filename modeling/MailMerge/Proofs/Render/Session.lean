import MailMerge.Proofs.Render.Stopped
import MailMerge.Proofs.Tree.Growth
import MailMerge.Render.Render

/-!
# Sessions with a document

A document may be worked on in many steps: elements and labels are noted by hand, single directives
are filled in, whole parts are walked over, and links are resolved, also those of other documents.
Every step is taken at some node, in a context and with a service of its own, and may fail on its
way. Whatever the steps are, the document grows: annotations are written once, and children are
never replaced.

## Main definitions

* `Step`: what may be done to a node.
* `Node.session`: a document after some steps.

## Main results

* `growsTo_apply`: a step grows its node.
* `session_growsTo`: a session grows the document at every point.
-/

namespace MailMerge

/-- What may be done to a node, with whatever context, service and links. -/
inductive Step : Type 1 where
  | emit (element : Element)
  | label (text : String)
  | fill (c : Context)
  | walk (c : Context)
  | resolve {σ : Type} (service : FormService σ) (c : Context) (links : List DeferredLink) (s : σ)

/-- A node after a step, also after one that has failed. -/
def Step.apply : Step → Node → Node
  | .emit element, n => (n.emit? element).getD n
  | .label text, n => n.label text
  | .fill c, n => (n.fill c).node
  | .walk c, n => (n.walk c).result
  | .resolve service c links s, n => (n.resolve service c links s).tree

namespace Node

/-- A document after steps at some of its nodes. A step at a place that there is not does
nothing. -/
def session (tree : Node) (steps : List (Path × Step)) : Node :=
  steps.foldl (fun tree step => (tree.modifyAt? step.2.apply step.1).getD tree) tree

variable {c : Context} {n m : Node}

/-! ## What one step does -/

/-- A visit grows its node, whether it succeeds or not. -/
theorem growsTo_fill (c : Context) (n : Node) : n.GrowsTo (n.fill c).node := by
  rcases node_fill_cases c n with same | ⟨f, noted, -⟩ | ⟨f, -, labelled⟩
  · rw [same]
    exact .refl n
  · exact (growsTo_labelWith n f.label).trans (growsTo_emit? noted)
  · rw [labelled]
    exact growsTo_labelWith n f.label

/-- A walk grows its document, whether it succeeds or stops. -/
theorem growsTo_walk (c : Context) (n : Node) : n.GrowsTo (n.walk c).result := by
  cases outcome : (n.walk c).outcome with
  | ok found =>
    obtain ⟨ok, -⟩ := Walk.outcome_eq_ok_iff.mp outcome
    rw [walk_eq_edit ok]
    exact growsTo_editAt (fun _ => growsTo_fill c) n []
  | error e =>
    obtain ⟨p, m, stops⟩ := exists_stopsAt outcome
    rw [stops.result_walk]
    refine growsTo_editAt (fun path m => ?_) n []
    rw [visitedTo]
    split
    · exact .refl m
    · exact growsTo_fill c m

theorem growsTo_writeLink (n : Node) (url : String) : n.GrowsTo (n.writeLink url) :=
  (growsTo_label n url).trans (growsTo_setHref _ url)

/-- Written links grow a document, wherever they are written and also if one is gone. -/
theorem growsTo_writeLinks (n : Node) (links : List (DeferredLink × String)) :
    n.GrowsTo (n.writeLinks links).1 := by
  induction links generalizing n with
  | nil => exact .refl n
  | cons l links ih =>
    obtain ⟨link, url⟩ := l
    rw [writeLinks]
    split
    · rename_i m written
      exact (growsTo_modifyAt? (fun k => growsTo_writeLink k url) written).trans (ih m)
    · exact .refl n

theorem growsTo_resolve {σ : Type} (service : FormService σ) (c : Context)
    (links : List DeferredLink) (s : σ) (n : Node) :
    n.GrowsTo (n.resolve service c links s).tree := by
  rw [resolve]
  split
  · exact .refl n
  · dsimp only
    split
    · exact .refl n
    · rename_i urls _
      have grows := growsTo_writeLinks n (links.zip urls)
      split
      · rename_i written
        rwa [written] at grows
      · rename_i written
        rwa [written] at grows

/-- A step grows its node. -/
theorem growsTo_apply (step : Step) (n : Node) : n.GrowsTo (step.apply n) := by
  cases step with
  | emit element =>
    cases noted : n.emit? element with
    | none => rw [Step.apply, noted]; exact .refl n
    | some m => rw [Step.apply, noted]; exact growsTo_emit? noted
  | label text => exact growsTo_label n text
  | fill c => exact growsTo_fill c n
  | walk c => exact growsTo_walk c n
  | resolve service c links s => exact growsTo_resolve service c links s n

/-! ## Many steps -/

theorem session_append (tree : Node) (earlier later : List (Path × Step)) :
    tree.session (earlier ++ later) = (tree.session earlier).session later :=
  List.foldl_append

theorem growsTo_session (tree : Node) (steps : List (Path × Step)) :
    tree.GrowsTo (tree.session steps) := by
  induction steps generalizing tree with
  | nil => exact .refl tree
  | cons step steps ih =>
    obtain ⟨p, step⟩ := step
    have grows : tree.GrowsTo ((tree.modifyAt? step.apply p).getD tree) := by
      cases changed : tree.modifyAt? step.apply p with
      | none => exact .refl tree
      | some after => exact growsTo_modifyAt? (growsTo_apply step) changed
    exact grows.trans (ih _)

/-- **Annotations are written once, and children are never replaced.** From any point of a session
on, every place stays with whatever steps follow; its node keeps what it has been written with. Once
it has an element, this and the nodes that it shows stay, and once it has children, their number
stays. -/
theorem session_growsTo (tree : Node) (earlier later : List (Path × Step)) :
    (tree.session earlier).GrowsTo (tree.session (earlier ++ later)) := by
  rw [session_append]
  exact growsTo_session _ later

/-- The first element stays. -/
example : ((inlineDirective "recipientName" []).session
    [([], .emit (.span "Ada")), ([], .emit (.span "Grace"))]).renderedText = "Ada" := by
  rfl

end Node

end MailMerge
