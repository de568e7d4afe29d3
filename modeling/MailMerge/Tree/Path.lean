import MailMerge.Tree.Node

/-!
# Places in a document

A path names a node by the indices of the children that lead to it.

## Main definitions

* `Path`: child indices from the top.
* `Node.at?`: the node at a path.
* `Node.modifyAt?`: the document with the node at a path changed.
* `Path.text`: a path in messages.

## Main results

* `isSome_modifyAt?`: a node can be changed exactly where one can be found.
* `at?_modifyAt?`: the changed node is found at its path.
-/

namespace MailMerge

/-- Child indices from the top of a document to a node. -/
abbrev Path := List Nat

/-- A path in messages. -/
def Path.text (p : Path) : String := "[" ++ ", ".intercalate (p.map toString) ++ "]"

namespace Node

/-- The node at a path. -/
def at? (n : Node) : Path → Option Node
  | [] => some n
  | i :: p => n.childList[i]?.bind fun child => child.at? p

/-- The document with the node at a path changed by `f`; nothing when there is no such node. -/
def modifyAt? (n : Node) (f : Node → Node) : Path → Option Node
  | [] => some (f n)
  | i :: p => do
    let child ← n.childList[i]?
    let changed ← child.modifyAt? f p
    return { n with children := some (n.childList.set i changed) }

/-- The document with another node at a path. -/
def replaceAt? (n : Node) (p : Path) (replacement : Node) : Option Node :=
  n.modifyAt? (fun _ => replacement) p

/-- A node below a child is changed by changing the child and putting it back. -/
theorem modifyAt?_cons_eq_some_iff {n m : Node} {f : Node → Node} {i : Nat} {p : Path} :
    n.modifyAt? f (i :: p) = some m ↔
      ∃ child changed, n.childList[i]? = some child ∧ child.modifyAt? f p = some changed ∧
        m = { n with children := some (n.childList.set i changed) } := by
  simp only [modifyAt?, Option.bind_eq_bind, Option.bind_eq_some_iff, Option.pure_def,
    Option.some.injEq]
  constructor
  · rintro ⟨child, hc, changed, hch, rfl⟩
    exact ⟨child, changed, hc, hch, rfl⟩
  · rintro ⟨child, changed, hc, hch, rfl⟩
    exact ⟨child, hc, changed, hch, rfl⟩

/-- A node can be changed exactly where one can be found. -/
theorem isSome_modifyAt? (n : Node) (f : Node → Node) (p : Path) :
    (n.modifyAt? f p).isSome = (n.at? p).isSome := by
  induction p generalizing n with
  | nil => rfl
  | cons i p ih =>
    simp only [modifyAt?, at?]
    cases n.childList[i]? with
    | none => rfl
    | some child =>
      have := ih child
      cases h : child.modifyAt? f p <;> simp_all

/-- The changed node is found at its path. -/
theorem at?_modifyAt? {n m : Node} {f : Node → Node} {p : Path} (h : n.modifyAt? f p = some m) :
    m.at? p = (n.at? p).map f := by
  induction p generalizing n m with
  | nil => simp_all [modifyAt?, at?]
  | cons i p ih =>
    obtain ⟨child, changed, hc, hch, rfl⟩ := modifyAt?_cons_eq_some_iff.1 h
    obtain ⟨lt, here⟩ := List.getElem?_eq_some_iff.1 hc
    have : ({ n with children := some (n.childList.set i changed) } : Node).childList =
        n.childList.set i changed := rfl
    simp [at?, this, lt, here, ih hch]

end Node

end MailMerge
