import MailMerge.Proofs.Tree.Places

/-!
# A single node replaced

A path serves to look a node up and to put another one in its place. The two belong together: a
node can be replaced exactly where one is found, and what is handed out for a change is the node
that is found there. Everything below the path is then found in the new node; the nodes on the way
to it differ in one child each, which leads on along the path; and no other node has changed.

Every place of a document has one path, and the directives of a document are those of its places.
So whoever counts directives and whoever looks them up by their paths speak of the same nodes.

## Main definitions

* `Node.Replaced`: what a document is when the node at a path has been replaced.

## Main results

* `modifyAt?_eq_replaceAt?`: changing a node is looking it up and replacing it.
* `replaceAt?_eq_some_iff`: what replacing a node makes of a document.
* `replaceAt?_self`, `replaceAt?_replaceAt?`: replacing a node by itself, and twice.
* `at?_lawful`: looking up, replacing, and the list of directives.
-/

namespace MailMerge

namespace Node

variable {n n' child child' new : Node} {i : Nat} {p q r : Path}

/-! ## Looking up and changing -/

/-- Changing a node is looking it up and replacing it. -/
theorem modifyAt?_eq_replaceAt? (n : Node) (f : Node → Node) (p : Path) :
    n.modifyAt? f p = (n.at? p).bind fun m => n.replaceAt? p (f m) := by
  induction p generalizing n with
  | nil => rfl
  | cons i p ih =>
    rw [modifyAt?, at?_cons]
    cases hi : n.childList[i]? with
    | none => rfl
    | some child =>
      -- in the child it is so, and the parent only puts the child back
      simp only [replaceAt?, modifyAt?, hi, Option.bind_eq_bind, Option.bind_some, ih child,
        Option.bind_assoc]

/-- A node can be replaced exactly where one is found. -/
theorem isSome_replaceAt? (n : Node) (p : Path) (new : Node) :
    (n.replaceAt? p new).isSome = (n.at? p).isSome :=
  isSome_modifyAt? n _ p

/-- A node below a child is replaced in the child. -/
theorem replaceAt?_cons_eq_some_iff :
    n.replaceAt? (i :: p) new = some n' ↔
      ∃ child child', n.childList[i]? = some child ∧ child.replaceAt? p new = some child' ∧
        n' = { n with children := some (n.childList.set i child') } :=
  modifyAt?_cons_eq_some_iff

theorem replaceAt?_cons_of_child (hi : n.childList[i]? = some child)
    (h : child.replaceAt? p new = some child') :
    n.replaceAt? (i :: p) new = some { n with children := some (n.childList.set i child') } :=
  replaceAt?_cons_eq_some_iff.mpr ⟨child, child', hi, h, rfl⟩

/-! ## What has changed -/

/-- The document `n'` is `n` with the node at `p` replaced by `new`: below `p` there stands what
stands in `new`, all other places are what they were, a node that does not lie on the way to `p` is
the one that stood there, and a node on the way differs from it in the child that leads to `p`, in
which the node has been replaced. -/
structure Replaced (n : Node) (p : Path) (new n' : Node) : Prop where
  below : ∀ q, n'.at? (p ++ q) = new.at? q
  places : ∀ r, ¬ p <+: r → (n'.at? r).isSome = (n.at? r).isSome
  apart : ∀ r, ¬ p <+: r → ¬ r <+: p → n'.at? r = n.at? r
  above : ∀ r i s, p = r ++ i :: s → ∃ m child child', n.at? r = some m ∧
    m.childList[i]? = some child ∧ child.replaceAt? s new = some child' ∧
    n'.at? r = some { m with children := some (m.childList.set i child') }

/-- At the top of a document there is nothing else. -/
theorem replaced_nil (n new : Node) : n.Replaced [] new new where
  below _ := rfl
  places _ h := absurd List.nil_prefix h
  apart _ h := absurd List.nil_prefix h
  above r i s h := by simp at h

/-- One step up: what has been replaced in a child has been replaced in its parent. -/
theorem Replaced.cons (h : child.Replaced p new child') (hi : n.childList[i]? = some child)
    (replaced : child.replaceAt? p new = some child') :
    n.Replaced (i :: p) new { n with children := some (n.childList.set i child') } := by
  obtain ⟨lt, -⟩ := List.getElem?_eq_some_iff.mp hi
  have here (q : Path) :
      ({ n with children := some (n.childList.set i child') } : Node).at? (i :: q) =
        child'.at? q :=
    at?_cons_of_child (List.getElem?_set_self lt) q
  have beside {j : Nat} (ne : i ≠ j) (q : Path) :
      ({ n with children := some (n.childList.set i child') } : Node).at? (j :: q) =
        n.at? (j :: q) := by
    rw [at?_cons, childList, Option.getD_some, List.getElem?_set_ne ne, ← at?_cons]
  constructor
  case below =>
    intro q
    rw [List.cons_append, here, h.below]
  case places =>
    intro r apart
    cases r with
    | nil => rfl
    | cons j r =>
      by_cases eq : i = j
      · subst eq
        rw [List.cons_prefix_cons, not_and] at apart
        rw [here, at?_cons_of_child hi, h.places r (apart rfl)]
      · rw [beside eq]
  case apart =>
    intro r apart apart'
    cases r with
    | nil => exact absurd List.nil_prefix apart'
    | cons j r =>
      by_cases eq : i = j
      · subst eq
        rw [List.cons_prefix_cons, not_and] at apart apart'
        rw [here, at?_cons_of_child hi, h.apart r (apart rfl) (apart' rfl)]
      · rw [beside eq]
  case above =>
    intro r j s eq
    cases r with
    | nil =>
      obtain ⟨rfl, rfl⟩ := List.cons.inj eq
      exact ⟨n, child, child', rfl, hi, replaced, rfl⟩
    | cons k r =>
      obtain ⟨rfl, rfl⟩ := List.cons.inj eq
      obtain ⟨m, x, x', hm, hx, hx', after⟩ := h.above r j s rfl
      exact ⟨m, x, x', by rw [at?_cons_of_child hi, hm], hx, hx', by rw [here, after]⟩

/-- **What replacing a node makes of a document**, and nothing else can be made of it. -/
theorem replaceAt?_eq_some_iff : n.replaceAt? p new = some n' ↔ n.Replaced p new n' := by
  constructor
  · intro h
    induction p generalizing n n' with
    | nil =>
      obtain rfl := Option.some.inj h
      exact replaced_nil n new
    | cons i p ih =>
      obtain ⟨child, child', hi, replaced, rfl⟩ := replaceAt?_cons_eq_some_iff.mp h
      exact (ih replaced).cons hi replaced
  · intro h
    cases p with
    | nil =>
      have top := h.below []
      rw [List.append_nil] at top
      exact top.symm
    | cons i p =>
      -- the top of the document lies on the way to the node, so all of it is known
      obtain ⟨m, child, child', hm, hi, replaced, after⟩ := h.above [] i p rfl
      obtain rfl := Option.some.inj hm
      exact (replaceAt?_cons_of_child hi replaced).trans after.symm

/-- Replacing a node by itself changes nothing. -/
theorem replaceAt?_self {m : Node} (h : n.at? p = some m) : n.replaceAt? p m = some n := by
  induction p generalizing n with
  | nil => exact h.symm
  | cons i p ih =>
    obtain ⟨child, hi, h⟩ := Option.bind_eq_some_iff.mp h
    obtain ⟨lt, here⟩ := List.getElem?_eq_some_iff.mp hi
    rw [replaceAt?_cons_of_child hi (ih h), ← here, List.set_getElem_self,
      with_childList (hasNoChildren_eq_false_iff.mpr (List.ne_nil_of_mem (List.getElem_mem lt)))]

/-- Of two nodes put in the same place the second one stays. -/
theorem replaceAt?_replaceAt? (h : n.replaceAt? p new = some n') (next : Node) :
    n'.replaceAt? p next = n.replaceAt? p next := by
  induction p generalizing n n' with
  | nil => rfl
  | cons i p ih =>
    obtain ⟨child, child', hi, replaced, rfl⟩ := replaceAt?_cons_eq_some_iff.mp h
    obtain ⟨lt, -⟩ := List.getElem?_eq_some_iff.mp hi
    have here : ({ n with children := some (n.childList.set i child') } : Node).childList[i]? =
        some child' := List.getElem?_set_self lt
    have again := ih replaced
    cases last : child.replaceAt? p next with
    | none =>
      have found : (child.replaceAt? p next).isSome = (child.replaceAt? p new).isSome := by
        rw [isSome_replaceAt?, isSome_replaceAt?]
      rw [last, replaced] at found
      cases found
    | some child'' =>
      rw [replaceAt?_cons_of_child hi last, replaceAt?_cons_of_child here (again.trans last)]
      simp [childList]

/-! ## Main result -/

/-- **Looking up by paths is lawful.** A node can be changed exactly where one is found, and what is
changed is the node found there. When the node at a path has been replaced, everything below the
path is found in the new node, the nodes on the way to it differ in the child that leads there, and
all other nodes are what they were, `Replaced`; replacing a node by itself changes nothing, and of
two replacements the second one stays. The directives of the document are the nodes found at all
its paths that are directives, in document order, by which each of them occurs once. -/
theorem at?_lawful (n : Node) (p : Path) :
    (∀ f, n.modifyAt? f p = (n.at? p).bind fun m => n.replaceAt? p (f m)) ∧
      (∀ new, (n.replaceAt? p new).isSome = (n.at? p).isSome) ∧
      (∀ new n', n.replaceAt? p new = some n' →
        n.Replaced p new n' ∧ ∀ next, n'.replaceAt? p next = n.replaceAt? p next) ∧
      (∀ m, n.at? p = some m → n.replaceAt? p m = some n) ∧
      ∃ listed : List (Path × Node), n.directives = listed.map Prod.snd ∧
        listed.Pairwise (fun x y => x.1.Before y.1) ∧
        ∀ q m, (q, m) ∈ listed ↔ n.at? q = some m ∧ m.isDirective = true := by
  refine ⟨fun f => modifyAt?_eq_replaceAt? n f p, fun new => isSome_replaceAt? n p new, ?_,
    fun m => replaceAt?_self, n.places.filter fun place => place.2.isDirective,
    directives_eq n [], (pairwise_placesAt n []).filter _, fun q m => ?_⟩
  · intro new n' h
    exact ⟨replaceAt?_eq_some_iff.mp h, replaceAt?_replaceAt? h⟩
  · rw [List.mem_filter, mem_places]

/-- A paragraph with a link, and a stored value behind it. -/
def signpost : Node :=
  .root [.paragraph [.text "See ", .directive .inline "link" [] [.text "here"]],
    .inlineDirective "value" []]

theorem at?_lawful_signpost :
    ∃ n', signpost.replaceAt? [0, 1] (.text "nothing") = some n' ∧
      n'.at? [0, 1] = some (.text "nothing") ∧ n'.at? [0, 1, 0] = none ∧
      n'.at? [0, 0] = some (.text "See ") ∧
      n'.replaceAt? [0, 1] (.directive .inline "link" [] [.text "here"]) = some signpost := by
  obtain ⟨-, -, replace, same, -⟩ := at?_lawful signpost [0, 1]
  obtain ⟨replaced, again⟩ := replace (.text "nothing") _ rfl
  refine ⟨_, rfl, replaced.below [], replaced.below [0], ?_, (again _).trans (same _ rfl)⟩
  exact replaced.apart [0, 0] (by decide) (by decide)

end Node

end MailMerge
