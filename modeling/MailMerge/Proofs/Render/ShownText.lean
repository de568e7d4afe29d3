import MailMerge.Proofs.Render.Walk

/-!
# The text that is shown

What is noted on a node in place of its children is shown instead of them, wherever the node stands.
The rendered text of a node heeds this for the node itself and for no other: below its element only
values and children count. So a directive in the label of a link, or in a paragraph, contributes its
own label to the rendered text, and not what it has been filled in with.

## Main definitions

* `Node.contents`: the nodes that the element of a node holds.
* `Node.shownText`: the text that the element of a node shows.
* `Node.laidBare`: a document with nothing shown in place of any children.
* `Node.Uncovered`: documents that are like that already.
* `Node.IsSpan`: directives that are filled in with a text.

## Main results

* `shownTextOfAll_laidBare`: all children count once nothing is shown in their place.
* `renderedText_walk`: where the two texts agree after a successful walk.
* `renderedText_exact`: what the rendered text is, and when it is the text that is shown.
* `not_shownText`: the rendered text of a node is not always the text that it shows.
-/

namespace MailMerge.Node

variable {c : Context} {n m : Node}

/-! ## Texts -/

/-- The nodes that the element of a node holds. -/
def contents (n : Node) : List Node := n.shown?.getD n.childList

mutual

/-- The text that the element of a node shows. -/
def shownText : Node → String
  | ⟨_, _, _, _, _, some ⟨_, _, _, some shown, _⟩, _⟩ => shownTextOfAll shown
  | ⟨_, _, _, some children, _, _, _⟩ => shownTextOfAll children
  | ⟨_, _, _, none, _, _, _⟩ => ""

/-- The text that nodes in a row show: the value of each, followed by what its element shows. -/
def shownTextOfAll : List Node → String
  | [] => ""
  | n :: ns => n.value.getD "" ++ n.shownText ++ shownTextOfAll ns

end

theorem shownText_eq (n : Node) : n.shownText = shownTextOfAll n.contents := by
  obtain ⟨kind, name, attributes, children, value, data, others⟩ := n
  rcases data with - | ⟨tag, href, otherProperties, - | shown, others⟩ <;> cases children <;>
    simp [shownText, contents, shown?, childList, shownTextOfAll]

theorem textContent_eq (n : Node) : n.textContent = n.value.getD "" ++ textOfAll n.childList := by
  obtain ⟨kind, name, attributes, children, value, data, others⟩ := n
  cases children <;> simp [textContent, childList, textOfAll]

theorem contents_of_shown {shown : List Node} (h : n.shown? = some shown) : n.contents = shown := by
  rw [contents, h, Option.getD_some]

theorem contents_of_uncovered (h : n.shown? = none) : n.contents = n.childList := by
  rw [contents, h, Option.getD_none]

/-- A text shows nothing but its value. -/
theorem shownTextOfAll_text (text : String) : shownTextOfAll [Node.text text] = text := by
  simp [shownTextOfAll, shownText, Node.text, bare]

/-! ## Laying a document bare -/

/-- A node with nothing shown in place of its children. -/
def uncover (n : Node) : Node := { n with data := n.data.map fun d => { d with shown := none } }

theorem shown?_uncover (n : Node) : n.uncover.shown? = none := by
  rw [uncover, shown?]
  cases n.data <;> rfl

/-- A document with nothing shown in place of the children of any node. -/
def laidBare (n : Node) : Node := n.edit fun _ => uncover

/-- A document in which nothing is shown in place of the children of any node. -/
def Uncovered (n : Node) : Prop := ∀ p m, n.at? p = some m → m.shown? = none

theorem uncover_eq_self (h : n.shown? = none) : n.uncover = n := by
  obtain ⟨_, _, _, _, _, data, _⟩ := n
  rcases data with - | ⟨_, _, _, shown, _⟩
  · rfl
  · obtain rfl : shown = none := h
    rfl

/-- Nothing is to be done for a document in which nothing is shown in place of others. -/
theorem laidBare_eq_self (h : n.Uncovered) : n.laidBare = n :=
  editAt_eq_self fun p m hp => uncover_eq_self (h p m hp)

theorem shownTextOfAll_editAll {ns : List Node}
    (h : ∀ n ∈ ns, ∀ path, (n.editAt (fun _ => uncover) path).value.getD "" ++
      (n.editAt (fun _ => uncover) path).shownText = n.textContent) (path : Path) (i : Nat) :
    shownTextOfAll (editAll (fun _ => uncover) path i ns) = textOfAll ns := by
  induction ns generalizing i with
  | nil => rfl
  | cons n ns ih =>
    rw [editAll, shownTextOfAll, h n List.mem_cons_self,
      ih fun m mem => h m (List.mem_cons_of_mem _ mem), textOfAll]

/-- A node that is laid bare shows all the text below it. -/
theorem value_append_shownText_editAt (n : Node) (path : Path) :
    (n.editAt (fun _ => uncover) path).value.getD "" ++
      (n.editAt (fun _ => uncover) path).shownText = n.textContent := by
  induction n using childInduction generalizing path with
  | step n ih =>
    rw [textContent_eq, shownText_eq]
    cases hn : n.hasNoChildren with
    | true =>
      rw [editAt_of_hasNoChildren hn, contents_of_uncovered (shown?_uncover n)]
      change n.value.getD "" ++ shownTextOfAll n.childList = _
      rw [hasNoChildren_iff.mp hn]
      rfl
    | false =>
      have held : ({ n.uncover with
          children := some (editAll (fun _ => uncover) path 0 n.childList) } : Node).contents =
            editAll (fun _ => uncover) path 0 n.childList :=
        contents_of_uncovered (shown?_uncover n)
      rw [editAt_of_children hn, held, shownTextOfAll_editAll ih path 0]
      rfl

/-- All children count once nothing is shown in their place. -/
theorem shownTextOfAll_laidBare (ns : List Node) :
    shownTextOfAll (ns.map laidBare) = textOfAll ns := by
  induction ns with
  | nil => rfl
  | cons n ns ih =>
    rw [List.map_cons, shownTextOfAll, laidBare, edit, value_append_shownText_editAt, ih, textOfAll]

/-- Where nothing is shown in place of others, the text that is shown is the text that is there. -/
theorem shownTextOfAll_of_uncovered {ns : List Node} (h : ∀ n ∈ ns, n.Uncovered) :
    shownTextOfAll ns = textOfAll ns := by
  rw [← shownTextOfAll_laidBare, List.map_congr_left fun n mem => laidBare_eq_self (h n mem),
    List.map_id']

theorem renderedText_of_uncovered (h : ∀ k ∈ n.contents, k.Uncovered) :
    n.renderedText = n.shownText := by
  rw [shownText_eq, shownTextOfAll_of_uncovered h]
  rfl

/-! ## Documents that have been filled in -/

/-- A directive that is filled in with a text: any but a link. -/
def IsSpan (n : Node) : Prop := n.isDirective = true ∧ ¬ n.IsLink

/-- Such a directive shows its text and nothing else. -/
theorem FilledIn.texts_of_span (h : n.FilledIn c m) (isSpan : n.IsSpan) :
    ∃ text, m.shown? = some [.text text] ∧ m.renderedText = text ∧ m.shownText = text := by
  obtain ⟨text, -, -, shown⟩ := h.text isSpan.1 isSpan.2
  have held := contents_of_shown shown
  have shows : m.shownText = text := by rw [shownText_eq, held, shownTextOfAll_text]
  refine ⟨text, shown, ?_, shows⟩
  rw [← shows]
  refine renderedText_of_uncovered ?_
  rw [held, List.forall_mem_singleton]
  intro p k hp
  obtain ⟨-, rfl⟩ := at?_text.mp hp
  rfl

/-- No other node is given anything to show in place of its children. -/
theorem FilledIn.shown?_eq_none (h : n.FilledIn c m) (bare : n.shown? = none)
    (notSpan : ¬ n.IsSpan) : m.shown? = none := by
  by_cases isLink : n.IsLink
  · obtain ⟨_, -, -, -, shown⟩ := h.link isLink
    exact shown
  · cases isDirective : n.isDirective with
    | true => exact absurd ⟨isDirective, isLink⟩ notSpan
    | false => rw [shown?, (h.plain isDirective).1, ← shown?, bare]

/-- What a successful walk leaves of a document shows nothing in place of others where there is no
directive that is filled in with a text. -/
theorem uncovered_walk {tree : Node} (ok : (tree.walk c).failure = none) (bare : tree.Uncovered)
    {p : Path} (hm : (tree.walk c).result.at? p = some m)
    (noSpan : ∀ q k, tree.at? (p ++ q) = some k → ¬ k.IsSpan) : m.Uncovered := by
  intro q k' hq
  have hk' : (tree.walk c).result.at? (p ++ q) = some k' := by
    rw [at?_append, hm, Option.bind_some, hq]
  cases hk : tree.at? (p ++ q) with
  | none =>
    -- a new node is a label, and a label shows its own value
    obtain ⟨-, -, label, -, -, -, rfl⟩ := (new_place_walk_iff ok).mp ⟨hk, hk'⟩
    rfl
  | some k =>
    exact (filledIn_walk ok hk hk').shown?_eq_none (bare _ k hk) (noSpan q k hk)

/-- The text that a node shows is its rendered text if no directive that is filled in with a text
stands below it. -/
theorem renderedText_walk {tree : Node} (ok : (tree.walk c).failure = none) (bare : tree.Uncovered)
    {p : Path} (hp : tree.at? p = some n) (hm : (tree.walk c).result.at? p = some m)
    (noSpan : ∀ q k, q ≠ [] → tree.at? (p ++ q) = some k → ¬ k.IsSpan) :
    m.renderedText = m.shownText := by
  have filled := filledIn_walk ok hp hm
  by_cases isSpan : n.IsSpan
  · obtain ⟨text, -, rendered, shows⟩ := filled.texts_of_span isSpan
    rw [rendered, shows]
  · refine renderedText_of_uncovered fun k mem => ?_
    rw [contents_of_uncovered (filled.shown?_eq_none (bare p n hp) isSpan)] at mem
    obtain ⟨i, hi⟩ := List.getElem?_of_mem mem
    refine uncovered_walk ok bare (p := p ++ [i]) ?_ fun q k' hk' => ?_
    · rw [at?_append, hm, Option.bind_some, at?_cons_of_child hi, at?_nil]
    · rw [List.append_assoc] at hk'
      exact noSpan ([i] ++ q) k' (by simp) hk'

/-- **What the rendered text is.** It is the text that the element of the node would show if nothing
were shown in place of the children of the nodes in it. It is the text that the element does show if
nothing is. In a document that has been filled in, and in which nothing was shown in place of
anything before, a directive that is filled in with a text has just this text. The rendered text of
any other node is made up of its children without regard to what has been filled in. The two texts
agree unless such a directive stands below the node. -/
theorem renderedText_exact (n : Node) :
    n.renderedText = shownTextOfAll (n.contents.map laidBare) ∧
    ((∀ k ∈ n.contents, k.Uncovered) → n.renderedText = n.shownText) ∧
    ∀ (c : Context) (tree : Node) (found : Found), (tree.walk c).outcome = .ok found →
      tree.Uncovered → ∀ (p : Path) (m : Node), tree.at? p = some n →
      (tree.walk c).result.at? p = some m →
      (n.IsSpan → ∃ text, m.shown? = some [.text text] ∧ m.renderedText = text ∧
        m.shownText = text) ∧
      (¬ n.IsSpan → m.renderedText = textOfAll m.childList ∧
        m.shownText = shownTextOfAll m.childList) ∧
      ((∀ q k, q ≠ [] → tree.at? (p ++ q) = some k → ¬ k.IsSpan) →
        m.renderedText = m.shownText) := by
  refine ⟨(shownTextOfAll_laidBare _).symm, renderedText_of_uncovered, ?_⟩
  intro c tree found h bare p m hp hm
  obtain ⟨ok, -⟩ := Walk.outcome_eq_ok_iff.mp h
  have filled := filledIn_walk ok hp hm
  refine ⟨filled.texts_of_span, fun notSpan => ?_, renderedText_walk ok bare hp hm⟩
  have held := contents_of_uncovered (filled.shown?_eq_none (bare p n hp) notSpan)
  rw [shownText_eq, ← held]
  exact ⟨rfl, rfl⟩

/-- Nothing is shown in place of anything in the letter. -/
theorem uncovered_letter : letter.Uncovered := by
  intro p m hp
  have all : ∀ place ∈ letter.places, place.2.shown? = none := by
    simp [letter, places, placesAt, placesOfAll, root, paragraph, text, inlineDirective, directive,
      bare, shown?]
  exact all (p, m) (mem_places.mpr hp)

theorem renderedText_exact_letter :
    ∃ link name, (letter.walk .sample).result.at? [0, 3] = some link ∧
      (letter.walk .sample).result.at? [0, 3, 1] = some name ∧
      link.renderedText = "for " ∧ link.shownText = "for Ada" ∧ name.renderedText = "Ada" := by
  have h : (letter.walk .sample).outcome = .ok ⟨4, [⟨[0, 3], "review"⟩]⟩ := rfl
  obtain ⟨-, -, rendered⟩ := renderedText_exact (directive .inline "Link" [("form", "review")]
    [.text "for ", .inlineDirective "RECIPIENTFIRSTNAME" []])
  obtain ⟨-, children, -⟩ := rendered .sample letter _ h uncovered_letter [0, 3] _ rfl rfl
  obtain ⟨text, shown⟩ := children (by rintro ⟨-, notLink⟩; exact notLink (by decide))
  obtain ⟨-, -, rendered⟩ := renderedText_exact (inlineDirective "RECIPIENTFIRSTNAME" [])
  obtain ⟨filled, -, -⟩ := rendered .sample letter _ h uncovered_letter [0, 3, 1] _ rfl rfl
  obtain ⟨ada, shows, text', -⟩ := filled ⟨rfl, by decide⟩
  refine ⟨_, _, rfl, rfl, text, shown, text'.trans ?_⟩
  cases shows
  rfl

/-- The rendered text of a node is not always the text that it shows. -/
theorem not_shownText : ¬ ∀ (c : Context) (tree : Node) (found : Found),
    (tree.walk c).outcome = .ok found → ∀ p m, (tree.walk c).result.at? p = some m →
      m.renderedText = m.shownText := by
  intro same
  have text := same .sample letter _ rfl [0, 3] _ rfl
  revert text
  decide

end MailMerge.Node
