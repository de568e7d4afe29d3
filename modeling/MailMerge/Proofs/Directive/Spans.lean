import MailMerge.Context.Sample
import MailMerge.Proofs.Directive.Lookups

/-!
# What directives show

Every directive but the link shows a text: a stored value, or a part of the name of the assignee or
of the recipient. One table says what the text is, or why there is none, and the node is annotated
with a span around the text. Its children stay, but they are not shown.

## Main definitions

* `NamePart`: what is shown of a person.
* `Node.SpanTable`: the text that a directive shows.
* `Node.Shows`: a node after it has been filled in with a text.

## Main results

* `spanTable_iff`: the table is exact.
* `fill_of_unrecognized`: a directive with an unknown name.
* `fill_span`: what becomes of a directive that shows a text.
-/

namespace MailMerge

/-- What is shown of a person. -/
inductive NamePart where
  | full
  | first
  | last
deriving DecidableEq, Repr

/-- A part of a name. Without a last name the full name is the first one, and the last one is
empty. -/
def NamePart.text (firstName : String) (lastName : Option String) : NamePart → String
  | .full =>
    match lastName with
    | some lastName => firstName ++ " " ++ lastName
    | none => firstName
  | .first => firstName
  | .last => lastName.getD ""

namespace Directive

/-- What a directive shows of the assignee. -/
def assigneePart? : Directive → Option NamePart
  | .assigneeName => some .full
  | .assigneeFirstName => some .first
  | .assigneeLastName => some .last
  | _ => none

/-- What a directive shows of the recipient. -/
def recipientPart? : Directive → Option NamePart
  | .recipientName => some .full
  | .recipientFirstName => some .first
  | .recipientLastName => some .last
  | _ => none

end Directive

namespace Filling

/-- What is shown instead of the children of a node. -/
def text (f : Filling) : String := Node.textOfAll (f.element.children.getD [])

theorem ShowsText.text_eq {f : Filling} {text : String} (h : f.ShowsText text) : f.text = text := by
  obtain ⟨element, -, -⟩ := h
  rw [Filling.text, element]
  simp [Element.span, Node.textOfAll, Node.text, Node.bare, Node.textContent]

@[simp] theorem text_ofText (text : String) : (ofText text).text = text :=
  (showsText_ofText text).text_eq

@[simp] theorem text_ofFullName (directive firstName : String) (lastName : Option String) :
    (ofFullName directive firstName lastName).text = NamePart.full.text firstName lastName := by
  cases lastName <;> exact text_ofText _

end Filling

namespace Node

variable {c : Context} {n m : Node} {d : Directive}

/-! ## The table -/

/-- The text that a directive shows, or why there is none. -/
inductive SpanTable (c : Context) (n : Node) : Directive → Except DirectiveError String → Prop
  | noField (absent : n.attribute? "field" = none) :
    SpanTable c n .value (.error (.missingAttribute n.writtenName "field"))
  | value (field : String) (relation : Relation) (result : Except DirectiveError String)
    (named : n.attribute? "field" = some field)
    (rel : relation = .parent ↔ n.attribute? "rel" = some "parent")
    (found : n.FieldTable c relation field result) : SpanTable c n .value result
  | assignee (d : Directive) (part : NamePart) (a : Assignee) (shows : d.assigneePart? = some part)
    (found : n.AssigneeTable c (.ok a)) : SpanTable c n d (.ok (part.text a.firstName a.lastName))
  | noAssignee (d : Directive) (part : NamePart) (e : DirectiveError)
    (shows : d.assigneePart? = some part) (missing : n.AssigneeTable c (.error e)) :
    SpanTable c n d (.error e)
  | recipient (d : Directive) (part : NamePart) (shows : d.recipientPart? = some part) :
    SpanTable c n d (.ok (part.text c.recipient.user.firstName c.recipient.user.lastName))

/-- The text that a directive is filled in with. -/
def spanText (n : Node) (c : Context) (d : Directive) : Except DirectiveError String :=
  (d.filling c n).map Filling.text

theorem spanText_of_no_field (absent : n.attribute? "field" = none) :
    n.spanText c .value = .error (.missingAttribute n.writtenName "field") := by
  rw [spanText, Directive.filling, valueFilling, absent]
  rfl

theorem spanText_of_field {field : String} (named : n.attribute? "field" = some field) :
    n.spanText c .value = n.fieldText c n.relation field := by
  rw [spanText, Directive.filling, valueFilling, named, fieldText]
  cases n.pubFor c n.relation with
  | error e => rfl
  | ok pub =>
    simp only [bind, Except.bind]
    cases n.storedValue pub field with
    | error e => rfl
    | ok value => exact congrArg Except.ok (Filling.text_ofText _)

theorem spanText_of_assigneePart? {part : NamePart} (shows : d.assigneePart? = some part) :
    n.spanText c d = (n.assignee c).map fun a => part.text a.firstName a.lastName := by
  rw [spanText]
  cases assignee : n.assignee c with
  | error e => cases d <;> cases shows <;> rw [Directive.filling, assignee] <;> rfl
  | ok a =>
    cases d <;> cases shows <;> rw [Directive.filling, assignee]
    · exact congrArg Except.ok (Filling.text_ofFullName ..)
    · exact congrArg Except.ok (Filling.text_ofText _)
    · exact congrArg Except.ok (Filling.text_ofText _)

theorem spanText_of_recipientPart? {part : NamePart} (shows : d.recipientPart? = some part) :
    n.spanText c d =
      .ok (part.text c.recipient.user.firstName c.recipient.user.lastName) := by
  cases d <;> cases shows
  · exact congrArg Except.ok (Filling.text_ofFullName ..)
  · exact congrArg Except.ok (Filling.text_ofText _)
  · exact congrArg Except.ok (Filling.text_ofText _)

theorem eq_relation {relation : Relation}
    (rel : relation = .parent ↔ n.attribute? "rel" = some "parent") : relation = n.relation := by
  rw [← relation_eq_parent_iff] at rel
  cases relation with
  | parent => exact (rel.mp rfl).symm
  | own =>
    cases h : n.relation with
    | own => rfl
    | parent => cases rel.mpr h

/-- A directive other than a link shows just the text that one of the rows says. -/
theorem spanTable_iff (hd : d ≠ .link) {result : Except DirectiveError String} :
    n.SpanTable c d result ↔ n.spanText c d = result := by
  constructor
  · intro row
    cases row with
    | noField absent => exact spanText_of_no_field absent
    | value field relation result named rel found =>
      rw [spanText_of_field named, ← eq_relation rel, fieldTable_iff.mp found]
    | assignee d part a shows found =>
      rw [spanText_of_assigneePart? shows, assigneeTable_iff.mp found]
      rfl
    | noAssignee d part e shows missing =>
      rw [spanText_of_assigneePart? shows, assigneeTable_iff.mp missing]
      rfl
    | recipient d part shows => exact spanText_of_recipientPart? shows
  · rintro rfl
    -- the six directives for persons differ only in the part of the name that they show
    have ofAssignee {part : NamePart} (shows : d.assigneePart? = some part) :
        n.SpanTable c d (n.spanText c d) := by
      rw [spanText_of_assigneePart? shows]
      cases found : n.assignee c with
      | error e => exact .noAssignee d part e shows (assigneeTable_iff.mpr found)
      | ok a => exact .assignee d part a shows (assigneeTable_iff.mpr found)
    have ofRecipient {part : NamePart} (shows : d.recipientPart? = some part) :
        n.SpanTable c d (n.spanText c d) := by
      rw [spanText_of_recipientPart? shows]
      exact .recipient d part shows
    cases d with
    | link => exact absurd rfl hd
    | value =>
      cases named : n.attribute? "field" with
      | none =>
        rw [spanText_of_no_field named]
        exact .noField named
      | some field =>
        rw [spanText_of_field named]
        exact .value field n.relation _ named relation_eq_parent_iff (fieldTable_iff.mpr rfl)
    | assigneeName | assigneeFirstName | assigneeLastName => exact ofAssignee rfl
    | recipientName | recipientFirstName | recipientLastName => exact ofRecipient rfl

/-! ## What becomes of a directive -/

/-- A node after it has been filled in with a text: it is a span around this text. Its own children
are as they were, and so is everything else that it has been written with. -/
structure Shows (n : Node) (text : String) (m : Node) : Prop where
  source : n.SameSource m
  children : m.children = n.children
  tag : m.tag? = some .span
  shown : m.shown? = some [.text text]
  rendered : m.renderedText = text
  href : m.href? = n.href?

/-- A directive with an unknown name is refused under the name that has been written, and stays as
it is. -/
theorem fill_of_unrecognized (isDirective : n.isDirective = true)
    (unknown : Directive.ofName? n.writtenName = none) :
    (n.fill c).outcome = .error (.invalidDirective n.writtenName .unrecognized) ∧
      (n.fill c).node = n := by
  rw [fill, if_pos isDirective, unknown]
  exact ⟨rfl, rfl⟩

/-- A text that is noted on a node is what the node shows. -/
theorem shows_of_node {text : String}
    (h : m = { n with data := some (n.dataOrBlank.withElement (.span text)) }) :
    n.Shows text m := by
  subst h
  have rendered : textOfAll [Node.text text] = text := by
    simp [textOfAll, Node.text, bare, textContent]
  exact ⟨⟨rfl, rfl, rfl, rfl, rfl, rfl, rfl⟩, rfl, rfl, rfl, rendered, href_dataOrBlank n⟩

/-- **What becomes of a directive that shows a text.** A name that is not one of the eight, however
its ASCII letters are capitalised, is refused, and the node stays as it is. Every other directive
than a link has just one text or error, the one that the table says. An error leaves the node as it
is. A text is noted on it as a span, and its children stay. -/
theorem fill_span (c : Context) (n : Node) (isDirective : n.isDirective = true)
    (fresh : n.tag? = none) :
    ((∀ d : Directive, Text.lowerAscii n.writtenName ≠ Text.lowerAscii d.name) →
      (n.fill c).outcome = .error (.invalidDirective n.writtenName .unrecognized) ∧
        (n.fill c).node = n) ∧
    ∀ d : Directive, Text.lowerAscii n.writtenName = Text.lowerAscii d.name → d ≠ .link →
      ∃ result, n.SpanTable c d result ∧ (∀ other, n.SpanTable c d other → other = result) ∧
        ((∃ e, result = .error e ∧ (n.fill c).outcome = .error e ∧ (n.fill c).node = n) ∨
          ∃ text, result = .ok text ∧ (n.fill c).outcome = .ok (some .resolved) ∧
            n.Shows text (n.fill c).node) := by
  constructor
  · intro unknown
    refine fill_of_unrecognized isDirective ?_
    refine Option.eq_none_iff_forall_ne_some.mpr fun d named => ?_
    exact unknown d (Directive.ofName?_eq_some_iff.mp named)
  · intro d name hd
    have named : Directive.ofName? n.writtenName = some d := Directive.ofName?_eq_some_iff.mpr name
    refine ⟨n.spanText c d, (spanTable_iff hd).mpr rfl,
      fun other h => ((spanTable_iff hd).mp h).symm, ?_⟩
    rw [spanText]
    cases filled : d.filling c n with
    | error e => exact .inl ⟨e, rfl, fill_of_filling_error isDirective named filled⟩
    | ok f =>
      right
      obtain ⟨text, shows⟩ := Directive.exists_showsText_of_ne_link hd filled
      obtain ⟨outcome, node⟩ := fill_of_filling_ok isDirective named fresh filled
      obtain ⟨element, label, resolution⟩ := id shows
      rw [resolution] at outcome
      rw [element, label] at node
      exact ⟨text, congrArg Except.ok shows.text_eq, outcome, shows_of_node node⟩

theorem fill_span_null :
    let c := Context.sample.withValues [("croccroc:note", .null)]
    let note := inlineDirective "VALUE" [("field", "croccroc:note")]
    let misspelt := inlineDirective "valeu" []
    note.Shows "null" (note.fill c).node ∧
      (misspelt.fill c).outcome = .error (.invalidDirective "valeu" .unrecognized) := by
  intro c note misspelt
  have row : note.SpanTable c .value (.ok "null") :=
    .value "croccroc:note" .own _ rfl (by decide) (.stored c.pub .null rfl rfl)
  obtain ⟨-, known⟩ := fill_span c note rfl rfl
  obtain ⟨unknown, -⟩ := fill_span c misspelt rfl rfl
  obtain ⟨result, -, only, becomes⟩ := known .value (by decide) (by decide)
  obtain rfl := only _ row
  rcases becomes with ⟨e, eq, -⟩ | ⟨text, eq, -, shows⟩
  · cases eq
  · cases eq
    exact ⟨shows, (unknown fun d => by cases d <;> decide).1⟩

end Node

end MailMerge
