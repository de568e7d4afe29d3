import MailMerge.Proofs.Directive.Links
import MailMerge.Proofs.Directive.Spans
import MailMerge.Proofs.Render.Again

/-!
# Visits that fail

A visit that fails is meant to leave its node as it was. It does so if the name is unknown or if
there is nothing to fill in, since then nothing has been written yet. But a link gets its label
before an element is noted on it, and only the element is refused if there is one already. So there
is one way to fail that leaves something behind: a link with an element and without children, for
which a target with a label is found, keeps this label. It happens only once, since with a label
the link has children.

## Main definitions

* `DirectiveError.writtenName?`: the directive that an error names.
* `Node.FailsWith`: how a visit fails, and how it leaves its node.

## Main results

* `failsWith_iff`: these are just the ways to fail.
* `FailsWith.writtenName?_eq`: the error of a visit names the directive as it is written.
* `FailsWith.again`: a visit that has failed fails alike when it is made again.
* `fill_failed`: what a visit that fails leaves behind.
-/

namespace MailMerge

/-- The directive that an error names. The failure of a service names a form instead. -/
def DirectiveError.writtenName? : DirectiveError → Option String
  | .missingAttribute directive _ | .missingContext directive _ | .missingValue directive _
  | .invalidDirective directive _ => some directive
  | .serviceFailure _ _ _ => none

namespace Node

variable {c : Context} {n m : Node} {e : DirectiveError}

/-- How the visit of a directive fails, and how it leaves the node. -/
inductive FailsWith (c : Context) (n : Node) : DirectiveError → Node → Prop
  | unrecognized (unknown : Directive.ofName? n.writtenName = none) :
    FailsWith c n (.invalidDirective n.writtenName .unrecognized) n
  | noTarget (e : DirectiveError) (isLink : n.IsLink) (missing : n.LinkTable c (.error e)) :
    FailsWith c n e n
  | noText (d : Directive) (e : DirectiveError)
    (named : Directive.ofName? n.writtenName = some d) (hd : d ≠ .link)
    (missing : n.SpanTable c d (.error e)) : FailsWith c n e n
  | settled (settled : n.Settled c) :
    FailsWith c n (.invalidDirective n.writtenName .alreadyRendered) n
  | labelled (label : String) (noted : n.tag? ≠ none) (gets : n.GetsLabel c label) :
    FailsWith c n (.invalidDirective n.writtenName .alreadyRendered)
      { n with children := some [.text label] }

/-! ## All ways to fail -/

/-- A directive other than a link has no text to show iff it cannot be filled in. -/
theorem spanTable_error_iff {d : Directive} (hd : d ≠ .link) :
    n.SpanTable c d (.error e) ↔ d.filling c n = .error e := by
  rw [spanTable_iff hd, spanText]
  cases d.filling c n <;> simp [Except.map]

/-- A link without a target cannot be filled in. -/
theorem linkTable_error_iff :
    n.LinkTable c (.error e) ↔ Directive.link.filling c n = .error e := by
  rw [linkTable_iff, Directive.filling_link]
  cases n.linkTarget c <;> simp [Except.map]

theorem FailsWith.fill (h : n.FailsWith c e m) (isDirective : n.isDirective = true) :
    (n.fill c).outcome = .error e ∧ (n.fill c).node = m := by
  cases h with
  | unrecognized unknown => exact fill_of_unrecognized isDirective unknown
  | noTarget e isLink missing => exact fill_link_of_error isLink (linkTable_iff.mp missing)
  | noText d e named hd missing =>
    exact fill_of_filling_error isDirective named ((spanTable_error_iff hd).mp missing)
  | settled settled => exact settled.fill
  | labelled label noted gets =>
    obtain ⟨isLink, bare, target, found, labelled⟩ := gets
    obtain ⟨outcome, node⟩ :=
      fill_of_noted isDirective (isLink_iff.mp isLink).2 (filling_link_of_ok found) noted
    refine ⟨outcome, ?_⟩
    rw [node, Filling.label_ofTarget, labelled, labelWith, Node.label, if_pos bare]

/-- A directive is filled in, or it fails in one of these ways. -/
theorem exists_failsWith (isDirective : n.isDirective = true)
    (h : (n.fill c).outcome = .error e) : ∃ e m, n.FailsWith c e m := by
  cases named : Directive.ofName? n.writtenName with
  | none => exact ⟨_, _, .unrecognized named⟩
  | some d =>
    cases filled : d.filling c n with
    | error e =>
      by_cases hd : d = .link
      · subst hd
        exact ⟨e, n, .noTarget e (isLink_iff.mpr ⟨isDirective, named⟩)
          (linkTable_error_iff.mpr filled)⟩
      · exact ⟨e, n, .noText d e named hd ((spanTable_error_iff hd).mpr filled)⟩
    | ok f =>
      have noted : n.tag? ≠ none := by
        intro fresh
        obtain ⟨resolved, -⟩ := fill_of_filling_ok isDirective named fresh filled
        rw [resolved] at h
        cases h
      cases bare : n.hasNoChildren with
      | false => exact ⟨_, _, .settled ⟨isDirective, noted, d, f, named, filled, .inr bare⟩⟩
      | true =>
        cases label : f.label with
        | none => exact ⟨_, _, .settled ⟨isDirective, noted, d, f, named, filled, .inl label⟩⟩
        | some text =>
          exact ⟨_, _, .labelled text noted (.of_filling isDirective named filled label bare)⟩

/-- The visit of a directive fails in just these ways. -/
theorem failsWith_iff (isDirective : n.isDirective = true) :
    n.FailsWith c e m ↔ (n.fill c).outcome = .error e ∧ (n.fill c).node = m := by
  refine ⟨fun h => h.fill isDirective, ?_⟩
  rintro ⟨outcome, rfl⟩
  obtain ⟨e', m, fails⟩ := exists_failsWith isDirective outcome
  obtain ⟨outcome', rfl⟩ := fails.fill isDirective
  rw [outcome'] at outcome
  cases outcome
  exact fails

/-! ## Errors name the directive -/

theorem AssigneeTable.writtenName?_eq (h : n.AssigneeTable c (.error e)) :
    e.writtenName? = some n.writtenName := by
  cases h <;> rfl

theorem FieldTable.writtenName?_eq {relation : Relation} {field : String}
    (h : n.FieldTable c relation field (.error e)) : e.writtenName? = some n.writtenName := by
  cases h <;> rfl

theorem LinkTable.writtenName?_eq (h : n.LinkTable c (.error e)) :
    e.writtenName? = some n.writtenName := by
  cases h with
  | noKey | empty | badRelation => rfl
  | noAssignee _ _ missing => exact missing.writtenName?_eq
  | noField _ _ _ _ _ _ missing => exact missing.writtenName?_eq

theorem SpanTable.writtenName?_eq {d : Directive} (h : n.SpanTable c d (.error e)) :
    e.writtenName? = some n.writtenName := by
  cases h with
  | noField => rfl
  | value _ _ _ _ _ missing => exact missing.writtenName?_eq
  | noAssignee _ _ _ _ missing => exact missing.writtenName?_eq

/-- The error of a visit names the directive as it is written. -/
theorem FailsWith.writtenName?_eq (h : n.FailsWith c e m) :
    e.writtenName? = some n.writtenName := by
  cases h with
  | unrecognized | settled | labelled => rfl
  | noTarget _ _ missing => exact missing.writtenName?_eq
  | noText _ _ _ _ missing => exact missing.writtenName?_eq

/-! ## What is left behind -/

/-- A label is left behind iff the node has an element and is a link that gets one. -/
theorem FailsWith.ne_iff (h : n.FailsWith c e m) (isDirective : n.isDirective = true) :
    m ≠ n ↔ n.tag? ≠ none ∧ ∃ label, n.GetsLabel c label := by
  constructor
  · intro ne
    cases h with
    | unrecognized | noTarget | noText | settled => exact absurd rfl ne
    | labelled label noted gets => exact ⟨noted, label, gets⟩
  · rintro ⟨noted, label, gets⟩ rfl
    obtain ⟨-, node⟩ := h.fill isDirective
    obtain ⟨-, node'⟩ := (FailsWith.labelled label noted gets).fill isDirective
    have bare := gets.2.1
    rw [← node, node'] at bare
    cases bare

/-- The node is as it was in everything but its children. -/
theorem FailsWith.eq_of_children (h : n.FailsWith c e m) :
    m = { n with children := m.children } := by
  cases h <;> cases n <;> rfl

/-- A visit that has failed fails alike when it is made again, and leaves nothing more behind. -/
theorem FailsWith.again (h : n.FailsWith c e m) (isDirective : n.isDirective = true) :
    (m.fill c).outcome = .error e ∧ (m.fill c).node = m := by
  cases h with
  | unrecognized unknown => exact fill_of_unrecognized isDirective unknown
  | noTarget e isLink missing => exact (FailsWith.noTarget e isLink missing).fill isDirective
  | noText d e named hd missing =>
    exact (FailsWith.noText d e named hd missing).fill isDirective
  | settled settled => exact settled.fill
  | labelled label noted gets =>
    obtain ⟨isLink, -, target, found, -⟩ := gets
    -- the label counts as a child, so that the link is settled
    have filled : Directive.link.filling c { n with children := some [.text label] } =
        .ok (.ofTarget target) :=
      (Directive.filling_congr rfl rfl .link c).trans (filling_link_of_ok found)
    have settled : Settled c { n with children := some [.text label] } :=
      ⟨isDirective, noted, .link, .ofTarget target, (isLink_iff.mp isLink).2, filled, .inr rfl⟩
    exact settled.fill

/-- **What a visit that fails leaves behind.** A directive fails in one of five ways. The error names
it as it is written, and the node is as it was in everything but its children. These change iff the
node has been rendered already, has no children and is a link with a target that has a label: then
the label stays behind. Made again, the visit fails with the same error and changes nothing. -/
theorem fill_failed (c : Context) (n : Node) (isDirective : n.isDirective = true) :
    (∀ e m, (n.fill c).outcome = .error e ∧ (n.fill c).node = m ↔ n.FailsWith c e m) ∧
    ∀ e, (n.fill c).outcome = .error e →
      e.writtenName? = some n.writtenName ∧
      (n.fill c).node = { n with children := (n.fill c).node.children } ∧
      ((n.fill c).node ≠ n ↔ n.tag? ≠ none ∧ ∃ label, n.GetsLabel c label) ∧
      ((n.fill c).node.fill c).outcome = .error e ∧
      ((n.fill c).node.fill c).node = (n.fill c).node := by
  refine ⟨fun e m => (failsWith_iff isDirective).symm, fun e failed => ?_⟩
  have fails : n.FailsWith c e (n.fill c).node := (failsWith_iff isDirective).mpr ⟨failed, rfl⟩
  exact ⟨fails.writtenName?_eq, fails.eq_of_children, fails.ne_iff isDirective,
    fails.again isDirective⟩

/-- A link that carries an element but shows nothing. -/
def emptiedLink : Node :=
  { inlineDirective "link" [("to", "https://example.org")] with
    data := some { NodeData.blank with tag := some .a } }

theorem fill_failed_emptiedLink :
    (emptiedLink.fill .sample).outcome =
        .error (.invalidDirective "link" .alreadyRendered) ∧
      (emptiedLink.fill .sample).node ≠ emptiedLink ∧
      ((emptiedLink.fill .sample).node.fill .sample).node = (emptiedLink.fill .sample).node := by
  have gets : emptiedLink.GetsLabel .sample "https://example.org" :=
    ⟨by decide, rfl, .url "https://example.org", rfl, rfl⟩
  obtain ⟨ways, failed⟩ := fill_failed .sample emptiedLink rfl
  obtain ⟨outcome, -⟩ := (ways _ _).mpr (.labelled _ (by decide) gets)
  obtain ⟨-, -, changed, -, again⟩ := failed _ outcome
  exact ⟨outcome, changed.mpr ⟨by decide, _, gets⟩, again⟩

/-- Not every visit that fails leaves its node untouched. -/
theorem not_untouched : ¬ ∀ (c : Context) (n : Node) (e : DirectiveError),
    n.isDirective = true → (n.fill c).outcome = .error e → (n.fill c).node = n := by
  intro untouched
  have same : (emptiedLink.fill .sample).node = emptiedLink :=
    untouched .sample emptiedLink (.invalidDirective "link" .alreadyRendered) rfl rfl
  have children : (emptiedLink.fill .sample).node.children = emptiedLink.children :=
    congrArg Node.children same
  cases children

end Node

end MailMerge
