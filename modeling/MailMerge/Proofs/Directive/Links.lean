import MailMerge.Context.Sample
import MailMerge.Proofs.Directive.Lookups

/-!
# Where links lead

The target of a link comes from the first of four attributes that it has: `email`, `form`, `to` and
`field`. What comes behind this attribute is never looked at, and neither is any other attribute,
except for `rel` where the assignee or a field is looked up. One table says what the target is, or
why there is none, and the link is annotated accordingly.

## Main definitions

* `LinkKey`: the four attributes in their order.
* `Node.firstKey?`: the first of them that a node has.
* `Node.LinkTable`: the target of a link.
* `Node.LinkedTo`: a link after it has been filled in.

## Main results

* `linkTarget_of_firstKey?`: the first key decides.
* `linkTable_iff`: the table is exact.
* `linkTarget_congr`: what the target does not depend on.
* `fill_link`: what becomes of a link.
-/

namespace MailMerge

/-- The attributes that a link can have its target from. -/
inductive LinkKey where
  | email
  | form
  | url
  | field
deriving DecidableEq, Repr

namespace LinkKey

/-- The keys in order; the first one that is there decides. -/
def all : List LinkKey := [.email, .form, .url, .field]

/-- The name of an attribute. -/
def name : LinkKey → String
  | .email => "email"
  | .form => "form"
  | .url => "to"
  | .field => "field"

/-- The keys that stand before a key in the order. -/
def earlier : LinkKey → List LinkKey
  | .email => []
  | .form => [.email]
  | .url => [.email, .form]
  | .field => [.email, .form, .url]

/-- Whether the attribute `rel` matters for the value of a key. -/
def HeedsRelation (key : LinkKey) (value : String) : Prop :=
  key = .email ∧ value = "assignee" ∨ key = .field

end LinkKey

/-- The relation that a link to a field writes in the attribute `rel`. -/
def Relation.written? : Relation → Option String
  | .own => none
  | .parent => some "parent"

/-- What is still to be done for a link. -/
def LinkTarget.resolution : LinkTarget → Resolution
  | .form slug => .deferred slug
  | .email _ | .url _ => .resolved

@[simp] theorem Filling.resolution_ofTarget (t : LinkTarget) :
    (ofTarget t).resolution = t.resolution := by
  cases t <;> rfl

namespace Node

variable {c : Context} {n m : Node} {key : LinkKey} {value : String}

/-! ## The first key -/

/-- The first key that a node has, with its value. -/
def firstKey? (n : Node) : Option (LinkKey × String) :=
  LinkKey.all.findSome? fun key => (n.attribute? key.name).map (key, ·)

/-- The first key of a node is one that it has while it has none of those before it. -/
theorem firstKey?_eq_some_iff : n.firstKey? = some (key, value) ↔
    n.attribute? key.name = some value ∧ ∀ k ∈ key.earlier, n.attribute? k.name = none := by
  cases key <;>
    simp only [firstKey?, LinkKey.all, LinkKey.earlier, LinkKey.name, List.findSome?_cons,
      List.findSome?_nil, List.forall_mem_cons] <;>
    cases n.attribute? "email" <;> cases n.attribute? "form" <;> cases n.attribute? "to" <;>
    cases n.attribute? "field" <;> simp

theorem firstKey?_eq_none_iff : n.firstKey? = none ↔ ∀ key, n.attribute? (LinkKey.name key) = none := by
  rw [firstKey?, List.findSome?_eq_none_iff]
  simp only [Option.map_eq_none_iff]
  exact ⟨fun h key => h key (by cases key <;> decide), fun h key _ => h key⟩

/-- The target that the value of a key makes, unless it is empty. -/
def targetFrom (n : Node) (c : Context) : LinkKey → String → Except DirectiveError LinkTarget
  | .email, email => (n.emailAddress c email).map .email
  | .form, slug => .ok (.form slug)
  | .url, href => .ok (.url href)
  | .field, field => (n.fieldTarget c field).map .url

theorem filledAttribute?_of_first {key value : String} (h : n.attribute? key = some value) :
    n.filledAttribute? key =
      if value = "" then .error (.missingAttribute n.writtenName key) else .ok (some value) := by
  rw [filledAttribute?, h]

/-- The first key decides. -/
theorem linkTarget_of_firstKey? (c : Context) (h : n.firstKey? = some (key, value)) :
    n.linkTarget c =
      if value = "" then .error (.missingAttribute n.writtenName key.name)
      else n.targetFrom c key value := by
  obtain ⟨here, absent⟩ := firstKey?_eq_some_iff.mp h
  have present := filledAttribute?_of_first here
  have skipped (k : LinkKey) (before : k ∈ key.earlier) : n.filledAttribute? k.name = .ok none :=
    filledAttribute?_of_none (absent k before)
  rw [linkTarget]
  -- the keys are asked for in turn, so the look-ups that are skipped differ from key to key
  cases key with
  | email =>
    rw [show n.filledAttribute? "email" = _ from present]
    by_cases empty : value = ""
    · rw [if_pos empty, if_pos empty]
      rfl
    · rw [if_neg empty, if_neg empty]
      change (do return LinkTarget.email (← n.emailAddress c value)) = _
      rw [targetFrom]
      cases n.emailAddress c value <;> rfl
  | form =>
    rw [show n.filledAttribute? "email" = _ from skipped .email (by decide),
      show n.filledAttribute? "form" = _ from present]
    by_cases empty : value = "" <;> simp only [empty, if_true, if_false] <;> rfl
  | url =>
    rw [show n.filledAttribute? "email" = _ from skipped .email (by decide),
      show n.filledAttribute? "form" = _ from skipped .form (by decide),
      show n.filledAttribute? "to" = _ from present]
    by_cases empty : value = "" <;> simp only [empty, if_true, if_false] <;> rfl
  | field =>
    rw [show n.filledAttribute? "email" = _ from skipped .email (by decide),
      show n.filledAttribute? "form" = _ from skipped .form (by decide),
      show n.filledAttribute? "to" = _ from skipped .url (by decide),
      show n.filledAttribute? "field" = _ from present]
    by_cases empty : value = ""
    · rw [if_pos empty, if_pos empty]
      rfl
    · rw [if_neg empty, if_neg empty]
      change (do return LinkTarget.url (← n.fieldTarget c value)) = _
      rw [targetFrom]
      cases n.fieldTarget c value <;> rfl

theorem linkTarget_of_no_key (c : Context) (h : n.firstKey? = none) :
    n.linkTarget c = .error (.invalidDirective n.writtenName .noTarget) := by
  have skipped (key : LinkKey) : n.filledAttribute? key.name = .ok none :=
    filledAttribute?_of_none (firstKey?_eq_none_iff.mp h key)
  rw [linkTarget, show n.filledAttribute? "email" = _ from skipped .email,
    show n.filledAttribute? "form" = _ from skipped .form,
    show n.filledAttribute? "to" = _ from skipped .url,
    show n.filledAttribute? "field" = _ from skipped .field]
  rfl

/-! ## The table -/

/-- The target of a link, or why there is none. -/
inductive LinkTable (c : Context) (n : Node) : Except DirectiveError LinkTarget → Prop
  | noKey (first : n.firstKey? = none) :
    LinkTable c n (.error (.invalidDirective n.writtenName .noTarget))
  | empty (key : LinkKey) (first : n.firstKey? = some (key, "")) :
    LinkTable c n (.error (.missingAttribute n.writtenName key.name))
  | address (email : String) (first : n.firstKey? = some (.email, email)) (filled : email ≠ "")
    (verbatim : email ≠ "assignee") : LinkTable c n (.ok (.email email))
  | assignee (a : Assignee) (first : n.firstKey? = some (.email, "assignee"))
    (found : n.AssigneeTable c (.ok a)) : LinkTable c n (.ok (.email a.email))
  | noAssignee (e : DirectiveError) (first : n.firstKey? = some (.email, "assignee"))
    (missing : n.AssigneeTable c (.error e)) : LinkTable c n (.error e)
  | form (slug : String) (first : n.firstKey? = some (.form, slug)) (filled : slug ≠ "") :
    LinkTable c n (.ok (.form slug))
  | url (href : String) (first : n.firstKey? = some (.url, href)) (filled : href ≠ "") :
    LinkTable c n (.ok (.url href))
  | badRelation (field rel : String) (first : n.firstKey? = some (.field, field))
    (filled : field ≠ "") (written : n.attribute? "rel" = some rel) (bad : rel ≠ "parent") :
    LinkTable c n (.error (.invalidDirective n.writtenName (.badRelation rel)))
  | field (field : String) (relation : Relation) (text : String)
    (first : n.firstKey? = some (.field, field)) (filled : field ≠ "")
    (written : n.attribute? "rel" = relation.written?)
    (found : n.FieldTable c relation field (.ok text)) : LinkTable c n (.ok (.url text))
  | noField (field : String) (relation : Relation) (e : DirectiveError)
    (first : n.firstKey? = some (.field, field)) (filled : field ≠ "")
    (written : n.attribute? "rel" = relation.written?)
    (missing : n.FieldTable c relation field (.error e)) : LinkTable c n (.error e)

theorem strictRelation_of_written {relation : Relation}
    (h : n.attribute? "rel" = relation.written?) : n.strictRelation = .ok relation := by
  rw [strictRelation, h]
  cases relation <;> rfl

theorem strictRelation_of_bad {rel : String} (h : n.attribute? "rel" = some rel)
    (bad : rel ≠ "parent") :
    n.strictRelation = .error (.invalidDirective n.writtenName (.badRelation rel)) := by
  rw [strictRelation, h]
  exact if_neg bad

/-- The relation that a link to a field writes is checked before anything is looked up. -/
theorem fieldTarget_of_written {relation : Relation}
    (h : n.attribute? "rel" = relation.written?) (c : Context) (field : String) :
    n.fieldTarget c field = n.fieldText c relation field := by
  rw [fieldTarget, strictRelation_of_written h]
  rfl

theorem fieldTarget_of_bad {rel : String} (h : n.attribute? "rel" = some rel)
    (bad : rel ≠ "parent") (c : Context) (field : String) :
    n.fieldTarget c field = .error (.invalidDirective n.writtenName (.badRelation rel)) := by
  rw [fieldTarget, strictRelation_of_bad h bad]
  rfl

/-- Whatever a link may write as its relation is one of two things or bad. -/
theorem written_or_bad (n : Node) : (∃ relation : Relation, n.attribute? "rel" = relation.written?) ∨
    ∃ rel, n.attribute? "rel" = some rel ∧ rel ≠ "parent" := by
  cases written : n.attribute? "rel" with
  | none => exact .inl ⟨.own, rfl⟩
  | some rel =>
    by_cases parent : rel = "parent"
    · exact .inl ⟨.parent, congrArg some parent⟩
    · exact .inr ⟨rel, rfl, parent⟩

/-- The value of a key that is not empty makes just what one of the rows says. -/
theorem linkTable_targetFrom (c : Context) (first : n.firstKey? = some (key, value))
    (filled : value ≠ "") : n.LinkTable c (n.targetFrom c key value) := by
  cases key with
  | form => exact .form value first filled
  | url => exact .url value first filled
  | email =>
    rw [targetFrom, emailAddress]
    by_cases assignee : value = "assignee"
    · subst assignee
      rw [if_pos rfl]
      cases found : n.assignee c with
      | ok a => exact .assignee a first (assigneeTable_iff.mpr found)
      | error e => exact .noAssignee e first (assigneeTable_iff.mpr found)
    · rw [if_neg assignee]
      exact .address value first filled assignee
  | field =>
    rw [targetFrom]
    rcases n.written_or_bad with ⟨relation, written⟩ | ⟨rel, written, bad⟩
    · rw [fieldTarget_of_written written]
      cases found : n.fieldText c relation value with
      | ok text => exact .field value relation text first filled written (fieldTable_iff.mpr found)
      | error e => exact .noField value relation e first filled written (fieldTable_iff.mpr found)
    · rw [fieldTarget_of_bad written bad]
      exact .badRelation value rel first filled written bad

/-- A link has just the target that one of the rows says. -/
theorem linkTable_iff {result : Except DirectiveError LinkTarget} :
    n.LinkTable c result ↔ n.linkTarget c = result := by
  constructor
  · intro row
    cases row with
    | noKey first => exact linkTarget_of_no_key c first
    | empty key first => rw [linkTarget_of_firstKey? c first, if_pos rfl]
    | address email first filled verbatim =>
      rw [linkTarget_of_firstKey? c first, if_neg filled, targetFrom, emailAddress,
        if_neg verbatim]
      rfl
    | assignee a first found =>
      rw [linkTarget_of_firstKey? c first, if_neg (by decide), targetFrom, emailAddress,
        if_pos rfl, assigneeTable_iff.mp found]
      rfl
    | noAssignee e first missing =>
      rw [linkTarget_of_firstKey? c first, if_neg (by decide), targetFrom, emailAddress,
        if_pos rfl, assigneeTable_iff.mp missing]
      rfl
    | form slug first filled =>
      rw [linkTarget_of_firstKey? c first, if_neg filled, targetFrom]
    | url href first filled =>
      rw [linkTarget_of_firstKey? c first, if_neg filled, targetFrom]
    | badRelation field rel first filled written bad =>
      rw [linkTarget_of_firstKey? c first, if_neg filled, targetFrom,
        fieldTarget_of_bad written bad]
      rfl
    | field field relation text first filled written found =>
      rw [linkTarget_of_firstKey? c first, if_neg filled, targetFrom,
        fieldTarget_of_written written, fieldTable_iff.mp found]
      rfl
    | noField field relation e first filled written missing =>
      rw [linkTarget_of_firstKey? c first, if_neg filled, targetFrom,
        fieldTarget_of_written written, fieldTable_iff.mp missing]
      rfl
  · rintro rfl
    cases first : n.firstKey? with
    | none =>
      rw [linkTarget_of_no_key c first]
      exact .noKey first
    | some entry =>
      obtain ⟨key, value⟩ := entry
      rw [linkTarget_of_firstKey? c first]
      by_cases empty : value = ""
      · subst empty
        rw [if_pos rfl]
        exact .empty key first
      · rw [if_neg empty]
        exact linkTable_targetFrom c first empty

/-! ## What the target does not depend on -/

/-- Two nodes with the same first key, and with the same relation if that matters. Any attribute
that comes behind this key, and any that is none of the keys, may differ. -/
structure SameChoice (n m : Node) : Prop where
  first : m.firstKey? = n.firstKey?
  rel : ∀ key value, n.firstKey? = some (key, value) → key.HeedsRelation value →
    m.attribute? "rel" = n.attribute? "rel"

/-- The target of a link depends on the first key, and on the relation where that matters. -/
theorem linkTarget_congr (name : m.name = n.name) (same : n.SameChoice m) (c : Context) :
    m.linkTarget c = n.linkTarget c := by
  have written : m.writtenName = n.writtenName := by rw [writtenName, writtenName, name]
  cases first : n.firstKey? with
  | none =>
    rw [linkTarget_of_no_key c first, linkTarget_of_no_key c (same.first.trans first), written]
  | some entry =>
    obtain ⟨key, value⟩ := entry
    have rel := same.rel key value first
    rw [linkTarget_of_firstKey? c first, linkTarget_of_firstKey? c (same.first.trans first),
      written]
    congr 1
    -- the relation is looked at for the assignee and for a field only
    cases key with
    | form | url => rfl
    | email =>
      by_cases assignee : value = "assignee"
      · have rel := rel (.inl ⟨rfl, assignee⟩)
        simp only [targetFrom, emailAddress, Node.assignee, relation, pubFor, rel, written]
      · simp only [targetFrom, emailAddress, if_neg assignee]
    | field =>
      have rel := rel (.inr rfl)
      simp only [targetFrom, fieldTarget, strictRelation, pubFor, storedValue, rel, written]

/-! ## What becomes of a link -/

/-- A link after it has been filled in: it is an anchor with the target, and what it shows are its
children. If it had none, it has got the label that goes with the target. Everything else is as it
has been written. -/
structure LinkedTo (n : Node) (target : LinkTarget) (m : Node) : Prop where
  source : n.SameSource m
  tag : m.tag? = some .a
  href : m.href? = some target.href
  shown : m.shown? = none
  labelled : ∀ label, n.hasNoChildren = true → target.label? = some label →
    m.children = some [.text label]
  kept : n.hasNoChildren = false ∨ target.label? = none → m.children = n.children

theorem labelWith_attributes (n : Node) (attributes : Option (Dict String))
    (label : Option String) : ({ n with attributes := attributes } : Node).labelWith label =
      { n.labelWith label with attributes := attributes } := by
  cases label with
  | none => rfl
  | some text =>
    have sameChildren : ({ n with attributes := attributes } : Node).hasNoChildren =
        n.hasNoChildren := rfl
    rw [labelWith, labelWith, Node.label, Node.label, sameChildren]
    split <;> rfl

theorem fill_link_of_error {e : DirectiveError} (isLink : n.IsLink)
    (h : n.linkTarget c = .error e) : (n.fill c).outcome = .error e ∧ (n.fill c).node = n := by
  obtain ⟨isDirective, named⟩ := isLink_iff.mp isLink
  refine fill_of_filling_error isDirective named ?_
  rw [Directive.filling_link, h]
  rfl

/-- A link with a target is filled in with it. -/
theorem filling_link_of_ok {target : LinkTarget} (h : n.linkTarget c = .ok target) :
    Directive.link.filling c n = .ok (.ofTarget target) := by
  rw [Directive.filling_link, h]
  rfl

theorem fill_link_of_ok {target : LinkTarget} (isLink : n.IsLink) (fresh : n.tag? = none)
    (h : n.linkTarget c = .ok target) :
    (n.fill c).outcome = .ok (some target.resolution) ∧
      (n.fill c).node =
        { n.labelWith target.label? with
          data := some (n.dataOrBlank.withElement (.anchor target.href)) } := by
  obtain ⟨isDirective, named⟩ := isLink_iff.mp isLink
  have noted := fill_of_filling_ok isDirective named fresh (filling_link_of_ok h)
  rw [Filling.resolution_ofTarget, Filling.label_ofTarget, Filling.element_ofTarget] at noted
  exact noted

theorem linkedTo_of_node {target : LinkTarget}
    (h : m = { n.labelWith target.label? with
      data := some (n.dataOrBlank.withElement (.anchor target.href)) }) : n.LinkedTo target m := by
  have source := sameSource_labelWith n target.label?
  have children : m.children = (n.labelWith target.label?).children := by rw [h]
  subst h
  refine ⟨⟨source.kind, source.name, source.attributes, source.value, source.others, rfl, rfl⟩, rfl,
    rfl, rfl, fun label bare labelled => ?_, fun kept => ?_⟩
  · rw [children, labelled, children_labelWith bare]
  · rcases kept with some_child | none
    · rw [children, labelWith_of_children some_child]
    · rw [children, none]
      rfl

/-- **What becomes of a link.** It has just one target or error, the one that the table says. An
error leaves the node as it is. A target is noted on it, and it gets a label only if it has no
children. Whatever attributes may come behind the first key, or have nothing to do with it, the
outcome is the same, and so is the node apart from these attributes. -/
theorem fill_link (c : Context) (n : Node) (isLink : n.IsLink) (fresh : n.tag? = none) :
    (∃ result, n.LinkTable c result ∧ (∀ other, n.LinkTable c other → other = result) ∧
      ((∃ e, result = .error e ∧ (n.fill c).outcome = .error e ∧ (n.fill c).node = n) ∨
        ∃ target, result = .ok target ∧ (n.fill c).outcome = .ok (some target.resolution) ∧
          n.LinkedTo target (n.fill c).node)) ∧
    ∀ attributes, n.SameChoice { n with attributes := attributes } →
      (({ n with attributes := attributes } : Node).fill c).outcome = (n.fill c).outcome ∧
      (({ n with attributes := attributes } : Node).fill c).node =
        { (n.fill c).node with attributes := attributes } := by
  constructor
  · refine ⟨n.linkTarget c, linkTable_iff.mpr rfl, fun other h => (linkTable_iff.mp h).symm, ?_⟩
    cases target : n.linkTarget c with
    | error e => exact .inl ⟨e, rfl, fill_link_of_error isLink target⟩
    | ok target' =>
      obtain ⟨outcome, node⟩ := fill_link_of_ok isLink fresh target
      exact .inr ⟨target', rfl, outcome, linkedTo_of_node node⟩
  · intro attributes same
    -- the other attributes make a link of the same name with the same annotations
    let m : Node := { n with attributes := attributes }
    have isLink' : m.IsLink := isLink
    have written : m.name = n.name := rfl
    have target' : m.linkTarget c = n.linkTarget c := linkTarget_congr written same c
    cases target : n.linkTarget c with
    | error e =>
      obtain ⟨outcome, node⟩ := fill_link_of_error isLink target
      obtain ⟨outcome', node'⟩ := fill_link_of_error isLink' (target'.trans target)
      exact ⟨outcome'.trans outcome.symm, by rw [node', node]⟩
    | ok t =>
      obtain ⟨outcome, node⟩ := fill_link_of_ok isLink fresh target
      obtain ⟨outcome', node'⟩ := fill_link_of_ok isLink' fresh (target'.trans target)
      refine ⟨outcome'.trans outcome.symm, ?_⟩
      rw [node', node, labelWith_attributes]
      rfl

theorem fill_link_assignee :
    let c := Context.sample.withAssignee (.sample "Grace" none)
    let link := inlineDirective "Link" [("email", "assignee"), ("to", "https://example.org")]
    let other := { link with attributes := some (.ofList [("email", "assignee"), ("id", "x")]) }
    link.LinkedTo (.email "grace@example.com") (link.fill c).node ∧
      (other.fill c).outcome = .ok (some .resolved) := by
  intro c link other
  have row : link.LinkTable c (.ok (.email "grace@example.com")) :=
    .assignee (.sample "Grace" none) rfl (.own _ (by decide) rfl)
  obtain ⟨⟨result, -, only, becomes⟩, same⟩ := fill_link c link (by decide) rfl
  obtain rfl := only _ row
  obtain ⟨outcome, -⟩ := same other.attributes ⟨rfl, fun _ _ _ _ => rfl⟩
  rcases becomes with ⟨e, eq, -⟩ | ⟨target, eq, resolved, linked⟩
  · cases eq
  · cases eq
    exact ⟨linked, outcome.trans resolved⟩

end Node

end MailMerge
