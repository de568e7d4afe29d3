import MailMerge.Proofs.Directive.Naming

/-!
# What filling in one directive may do

A visit rewrites the annotations of its node and may give it a first child; everything that the
node has been written with stays. This module says so once for all directives, and says for the
link and for the directives that show a text what exactly is noted.

## Main definitions

* `LinkTarget.href`, `LinkTarget.label?`: what a link leads to and what it shows without a label.
* `Node.IsLink`: a directive that is named `link`, in capital or small letters.
* `Node.SameSource`: nodes that have been written alike.
* `Node.openForm?`: the form of a link that has no target yet.

## Main results

* `ofName?_eq_some_iff`: recognition of names is equality up to the case of ASCII letters.
* `filling_congr`: what a directive is filled in with depends on its name and attributes only.
* `linkTarget_eq_form_iff`: a link is to a form iff it has no address and names the form.
* `fill_cases`: a successful visit, case by case.
* `node_fill_cases`: what any visit does to its node.
* `sameSource_fill`: no visit touches what the node has been written with.
* `form?_fill`: a visit leaves a link open iff it is a link to a form.
-/

namespace MailMerge

namespace Directive

/-- A directive is recognised by its name up to the case of ASCII letters, and by no other. -/
theorem ofName?_eq_some_iff {s : String} {d : Directive} :
    ofName? s = some d ↔ Text.lowerAscii s = Text.lowerAscii d.name := by
  constructor
  · intro h
    have named := List.find?_some (p := fun d : Directive => Text.sameLetters d.name s) h
    exact (Text.sameLetters_iff.mp named).symm
  · intro h
    rw [ofName?_congr h, ofName?_name]

end Directive

/-! ## Targets of links -/

namespace LinkTarget

/-- What the anchor of a link leads to. A form has no address before a link to it is minted. -/
def href : LinkTarget → String
  | .email address => "mailto:" ++ address
  | .form _ => ""
  | .url href => href

/-- What a link shows if it has no label of its own. -/
def label? : LinkTarget → Option String
  | .email address => some address
  | .form _ => none
  | .url href => some href

/-- The form that a link has still to be minted for. -/
def slug? : LinkTarget → Option String
  | .form slug => some slug
  | _ => none

theorem eq_form_of_slug? {t : LinkTarget} {slug : String} (h : t.slug? = some slug) :
    t = .form slug := by
  cases t with
  | form s => exact congrArg form (Option.some.inj h)
  | email _ | url _ => cases h

end LinkTarget

/-- The form of a link that a visit has left open. -/
def Resolution.form? : Resolution → Option String
  | .resolved => none
  | .deferred form => some form

namespace Visit

/-- The error that a visit has ended in. -/
def error? (v : Visit) : Option DirectiveError :=
  match v.outcome with
  | .error e => some e
  | .ok _ => none

/-- The form of the link that a visit has left open. -/
def form? (v : Visit) : Option String :=
  match v.outcome with
  | .ok (some resolution) => resolution.form?
  | _ => none

theorem error?_eq_none_iff {v : Visit} : v.error? = none ↔ ∃ r, v.outcome = .ok r := by
  unfold error?
  cases v.outcome <;> simp

end Visit

namespace Filling

@[simp] theorem element_ofTarget (t : LinkTarget) : (ofTarget t).element = .anchor t.href := by
  cases t <;> rfl

@[simp] theorem label_ofTarget (t : LinkTarget) : (ofTarget t).label = t.label? := by
  cases t <;> rfl

@[simp] theorem form?_ofTarget (t : LinkTarget) : (ofTarget t).resolution.form? = t.slug? := by
  cases t <;> rfl

/-- What a directive is filled in with when it shows a text and nothing else. -/
def ShowsText (f : Filling) (text : String) : Prop :=
  f.element = .span text ∧ f.label = none ∧ f.resolution = .resolved

theorem showsText_ofText (text : String) : (ofText text).ShowsText text := ⟨rfl, rfl, rfl⟩

theorem exists_showsText_ofFullName (directive firstName : String) (lastName : Option String) :
    ∃ text, (ofFullName directive firstName lastName).ShowsText text := by
  cases lastName with
  | none => exact ⟨firstName, rfl, rfl, rfl⟩
  | some lastName => exact ⟨firstName ++ " " ++ lastName, rfl, rfl, rfl⟩

end Filling

namespace Directive

variable {c : Context} {n : Node} {f : Filling}

/-- A link is filled in with its target. -/
theorem filling_link (c : Context) (n : Node) :
    Directive.link.filling c n = (n.linkTarget c).map Filling.ofTarget := rfl

/-- Every directive other than a link shows a text. -/
theorem exists_showsText_of_ne_link {d : Directive} (hd : d ≠ .link)
    (h : d.filling c n = .ok f) : ∃ text, f.ShowsText text := by
  cases d with
  | link => exact absurd rfl hd
  | value =>
    simp only [filling, Node.valueFilling] at h
    split at h
    · cases h
    · obtain ⟨pub, -, h⟩ := bind_eq_ok_iff.mp h
      obtain ⟨value, -, h⟩ := bind_eq_ok_iff.mp h
      cases h
      exact ⟨_, Filling.showsText_ofText _⟩
  | assigneeName =>
    obtain ⟨a, -, h⟩ := bind_eq_ok_iff.mp h
    cases h
    exact Filling.exists_showsText_ofFullName ..
  | assigneeFirstName | assigneeLastName =>
    obtain ⟨a, -, h⟩ := bind_eq_ok_iff.mp h
    cases h
    exact ⟨_, Filling.showsText_ofText _⟩
  | recipientName =>
    cases h
    exact Filling.exists_showsText_ofFullName ..
  | recipientFirstName | recipientLastName =>
    cases h
    exact ⟨_, Filling.showsText_ofText _⟩

/-- What a directive is filled in with depends on its name and its attributes only. -/
theorem filling_congr {m : Node} (name : m.name = n.name)
    (attributes : m.attributes = n.attributes) (d : Directive) (c : Context) :
    d.filling c m = d.filling c n := by
  have written : m.writtenName = n.writtenName := by rw [Node.writtenName, Node.writtenName, name]
  -- both are like `n` and written with its name
  have itself : n.Respelt (fun _ => n.writtenName) n := ⟨rfl, rfl⟩
  have same : n.Respelt (fun _ => n.writtenName) m := ⟨attributes, written⟩
  rw [same.filling, ← itself.filling]

end Directive

namespace Node

variable {c : Context} {n m : Node}

/-- A link: a directive that is named so, in capital or small ASCII letters. -/
def IsLink (n : Node) : Prop :=
  n.isDirective = true ∧ Text.lowerAscii n.writtenName = ['l', 'i', 'n', 'k']

instance (n : Node) : Decidable n.IsLink := inferInstanceAs (Decidable (_ ∧ _))

theorem isLink_iff : n.IsLink ↔ n.isDirective = true ∧ Directive.ofName? n.writtenName = some .link := by
  rw [Directive.ofName?_eq_some_iff]
  rfl

/-- The form of a link that has no target yet: a link without an address that names a form. -/
def openForm? (n : Node) : Option String :=
  if n.IsLink ∧ n.attribute? "email" = none then n.attribute? "form" else none

theorem openForm?_eq_some_iff {form : String} :
    n.openForm? = some form ↔
      n.IsLink ∧ n.attribute? "email" = none ∧ n.attribute? "form" = some form := by
  simp [openForm?, and_assoc]

/-- A directive is about the parent iff it says so. -/
theorem relation_eq_parent_iff : n.relation = .parent ↔ n.attribute? "rel" = some "parent" := by
  rw [relation]
  split <;> simp_all

/-! ### The target of a link -/

theorem filledAttribute?_of_none {key : String} (h : n.attribute? key = none) :
    n.filledAttribute? key = .ok none := by
  rw [filledAttribute?, h]

theorem filledAttribute?_of_some {key value : String} (h : n.attribute? key = some value)
    (filled : value ≠ "") : n.filledAttribute? key = .ok (some value) := by
  simp [filledAttribute?, h, filled]

/-- Without an address the form decides. -/
theorem linkTarget_of_form {form : String} (email : n.attribute? "email" = none)
    (h : n.attribute? "form" = some form) (filled : form ≠ "") :
    n.linkTarget c = .ok (.form form) := by
  rw [linkTarget, filledAttribute?_of_none email, filledAttribute?_of_some h filled]
  rfl

/-- A form without a name is refused. -/
theorem linkTarget_of_form_empty (email : n.attribute? "email" = none)
    (h : n.attribute? "form" = some "") :
    n.linkTarget c = .error (.missingAttribute n.writtenName "form") := by
  rw [linkTarget, filledAttribute?_of_none email]
  simp [filledAttribute?, h, bind, Except.bind]

/-- An attribute that must not be empty is filled if it has been read. -/
theorem ne_empty_of_filledAttribute? {key value : String}
    (h : n.filledAttribute? key = .ok (some value)) :
    n.attribute? key = some value ∧ value ≠ "" := by
  cases ha : n.attribute? key with
  | none => simp [filledAttribute?, ha] at h
  | some written =>
    by_cases empty : written = ""
    · simp [filledAttribute?, ha, empty] at h
    · rw [filledAttribute?_of_some ha empty] at h
      simp only [Except.ok.injEq, Option.some.injEq] at h
      exact ⟨congrArg some h, h ▸ empty⟩

theorem none_of_filledAttribute? {key : String} (h : n.filledAttribute? key = .ok none) :
    n.attribute? key = none := by
  cases ha : n.attribute? key with
  | none => rfl
  | some written =>
    simp only [filledAttribute?, ha] at h
    split at h <;> simp at h

/-- A link leads to a form iff it has no address and names the form. -/
theorem linkTarget_eq_form_iff {form : String} :
    n.linkTarget c = .ok (.form form) ↔
      n.attribute? "email" = none ∧ n.attribute? "form" = some form ∧ form ≠ "" := by
  constructor
  · intro h
    -- the attributes are read in their order; the first that is there decides
    obtain ⟨email?, email, h⟩ := bind_eq_ok_iff.mp h
    cases email? with
    | some address =>
      obtain ⟨address', -, h⟩ := bind_eq_ok_iff.mp h
      cases h
    | none =>
      obtain ⟨form?, named, h⟩ := bind_eq_ok_iff.mp h
      cases form? with
      | some named_form =>
        cases h
        exact ⟨none_of_filledAttribute? email, ne_empty_of_filledAttribute? named⟩
      | none =>
        obtain ⟨to?, -, h⟩ := bind_eq_ok_iff.mp h
        cases to? with
        | some url => cases h
        | none =>
          obtain ⟨field?, -, h⟩ := bind_eq_ok_iff.mp h
          cases field? with
          | some field =>
            obtain ⟨url, -, h⟩ := bind_eq_ok_iff.mp h
            cases h
          | none => cases h
  · rintro ⟨email, named, filled⟩
    exact linkTarget_of_form email named filled

/-! ### Visits -/

/-- Nodes that have been written alike: they differ at most in their children and in what a
rendering notes. -/
structure SameSource (n m : Node) : Prop where
  kind : m.kind = n.kind
  name : m.name = n.name
  attributes : m.attributes = n.attributes
  value : m.value = n.value
  others : m.others = n.others
  dataOthers : m.dataOrBlank.others = n.dataOrBlank.others
  otherProperties : m.dataOrBlank.otherProperties = n.dataOrBlank.otherProperties

theorem SameSource.refl (n : Node) : n.SameSource n := ⟨rfl, rfl, rfl, rfl, rfl, rfl, rfl⟩

theorem SameSource.trans {k : Node} (h : k.SameSource n) (h' : n.SameSource m) :
    k.SameSource m where
  kind := h'.kind.trans h.kind
  name := h'.name.trans h.name
  attributes := h'.attributes.trans h.attributes
  value := h'.value.trans h.value
  others := h'.others.trans h.others
  dataOthers := h'.dataOthers.trans h.dataOthers
  otherProperties := h'.otherProperties.trans h.otherProperties

theorem sameSource_labelWith (n : Node) (label : Option String) :
    n.SameSource (n.labelWith label) := by
  cases label with
  | none => exact .refl n
  | some text =>
    rw [labelWith, Node.label]
    split
    · exact ⟨rfl, rfl, rfl, rfl, rfl, rfl, rfl⟩
    · exact .refl n

/-- A label becomes the only child of a node that gets it. -/
theorem children_labelWith (h : n.hasNoChildren = true) (text : String) :
    (n.labelWith (some text)).children = some [.text text] := by
  rw [labelWith, label, if_pos h]

@[simp] theorem data_labelWith (n : Node) (label : Option String) :
    (n.labelWith label).data = n.data := by
  cases label with
  | none => rfl
  | some text =>
    rw [labelWith, Node.label]
    split <;> rfl

@[simp] theorem tag?_labelWith (n : Node) (label : Option String) :
    (n.labelWith label).tag? = n.tag? := by
  rw [tag?, tag?, data_labelWith]

@[simp] theorem dataOrBlank_labelWith (n : Node) (label : Option String) :
    (n.labelWith label).dataOrBlank = n.dataOrBlank := by
  rw [dataOrBlank, dataOrBlank, data_labelWith]

theorem href_dataOrBlank (n : Node) : n.dataOrBlank.href = n.href? := by
  rw [dataOrBlank, href?]
  cases n.data <;> rfl

theorem emit?_of_fresh (h : n.tag? = none) (e : Element) :
    n.emit? e = some { n with data := some (n.dataOrBlank.withElement e) } := by
  rw [emit?, h]
  rfl

theorem sameSource_emit? {e : Element} (h : n.emit? e = some m) : n.SameSource m := by
  rw [emit?] at h
  split at h
  · cases h
  · cases h
    exact ⟨rfl, rfl, rfl, rfl, rfl, rfl, rfl⟩

/-- What any visit does to its node, whether it succeeds or not. It leaves the node alone, or it
gives it a label and notes an element, which is refused if there is one already. -/
theorem node_fill_cases (c : Context) (n : Node) :
    (n.fill c).node = n ∨
    (∃ f : Filling, (n.labelWith f.label).emit? f.element = some (n.fill c).node ∧
      (n.fill c).outcome = .ok (some f.resolution)) ∨
    ∃ f : Filling, (n.labelWith f.label).emit? f.element = none ∧
      (n.fill c).node = n.labelWith f.label := by
  cases isDirective : n.isDirective with
  | false =>
    left
    rw [fill_of_not_directive isDirective]
  | true =>
    rw [fill, if_pos isDirective]
    cases Directive.ofName? n.writtenName with
    | none => exact .inl rfl
    | some d =>
      cases filled : d.filling c n with
      | error e => left; simp only [filled]
      | ok f =>
        right
        cases noted : (n.labelWith f.label).emit? f.element with
        | some m => exact .inl ⟨f, by simp [filled, withFilling, noted]⟩
        | none => exact .inr ⟨f, noted, by simp [filled, withFilling, noted]⟩

/-- No visit touches what its node has been written with, whether it succeeds or not. -/
theorem sameSource_fill (c : Context) (n : Node) : n.SameSource (n.fill c).node := by
  rcases node_fill_cases c n with same | ⟨f, noted, -⟩ | ⟨f, -, labelled⟩
  · rw [same]
    exact .refl n
  · exact (sameSource_labelWith n f.label).trans (sameSource_emit? noted)
  · rw [labelled]
    exact sameSource_labelWith n f.label

/-- A directive that is filled in gets its label if it needs one, and its element is noted. -/
theorem withFilling_of_ok {f : Filling} {r : Option Resolution}
    (h : (n.withFilling f).outcome = .ok r) :
    n.tag? = none ∧ r = some f.resolution ∧
      (n.withFilling f).node =
        { n.labelWith f.label with data := some (n.dataOrBlank.withElement f.element) } := by
  cases fresh : n.tag? with
  | some tag =>
    -- an element has been noted before, so no other one is
    have refused : (n.labelWith f.label).emit? f.element = none :=
      emit?_eq_none_iff.mpr (by rw [tag?_labelWith, fresh]; rfl)
    rw [withFilling, refused] at h
    cases h
  | none =>
    have noted := emit?_of_fresh ((tag?_labelWith n f.label).trans fresh) f.element
    rw [withFilling, noted] at h ⊢
    cases h
    exact ⟨rfl, rfl, by rw [dataOrBlank_labelWith]⟩

/-- A directive that has been filled in: its name is known, it had not been rendered, and what it
is filled in with is noted. -/
theorem filling_of_fill {r : Option Resolution} (isDirective : n.isDirective = true)
    (h : (n.fill c).outcome = .ok r) :
    ∃ d f, Directive.ofName? n.writtenName = some d ∧ d.filling c n = .ok f ∧ n.tag? = none ∧
      r = some f.resolution ∧
      (n.fill c).node =
        { n.labelWith f.label with data := some (n.dataOrBlank.withElement f.element) } := by
  rw [fill, if_pos isDirective] at h ⊢
  split at h
  · cases h
  · rename_i d named
    split at h
    · cases h
    · rename_i f filled
      obtain ⟨fresh, rfl, node⟩ := withFilling_of_ok h
      exact ⟨d, f, named, filled, fresh, rfl, node⟩

/-- A directive that cannot be filled in stays as it is. -/
theorem fill_of_filling_error {d : Directive} {e : DirectiveError}
    (isDirective : n.isDirective = true) (named : Directive.ofName? n.writtenName = some d)
    (h : d.filling c n = .error e) : (n.fill c).outcome = .error e ∧ (n.fill c).node = n := by
  rw [fill, if_pos isDirective, named]
  dsimp only
  rw [h]
  exact ⟨rfl, rfl⟩

/-- What a directive is filled in with is noted on it unless it has been rendered. -/
theorem fill_of_filling_ok {d : Directive} {f : Filling} (isDirective : n.isDirective = true)
    (named : Directive.ofName? n.writtenName = some d) (fresh : n.tag? = none)
    (h : d.filling c n = .ok f) :
    (n.fill c).outcome = .ok (some f.resolution) ∧
      (n.fill c).node =
        { n.labelWith f.label with data := some (n.dataOrBlank.withElement f.element) } := by
  have noted := emit?_of_fresh ((tag?_labelWith n f.label).trans fresh) f.element
  rw [fill, if_pos isDirective, named]
  dsimp only
  rw [h]
  dsimp only
  rw [withFilling, noted, dataOrBlank_labelWith]
  exact ⟨rfl, rfl⟩

/-- An element is refused by a node that has one, but the node has got its label by then. -/
theorem fill_of_noted {d : Directive} {f : Filling} (isDirective : n.isDirective = true)
    (named : Directive.ofName? n.writtenName = some d) (filled : d.filling c n = .ok f)
    (noted : n.tag? ≠ none) :
    (n.fill c).outcome = .error (.invalidDirective n.writtenName .alreadyRendered) ∧
      (n.fill c).node = n.labelWith f.label := by
  have refused : (n.labelWith f.label).emit? f.element = none :=
    emit?_eq_none_iff.mpr (by rw [tag?_labelWith]; exact Option.isSome_iff_ne_none.mpr noted)
  rw [fill, if_pos isDirective, named]
  simp only [filled, withFilling, refused]
  exact ⟨trivial, trivial⟩

/-- A link that has been filled in leads to its target. -/
theorem link_of_fill {r : Option Resolution} (isLink : n.IsLink)
    (h : (n.fill c).outcome = .ok r) :
    ∃ target, n.linkTarget c = .ok target ∧ n.tag? = none ∧
      r = some (Filling.ofTarget target).resolution ∧
      (n.fill c).node =
        { n.labelWith target.label? with
          data := some (n.dataOrBlank.withElement (.anchor target.href)) } := by
  obtain ⟨isDirective, isLink⟩ := isLink_iff.mp isLink
  obtain ⟨d, f, named, filled, fresh, rfl, node⟩ := filling_of_fill isDirective h
  obtain rfl : Directive.link = d := Option.some.inj (isLink.symm.trans named)
  rw [Directive.filling_link] at filled
  cases ht : n.linkTarget c with
  | error e =>
    rw [ht] at filled
    cases filled
  | ok target =>
    rw [ht] at filled
    cases filled
    rw [Filling.element_ofTarget, Filling.label_ofTarget] at node
    exact ⟨target, rfl, fresh, rfl, node⟩

/-- Any other directive that has been filled in shows a text. -/
theorem text_of_fill {r : Option Resolution} (isDirective : n.isDirective = true)
    (notLink : ¬ n.IsLink) (h : (n.fill c).outcome = .ok r) :
    ∃ text, n.tag? = none ∧ r = some .resolved ∧
      (n.fill c).node =
        { n with data := some (n.dataOrBlank.withElement (.span text)) } := by
  obtain ⟨d, f, named, filled, fresh, rfl, node⟩ := filling_of_fill isDirective h
  have hd : d ≠ .link := by
    rintro rfl
    exact notLink (isLink_iff.mpr ⟨isDirective, named⟩)
  obtain ⟨text, element, label, resolution⟩ := Directive.exists_showsText_of_ne_link hd filled
  rw [element, label] at node
  exact ⟨text, fresh, congrArg some resolution, node⟩

/-- A successful visit, case by case. -/
theorem fill_cases {r : Option Resolution} (h : (n.fill c).outcome = .ok r) :
    (n.isDirective = false ∧ r = none ∧ (n.fill c).node = n) ∨
      (n.IsLink ∧ ∃ target, n.linkTarget c = .ok target ∧ n.tag? = none ∧
        r = some (Filling.ofTarget target).resolution ∧
        (n.fill c).node =
          { n.labelWith target.label? with
            data := some (n.dataOrBlank.withElement (.anchor target.href)) }) ∨
      (n.isDirective = true ∧ ¬ n.IsLink ∧ ∃ text, n.tag? = none ∧ r = some .resolved ∧
        (n.fill c).node =
          { n with data := some (n.dataOrBlank.withElement (.span text)) }) := by
  cases isDirective : n.isDirective with
  | false =>
    rw [fill_of_not_directive isDirective] at h ⊢
    cases h
    exact .inl ⟨rfl, rfl, rfl⟩
  | true =>
    by_cases isLink : n.IsLink
    · exact .inr (.inl ⟨isLink, link_of_fill isLink h⟩)
    · exact .inr (.inr ⟨rfl, isLink, text_of_fill isDirective isLink h⟩)

/-! ### Links that stay open -/

/-- The form of an open link can be read off its target. -/
theorem openForm?_of_linkTarget {target : LinkTarget} (isLink : n.IsLink)
    (h : n.linkTarget c = .ok target) : n.openForm? = target.slug? := by
  cases hs : target.slug? with
  | some slug =>
    obtain rfl := LinkTarget.eq_form_of_slug? hs
    obtain ⟨email, form, -⟩ := linkTarget_eq_form_iff.mp h
    exact openForm?_eq_some_iff.mpr ⟨isLink, email, form⟩
  | none =>
    -- a form without a name is refused, any other one would be the target
    apply Option.eq_none_iff_forall_ne_some.mpr
    intro slug named
    obtain ⟨-, email, form⟩ := openForm?_eq_some_iff.mp named
    by_cases empty : slug = ""
    · rw [linkTarget_of_form_empty email (empty ▸ form)] at h
      cases h
    · rw [linkTarget_of_form email form empty] at h
      cases h
      cases hs

/-- A successful visit leaves a link open iff it is a link to a form. -/
theorem form?_fill {r : Option Resolution} (h : (n.fill c).outcome = .ok r) :
    (n.fill c).form? = n.openForm? := by
  rw [Visit.form?, h]
  rcases fill_cases h with ⟨plain, rfl, -⟩ | ⟨isLink, target, ht, -, rfl, -⟩ |
    ⟨-, notLink, text, -, rfl, -⟩
  · have notLink : ¬ n.IsLink := fun isLink => by simp [isLink.1] at plain
    exact (if_neg fun h => notLink h.1).symm
  · rw [openForm?_of_linkTarget isLink ht]
    exact Filling.form?_ofTarget target
  · exact (if_neg fun h => notLink h.1).symm

end Node

end MailMerge
