import MailMerge.Proofs.Render.Walk

/-!
# What a walk asks of its context

The directives of a document ask for the names of the recipient, for assignees, and for the fields
that they name. Only a directive with `rel` set to `parent` asks for anything of the parent
publication. Contexts that agree on what the directives of a document ask for cannot be told apart
by a walk over it: it leaves the same document and finds the same, or it fails in the same way.

## Main definitions

* `Pub.AgreesOn`, `Context.AgreesOn`: agreement on what can be asked for.
* `Node.MentionsField`, `Node.MentionsParent`: what the directives of a document ask for.

## Main results

* `fill_eq_of_agreesOn`: a visit only asks for what its directive mentions.
* `walkAt_eq_of_fill_eq`: a walk is determined by its visits.
* `walk_eq_of_mentions`: a walk only asks for what the directives of the document mention.
-/

namespace MailMerge

/-- Publications that agree on their assignee and on some of the fields. -/
structure Pub.AgreesOn (fields : String → Prop) (p q : Pub) : Prop where
  assignee : q.assignee = p.assignee
  values : ∀ field, fields field → q.value? field = p.value? field

/-- Contexts that agree on the names of the recipient, on the assignee and some fields of the
publication, and, if `parent` holds, likewise on the parent publication or on there being none. -/
structure Context.AgreesOn (fields : String → Prop) (parent : Prop) (c d : Context) : Prop where
  firstName : d.recipient.user.firstName = c.recipient.user.firstName
  lastName : d.recipient.user.lastName = c.recipient.user.lastName
  own : c.pub.AgreesOn fields d.pub
  parentPub : parent → Option.Rel (Pub.AgreesOn fields) c.parentPub d.parentPub

/-- Less is asked for, so agreement is easier. -/
theorem Context.AgreesOn.mono {fields fields' : String → Prop} {parent parent' : Prop}
    {c d : Context} (h : c.AgreesOn fields parent d) (fewer : ∀ field, fields' field → fields field)
    (weaker : parent' → parent) : c.AgreesOn fields' parent' d where
  firstName := h.firstName
  lastName := h.lastName
  own := ⟨h.own.assignee, fun field asked => h.own.values field (fewer field asked)⟩
  parentPub asked := by
    have agree := h.parentPub (weaker asked)
    generalize c.parentPub = p, d.parentPub = q at agree
    cases agree with
    | none => exact .none
    | some agree =>
      exact .some ⟨agree.assignee, fun field asked => agree.values field (fewer field asked)⟩

theorem Pub.AgreesOn.refl {fields : String → Prop} (p : Pub) : p.AgreesOn fields p :=
  ⟨rfl, fun _ _ => rfl⟩

namespace Node

/-- Some directive of the document names the field. -/
def MentionsField (tree : Node) (field : String) : Prop :=
  ∃ n ∈ tree.directives, n.attribute? "field" = some field

/-- Some directive of the document is about the parent publication. -/
def MentionsParent (tree : Node) : Prop :=
  ∃ n ∈ tree.directives, n.attribute? "rel" = some "parent"

variable {c d : Context} {n : Node}

/-! ## One directive -/

/-- Contexts that agree on what the attributes of a node ask for. -/
abbrev AgreeFor (n : Node) (c d : Context) : Prop :=
  c.AgreesOn (fun field => n.attribute? "field" = some field) (n.attribute? "rel" = some "parent") d

/-- Contexts that agree for a node offer it alike publications, or refuse it in the same way. A
parent is only looked for if the node asks for one. -/
theorem pubFor_of_agreeFor (h : n.AgreeFor c d) {relation : Relation}
    (asked : relation = .parent → n.attribute? "rel" = some "parent") :
    (∃ e, n.pubFor c relation = .error e ∧ n.pubFor d relation = .error e) ∨
      ∃ p q, n.pubFor c relation = .ok p ∧ n.pubFor d relation = .ok q ∧
        p.AgreesOn (fun field => n.attribute? "field" = some field) q := by
  cases relation with
  | own => exact .inr ⟨c.pub, d.pub, rfl, rfl, h.own⟩
  | parent =>
    have agree := h.parentPub (asked rfl)
    simp only [pubFor, Context.pub?]
    generalize c.parentPub = p?, d.parentPub = q? at agree
    cases agree with
    | none => exact .inl ⟨_, rfl, rfl⟩
    | some agree => exact .inr ⟨_, _, rfl, rfl, agree⟩

theorem assignee_of_agreeFor (h : n.AgreeFor c d) : n.assignee c = n.assignee d := by
  rcases pubFor_of_agreeFor h relation_eq_parent_iff.mp with
    ⟨e, hc, hd⟩ | ⟨p, q, hc, hd, agree⟩
  · rw [assignee, assignee, hc, hd]
  · simp only [assignee, hc, hd, bind, Except.bind, agree.assignee]

theorem storedValue_of_agreesOn {fields : String → Prop} {p q : Pub} (h : p.AgreesOn fields q)
    {field : String} (asked : fields field) : n.storedValue p field = n.storedValue q field := by
  rw [storedValue, storedValue, h.values field asked]

theorem valueFilling_of_agreeFor (h : n.AgreeFor c d) : n.valueFilling c = n.valueFilling d := by
  cases asked : n.attribute? "field" with
  | none => simp only [valueFilling, asked]
  | some field =>
    rcases pubFor_of_agreeFor h relation_eq_parent_iff.mp with
      ⟨e, hc, hd⟩ | ⟨p, q, hc, hd, agree⟩
    · simp only [valueFilling, asked, hc, hd]
    · simp only [valueFilling, asked, hc, hd, bind, Except.bind,
        storedValue_of_agreesOn (n := n) agree asked]

/-- A link to a field says exactly `parent` or nothing about the publication. -/
theorem strictRelation_eq_parent (h : n.strictRelation = .ok .parent) :
    n.attribute? "rel" = some "parent" := by
  rw [strictRelation] at h
  split at h
  · cases h
  · rename_i rel written
    split at h
    · rename_i eq
      rw [written, eq]
    · cases h

theorem fieldTarget_of_agreeFor (h : n.AgreeFor c d) {field : String}
    (asked : n.attribute? "field" = some field) :
    n.fieldTarget c field = n.fieldTarget d field := by
  cases strict : n.strictRelation with
  | error e => simp only [fieldTarget, strict, bind, Except.bind]
  | ok relation =>
    have parent (eq : relation = .parent) : n.attribute? "rel" = some "parent" :=
      strictRelation_eq_parent (eq ▸ strict)
    rcases pubFor_of_agreeFor h parent with ⟨e, hc, hd⟩ | ⟨p, q, hc, hd, agree⟩
    · simp only [fieldTarget, strict, hc, hd, bind, Except.bind]
    · simp only [fieldTarget, strict, hc, hd, bind, Except.bind,
        storedValue_of_agreesOn (n := n) agree asked]

/-- The target of a link only depends on what its attributes ask for. -/
theorem linkTarget_of_agreeFor (h : n.AgreeFor c d) : n.linkTarget c = n.linkTarget d := by
  have email (address : String) : n.emailAddress c address = n.emailAddress d address := by
    rw [emailAddress, emailAddress, assignee_of_agreeFor h]
  cases named : n.filledAttribute? "field" with
  | error e => simp only [linkTarget, named, email, bind, Except.bind]
  | ok field? =>
    cases field? with
    | none => simp only [linkTarget, named, email, bind, Except.bind]
    | some field =>
      -- only a link that names a field asks for more than an assignee
      obtain ⟨asked, -⟩ := ne_empty_of_filledAttribute? named
      simp only [linkTarget, named, email, bind, Except.bind, fieldTarget_of_agreeFor h asked]

/-- What a directive is filled in with only depends on what it asks for. -/
theorem filling_of_agreeFor (h : n.AgreeFor c d) (directive : Directive) :
    directive.filling c n = directive.filling d n := by
  cases directive with
  | value => exact valueFilling_of_agreeFor h
  | assigneeName | assigneeFirstName | assigneeLastName =>
    simp only [Directive.filling, assignee_of_agreeFor h]
  | recipientName => simp only [Directive.filling, h.firstName, h.lastName]
  | recipientFirstName => simp only [Directive.filling, h.firstName]
  | recipientLastName => simp only [Directive.filling, h.lastName]
  | link => simp only [Directive.filling_link, linkTarget_of_agreeFor h]

/-- A visit only asks for what its directive mentions. -/
theorem fill_eq_of_agreesOn (h : n.isDirective = true → n.AgreeFor c d) :
    n.fill c = n.fill d := by
  cases isDirective : n.isDirective with
  | false => rw [fill_of_not_directive isDirective, fill_of_not_directive isDirective]
  | true =>
    rw [fill, fill, if_pos isDirective, if_pos isDirective]
    cases Directive.ofName? n.writtenName with
    | none => rfl
    | some directive => simp only [filling_of_agreeFor (h isDirective)]

/-! ## A whole document -/

theorem walkAll_eq_of_walkAt_eq {ns : List Node}
    (h : ∀ n ∈ ns, ∀ path, n.walkAt c path = n.walkAt d path) (path : Path) (i : Nat) :
    walkAll c path i ns = walkAll d path i ns := by
  induction ns generalizing i with
  | nil => rfl
  | cons n ns ih =>
    rw [walkAll, walkAll, h n (by simp), ih fun m mem => h m (by simp [mem])]

/-- A walk is determined by its visits. -/
theorem walkAt_eq_of_fill_eq {tree : Node} (path : Path)
    (h : ∀ p n, tree.at? p = some n → n.fill c = n.fill d) :
    tree.walkAt c path = tree.walkAt d path := by
  -- the induction is on the document: a place below a child is one below its node
  induction tree using childInduction generalizing path with
  | step tree ih =>
    have here : tree.fill c = tree.fill d := h [] tree rfl
    cases hn : tree.hasNoChildren with
    | true => rw [walkAt_of_hasNoChildren hn, walkAt_of_hasNoChildren hn, here]
    | false =>
      have below : walkAll c path 0 tree.childList = walkAll d path 0 tree.childList := by
        apply walkAll_eq_of_walkAt_eq
        intro child mem path'
        obtain ⟨k, hk⟩ := List.getElem?_of_mem mem
        apply ih child mem path'
        intro p n hp
        exact h (k :: p) n (by rwa [at?_cons_of_child hk])
      rw [walkAt_of_children hn, walkAt_of_children hn, here, below]

theorem mem_directives {tree n : Node} {p : Path} (hp : tree.at? p = some n)
    (isDirective : n.isDirective = true) : n ∈ tree.directives := by
  rw [tree.directives_eq []]
  exact List.mem_map.mpr ⟨(p, n), List.mem_filter.mpr ⟨mem_places.mpr hp, isDirective⟩, rfl⟩

/-- Contexts that agree on what a document mentions agree for each of its directives. -/
theorem walk_eq_of_agreesOn {tree : Node}
    (h : c.AgreesOn tree.MentionsField tree.MentionsParent d) : tree.walk c = tree.walk d := by
  apply walkAt_eq_of_fill_eq
  intro p n hp
  apply fill_eq_of_agreesOn
  intro isDirective
  have mem := mem_directives hp isDirective
  exact h.mono (fun field named => ⟨n, mem, named⟩) fun parent => ⟨n, mem, parent⟩

/-- **A walk only asks for what the directives of the document mention.** Contexts that agree on
the names of the recipient, on the assignee and the mentioned fields of the publication, and
likewise on the parent publication if a directive is about it, give the same walk: the same
document, the same findings or the same failure, and the same notices. So nothing comes of the ids,
of the address of the recipient, of the community, of other fields, nor of a parent publication that
no directive is about. -/
theorem walk_eq_of_mentions (tree : Node) :
    (∀ c d : Context, c.AgreesOn tree.MentionsField tree.MentionsParent d →
      tree.walk c = tree.walk d) ∧
    (∀ (c : Context) (member user email community pub parent : String),
      tree.walk { c with
        recipient.id := member, recipient.user.id := user, recipient.user.email := email
        communitySlug := community, pub.id := pub
        parentPub := c.parentPub.map fun p => { p with id := parent } } = tree.walk c) ∧
    (∀ (c : Context) (values : Dict Json),
      (∀ field, tree.MentionsField field → values.get? field = c.pub.values.get? field) →
        tree.walk { c with pub.values := values } = tree.walk c) ∧
    ∀ (c : Context) (parent : Option Pub), ¬ tree.MentionsParent →
      tree.walk { c with parentPub := parent } = tree.walk c := by
  refine ⟨fun c d h => walk_eq_of_agreesOn h, fun c member user email community pub parent => ?_,
    fun c values same => ?_, fun c parent unasked => ?_⟩
  · symm
    apply walk_eq_of_agreesOn
    refine ⟨rfl, rfl, ⟨rfl, fun _ _ => rfl⟩, fun _ => ?_⟩
    cases c.parentPub with
    | none => exact .none
    | some p => exact .some ⟨rfl, fun _ _ => rfl⟩
  · symm
    apply walk_eq_of_agreesOn
    refine ⟨rfl, rfl, ⟨rfl, same⟩, fun _ => ?_⟩
    cases c.parentPub with
    | none => exact .none
    | some p => exact .some (.refl p)
  · symm
    apply walk_eq_of_agreesOn
    exact ⟨rfl, rfl, .refl _, fun asked => absurd asked unasked⟩

/-- A notice that names one field. -/
def notice : Node :=
  .root [.inlineDirective "value" [("field", "croccroc:title")],
    .inlineDirective "recipientName" []]

/-- The default context for another member and another community, with one more field and with a
parent. -/
def elsewhere : Context :=
  { (Context.sample.withValues [("croccroc:draft", .bool true)]).withParentValues
      [("croccroc:title", .string "Another Pub")] with
    recipient.id := "member-eva"
    communitySlug := "elsewhere" }

theorem walk_eq_of_mentions_notice :
    Context.sample.AgreesOn notice.MentionsField notice.MentionsParent elsewhere ∧
      ¬ notice.MentionsParent ∧
      notice.walk .sample = notice.walk elsewhere ∧
      notice.walk { Context.sample with pub.values := elsewhere.pub.values } =
        notice.walk .sample ∧
      notice.walk { Context.sample with parentPub := elsewhere.parentPub } =
        notice.walk .sample := by
  have listed (n : Node) (mem : n ∈ notice.directives) :
      n = inlineDirective "value" [("field", "croccroc:title")] ∨
        n = inlineDirective "recipientName" [] := by
    simpa using (show n ∈ [inlineDirective "value" [("field", "croccroc:title")],
      inlineDirective "recipientName" []] from mem)
  have same (field : String) (h : notice.MentionsField field) :
      elsewhere.pub.values.get? field = Context.sample.pub.values.get? field := by
    obtain ⟨n, mem, named⟩ := h
    rcases listed n mem with rfl | rfl
    · rw [← Option.some.inj named]
      rfl
    · cases named
  have noParent : ¬ notice.MentionsParent := by
    rintro ⟨n, mem, rel⟩
    rcases listed n mem with rfl | rfl <;> cases rel
  have agree : Context.sample.AgreesOn notice.MentionsField notice.MentionsParent elsewhere :=
    ⟨rfl, rfl, ⟨rfl, same⟩, fun asked => absurd asked noParent⟩
  obtain ⟨agreeing, -, values, parent⟩ := walk_eq_of_mentions notice
  exact ⟨agree, noParent, agreeing _ _ agree, values _ _ same, parent _ _ noParent⟩

end Node

end MailMerge
