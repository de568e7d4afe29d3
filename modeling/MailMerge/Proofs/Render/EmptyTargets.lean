import MailMerge.Proofs.Context.Display
import MailMerge.Proofs.Directive.Links
import MailMerge.Proofs.Render.OpenLinks

/-!
# Links with an empty target

An empty target is meant to mark a link that is still open. An address always has `mailto:` in front
of it, and a plain target that is empty is refused. But a link to a field leads to what the stored
value shows, and this is not looked at: a value that shows nothing makes a link with an empty target
that nobody is going to resolve.

## Main definitions

* `Node.LeadsNowhere`: links to a field that shows nothing.

## Main results

* `LinkTable.href_eq_empty_iff`: the target of a link is empty iff it is open or leads nowhere.
* `FilledIn.href_eq_empty_iff`: nodes with an empty target after a successful walk.
* `walk_emptyTargets`: where a successful walk leaves empty targets.
* `not_marked`: an empty target does not mark the open links.
-/

namespace MailMerge

theorem Relation.written?_injective : Function.Injective Relation.written? := by
  rintro ⟨⟩ ⟨⟩ eq
  · rfl
  · cases eq
  · cases eq
  · rfl

namespace Node

variable {c : Context} {n m : Node}

/-! ## The target of one link -/

/-- A link to a field whose value shows nothing. -/
def LeadsNowhere (c : Context) (n : Node) : Prop :=
  n.IsLink ∧ ∃ field relation pub value, n.firstKey? = some (.field, field) ∧ field ≠ "" ∧
    n.attribute? "rel" = Relation.written? relation ∧ c.pub? relation = some pub ∧
    pub.value? field = some value ∧ value.Blank

/-- A link to a field has no address and names no form. -/
theorem openForm?_of_firstKey? {key : LinkKey} {value : String}
    (first : n.firstKey? = some (key, value)) (other : key ≠ .form) : n.openForm? = none := by
  obtain ⟨present, absent⟩ := firstKey?_eq_some_iff.mp first
  refine Option.eq_none_iff_forall_ne_some.mpr fun slug named => ?_
  obtain ⟨-, email, form⟩ := openForm?_eq_some_iff.mp named
  cases key with
  | email => cases email.symm.trans present
  | form => exact other rfl
  | url | field => cases (absent .form (by decide)).symm.trans form

/-- Open links do not lead nowhere: they are going to lead to a form. -/
theorem LeadsNowhere.openForm?_eq_none (h : n.LeadsNowhere c) : n.openForm? = none := by
  obtain ⟨-, _, _, _, _, first, -⟩ := h
  exact openForm?_of_firstKey? first nofun

/-- Only a field can make a link lead nowhere. -/
theorem not_leadsNowhere {key : LinkKey} {value : String}
    (first : n.firstKey? = some (key, value)) (other : key ≠ .field) : ¬ n.LeadsNowhere c := by
  rintro ⟨-, _, _, _, _, first', -⟩
  cases first.symm.trans first'
  exact other rfl

theorem mailto_ne_empty (address : String) : "mailto:" ++ address ≠ "" := by
  rw [ne_eq, ← String.toList_inj]
  simp

/-- The target of a link is empty iff it is open or leads nowhere. -/
theorem LinkTable.href_eq_empty_iff {target : LinkTarget} (isLink : n.IsLink)
    (h : n.LinkTable c (.ok target)) :
    target.href = "" ↔ (∃ form, n.openForm? = some form) ∨ n.LeadsNowhere c := by
  -- a target that is neither open nor a field must not be empty
  have filled {key : LinkKey} {value : String} (first : n.firstKey? = some (key, value))
      (notForm : key ≠ .form) (notField : key ≠ .field) (ne : target.href ≠ "") :
      target.href = "" ↔ (∃ form, n.openForm? = some form) ∨ n.LeadsNowhere c := by
    refine iff_of_false ne ?_
    rintro (⟨form, named⟩ | nowhere)
    · cases (openForm?_of_firstKey? first notForm).symm.trans named
    · exact not_leadsNowhere first notField nowhere
  cases h with
  | address email first _ _ => exact filled first nofun nofun (mailto_ne_empty email)
  | assignee a first _ => exact filled first nofun nofun (mailto_ne_empty a.email)
  | url href first ne => exact filled first nofun nofun ne
  | form slug first ne =>
    obtain ⟨named, absent⟩ := firstKey?_eq_some_iff.mp first
    refine iff_of_true rfl (.inl ⟨slug, openForm?_eq_some_iff.mpr ⟨isLink, ?_, named⟩⟩)
    exact absent .email (by decide)
  | field field relation text first ne written found =>
    cases found with
    | stored pub value there stored =>
      rw [LinkTarget.href, Json.display_eq_empty_iff]
      constructor
      · intro blank
        exact .inr ⟨isLink, field, relation, pub, value, first, ne, written, there, stored, blank⟩
      · rintro (⟨form, named⟩ | ⟨-, field', relation', pub', value', first', -, written', there',
          stored', blank⟩)
        · cases (openForm?_of_firstKey? first nofun).symm.trans named
        · -- the field, the publication and the value are determined by the link
          cases first.symm.trans first'
          obtain rfl := Relation.written?_injective (written.symm.trans written')
          cases there.symm.trans there'
          cases stored.symm.trans stored'
          exact blank

/-! ## The whole document -/

/-- A node has an empty target after a successful walk iff it is an open link, a link that leads
nowhere, or no link and had an empty target before. -/
theorem FilledIn.href_eq_empty_iff (h : n.FilledIn c m) :
    m.href? = some "" ↔ (∃ form, n.openForm? = some form) ∨ n.LeadsNowhere c ∨
      ¬ n.IsLink ∧ n.href? = some "" := by
  by_cases isLink : n.IsLink
  · obtain ⟨target, ht, -, href, -⟩ := h.link isLink
    rw [href, Option.some.injEq, (linkTable_iff.mpr ht).href_eq_empty_iff isLink]
    simp [isLink]
  · have same : m.href? = n.href? := by
      cases isDirective : n.isDirective with
      | true =>
        obtain ⟨-, -, href, -⟩ := h.text isDirective isLink
        exact href
      | false => rw [href?, href?, (h.plain isDirective).1]
    have closed : ¬ ∃ form, n.openForm? = some form := by
      rintro ⟨form, named⟩
      exact isLink (openForm?_eq_some_iff.mp named).1
    have somewhere : ¬ n.LeadsNowhere c := fun nowhere => isLink nowhere.1
    simp [same, closed, somewhere, isLink]

/-- The open links of a document are listed with their paths. -/
theorem exists_deferred_iff {tree : Node} {found : Found} (h : (tree.walk c).outcome = .ok found)
    (p : Path) : (∃ link ∈ found.deferred, link.path = p) ↔
      ∃ n, tree.at? p = some n ∧ ∃ form, n.openForm? = some form := by
  obtain ⟨ok, rfl⟩ := Walk.outcome_eq_ok_iff.mp h
  rw [found_walk ok]
  constructor
  · rintro ⟨link, mem, rfl⟩
    obtain ⟨n, hp, named⟩ := mem_openLinks.mp mem
    exact ⟨n, mem_places.mp hp, link.form, named⟩
  · rintro ⟨n, hp, form, named⟩
    exact ⟨⟨p, form⟩, mem_openLinks.mpr ⟨n, mem_places.mpr hp, named⟩, rfl⟩

/-- **Where a successful walk leaves empty targets.** There are three kinds of places with an empty
target: open links, links that lead nowhere, and nodes that are no links and had an empty target
before. No open link leads nowhere. So in a document that had no targets and has no link that leads
nowhere, an empty target marks just the open links. -/
theorem walk_emptyTargets {tree : Node} {found : Found} (h : (tree.walk c).outcome = .ok found) :
    (∀ p, (∃ m, (tree.walk c).result.at? p = some m ∧ m.href? = some "") ↔
      (∃ link ∈ found.deferred, link.path = p) ∨
        ∃ n, tree.at? p = some n ∧ (n.LeadsNowhere c ∨ ¬ n.IsLink ∧ n.href? = some "")) ∧
    (∀ link ∈ found.deferred, ∀ n, tree.at? link.path = some n → ¬ n.LeadsNowhere c) ∧
    ((∀ p n, tree.at? p = some n → n.href? = none) →
      (∀ p n, tree.at? p = some n → ¬ n.LeadsNowhere c) →
      ∀ p, (∃ m, (tree.walk c).result.at? p = some m ∧ m.href? = some "") ↔
        ∃ link ∈ found.deferred, link.path = p) := by
  obtain ⟨ok, -⟩ := Walk.outcome_eq_ok_iff.mp h
  have places (p : Path) : (∃ m, (tree.walk c).result.at? p = some m ∧ m.href? = some "") ↔
      (∃ link ∈ found.deferred, link.path = p) ∨
        ∃ n, tree.at? p = some n ∧ (n.LeadsNowhere c ∨ ¬ n.IsLink ∧ n.href? = some "") := by
    rw [exists_deferred_iff h]
    cases hp : tree.at? p with
    | none =>
      -- a new node is a label, and a label has no target
      have unnoted : ¬ ∃ m, (tree.walk c).result.at? p = some m ∧ m.href? = some "" := by
        rintro ⟨m, hm, href⟩
        obtain ⟨-, -, label, -, -, -, rfl⟩ := (new_place_walk_iff ok).mp ⟨hp, hm⟩
        cases href
      simp [unnoted]
    | some n =>
      obtain ⟨m, hm, filled⟩ := exists_filledIn_walk ok hp
      simp [hm, filled.href_eq_empty_iff]
  refine ⟨places, fun link mem n hp nowhere => ?_, fun fresh somewhere p => ?_⟩
  · obtain ⟨n', hp', form, named⟩ := (exists_deferred_iff h link.path).mp ⟨link, mem, rfl⟩
    cases hp.symm.trans hp'
    cases nowhere.openForm?_eq_none.symm.trans named
  · rw [places p, or_iff_left]
    rintro ⟨n, hp, nowhere | ⟨-, href⟩⟩
    · exact somewhere p n hp nowhere
    · cases (fresh p n hp).symm.trans href

/-- A publication that stores an empty text. -/
def silent : Context := .withValues .sample [("croccroc:url", .string "")]

/-- A document with an open link, and a link to a field that may show nothing. -/
def twoLinks : Node :=
  root [inlineDirective "link" [("form", "review")],
    inlineDirective "link" [("field", "croccroc:url")]]

theorem walk_emptyTargets_twoLinks :
    (twoLinks.walk silent).outcome = .ok ⟨2, [⟨[0], "review"⟩]⟩ ∧
      (∃ m, (twoLinks.walk silent).result.at? [1] = some m ∧ m.href? = some "") ∧
      (∀ n, twoLinks.at? [0] = some n → ¬ n.LeadsNowhere silent) := by
  have h : (twoLinks.walk silent).outcome = .ok ⟨2, [⟨[0], "review"⟩]⟩ := rfl
  have nowhere : (inlineDirective "link" [("field", "croccroc:url")]).LeadsNowhere silent :=
    ⟨by decide, "croccroc:url", .own, silent.pub, .string "", rfl, by decide, rfl, rfl, rfl,
      .string⟩
  obtain ⟨places, exclusive, -⟩ := walk_emptyTargets h
  exact ⟨h, (places [1]).mpr (.inr ⟨_, rfl, .inl nowhere⟩),
    exclusive ⟨[0], "review"⟩ List.mem_cons_self⟩

/-- An empty target does not mark the open links, not even in a document without targets. -/
theorem not_marked : ¬ ∀ (c : Context) (tree : Node) (found : Found),
    (∀ p n, tree.at? p = some n → n.href? = none) → (tree.walk c).outcome = .ok found →
      ∀ p m, (tree.walk c).result.at? p = some m →
        (m.href? = some "" ↔ ∃ link ∈ found.deferred, link.path = p) := by
  intro marked
  have fresh : ∀ p n, twoLinks.at? p = some n → n.href? = none := by
    intro p n hp
    have all : ∀ place ∈ twoLinks.places, place.2.href? = none := by
      simp [twoLinks, places, placesAt, placesOfAll, root, inlineDirective, directive, bare, href?]
    exact all (p, n) (mem_places.mpr hp)
  obtain ⟨link, mem, path⟩ :=
    (marked silent twoLinks ⟨2, [⟨[0], "review"⟩]⟩ fresh rfl [1] _ rfl).mp rfl
  obtain rfl := List.mem_singleton.mp mem
  cases path

end Node

end MailMerge
