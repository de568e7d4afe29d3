import MailMerge.Proofs.Directive.Failed
import MailMerge.Proofs.Directive.Report
import MailMerge.Proofs.Text.EditDistance
import MailMerge.Proofs.Text.Lowercase

/-!
# Suggestions for misspelt names

The suggestion for a name is the directive that the least number of edits leads to, the first one in
the order of the directives. A distance of zero does not count, since it is meant to be the name
itself. But a name that is recognised can still be near to the name of another directive: first and
last names are three edits apart, so each of the two is suggested for the other. And the distance
ignores the case of all letters while recognition ignores it in ASCII letters only, so there is one
letter, the sign for kelvin, with which a name is neither recognised nor misspelt.

## Main definitions

* `Directive.Near`, `Directive.Suggested`: the directives in question, and the one that is suggested.
* `Directive.twin?`: the directive that is near to another one.

## Main results

* `suggestion?_eq_some_iff`: what is suggested.
* `suggestion?_of_recognized`: what is suggested for a name that is recognised.
* `kelvin_of_distance_eq_zero`: the names at no distance that are not recognised.
* `suggestion_exact`: all of it together.
-/

namespace MailMerge

namespace Directive

variable {name : String} {d e : Directive}

/-! ## The nearest one -/

theorem nearest?_eq_none_iff {cs : List (Directive × Nat)} : nearest? cs = none ↔ cs = [] := by
  cases cs with
  | nil => exact ⟨fun _ => rfl, fun _ => rfl⟩
  | cons c cs =>
    refine ⟨fun h => ?_, nofun⟩
    rw [nearest?] at h
    cases rest : nearest? cs <;> simp [rest] at h

/-- The nearest of some directives: those in front of it are farther away, and those behind it are
not nearer. -/
theorem exists_of_nearest? {cs : List (Directive × Nat)} {c : Directive × Nat}
    (h : nearest? cs = some c) : ∃ before behind, cs = before ++ c :: behind ∧
      (∀ b ∈ before, c.2 < b.2) ∧ ∀ b ∈ behind, c.2 ≤ b.2 := by
  induction cs generalizing c with
  | nil => cases h
  | cons first cs ih =>
    rw [nearest?] at h
    cases rest : nearest? cs with
    | none =>
      obtain rfl := nearest?_eq_none_iff.mp rest
      rw [rest] at h
      cases h
      exact ⟨[], [], rfl, nofun, nofun⟩
    | some best =>
      obtain ⟨before, behind, rfl, farther, later⟩ := ih rest
      rw [rest] at h
      dsimp only at h
      split at h
      · rename_i lt
        cases h
        exact ⟨first :: before, behind, rfl, List.forall_mem_cons.mpr ⟨lt, farther⟩, later⟩
      · -- on equal terms the first one stays
        rename_i le
        cases h
        refine ⟨[], _, rfl, nofun, fun b mem => ?_⟩
        rcases List.mem_append.mp mem with mem | mem
        · exact (Nat.le_of_not_lt le).trans (farther b mem).le
        · rcases List.mem_cons.mp mem with rfl | mem
          · exact Nat.le_of_not_lt le
          · exact (Nat.le_of_not_lt le).trans (later b mem)

/-! ## What is suggested -/

section Nearest

-- how far the directives are away from a text
variable {away : Directive → Nat}

/-- One directive stands before another in the list of all. -/
def Earlier (d e : Directive) : Prop := all.idxOf d < all.idxOf e

/-- A directive whose name is near, but not the same. -/
def Near (away : Directive → Nat) (d : Directive) : Prop :=
  0 < away d ∧ away d ≤ greatestDistance

/-- The directive that is suggested: the first of the nearest ones. -/
structure Suggested (away : Directive → Nat) (d : Directive) : Prop where
  near : Near away d
  least : ∀ e, Near away e → away d ≤ away e
  first : ∀ e, Near away e → e.Earlier d → away d < away e

theorem mem_all (d : Directive) : d ∈ all := by
  cases d <;> decide

theorem earlier_or_eq_or_earlier (d e : Directive) : d.Earlier e ∨ d = e ∨ e.Earlier d := by
  rcases lt_trichotomy (all.idxOf d) (all.idxOf e) with lt | eq | gt
  · exact .inl lt
  · exact .inr (.inl ((List.idxOf_inj (mem_all d)).mp eq))
  · exact .inr (.inr gt)

theorem pairwise_earlier : all.Pairwise Earlier := by
  unfold Earlier
  decide

/-- There is one suggestion at most. -/
theorem Suggested.unique (hd : Suggested away d) (he : Suggested away e) : d = e := by
  -- both are at the same distance, so neither can stand before the other
  have same := (hd.least e he.near).antisymm (he.least d hd.near)
  rcases earlier_or_eq_or_earlier d e with lt | eq | gt
  · exact absurd (he.first d hd.near lt) same.not_gt
  · exact eq
  · exact absurd (hd.first e he.near gt) same.not_lt

/-- The directives in question with their distances. -/
def candidates (away : Directive → Nat) : List (Directive × Nat) :=
  (all.map fun d => (d, away d)).filter fun c => 0 < c.2 && c.2 ≤ greatestDistance

theorem mem_candidates {c : Directive × Nat} :
    c ∈ candidates away ↔ c.2 = away c.1 ∧ Near away c.1 := by
  rw [candidates, List.mem_filter, List.mem_map, Near]
  constructor
  · rintro ⟨⟨d, -, rfl⟩, near⟩
    exact ⟨rfl, by simpa using near⟩
  · rintro ⟨eq, near⟩
    exact ⟨⟨c.1, mem_all _, Prod.ext rfl eq.symm⟩, by simpa [eq] using near⟩

theorem pairwise_candidates (away : Directive → Nat) :
    (candidates away).Pairwise fun b c => b.1.Earlier c.1 := by
  have ordered : (all.map fun d => (d, away d)).Pairwise fun b c => b.1.Earlier c.1 :=
    List.pairwise_map.mpr pairwise_earlier
  exact ordered.filter _

theorem suggested_of_nearest? {c : Directive × Nat} (h : nearest? (candidates away) = some c) :
    Suggested away c.1 := by
  obtain ⟨before, behind, eq, farther, later⟩ := exists_of_nearest? h
  have ordered := pairwise_candidates away
  rw [eq, List.pairwise_append] at ordered
  have mem : c ∈ candidates away := eq ▸ List.mem_append_cons_self
  obtain ⟨own, near⟩ := mem_candidates.mp mem
  -- another one in question stands on one side or the other
  have place (e : Directive) (he : Near away e) : (e, away e) ∈ before ∨ e = c.1 ∨
      (e, away e) ∈ behind := by
    have mem : (e, away e) ∈ candidates away := mem_candidates.mpr ⟨rfl, he⟩
    rw [eq, List.mem_append, List.mem_cons] at mem
    exact mem.imp_right (.imp_left (congrArg Prod.fst))
  refine ⟨near, fun e he => ?_, fun e he earlier => ?_⟩
  · rcases place e he with mem | rfl | mem
    · exact own.symm.trans_le (farther _ mem).le
    · exact le_rfl
    · exact own.symm.trans_le (later _ mem)
  · rcases place e he with mem | rfl | mem
    · exact own.symm.trans_lt (farther _ mem)
    · exact absurd earlier (lt_irrefl _)
    · have later := (List.pairwise_cons.mp ordered.2.1).1 _ mem
      exact absurd earlier (lt_asymm later)

theorem nearest?_candidates_eq_none_iff :
    nearest? (candidates away) = none ↔ ∀ d, ¬ Near away d := by
  rw [nearest?_eq_none_iff, List.eq_nil_iff_forall_not_mem]
  constructor
  · intro none d near
    exact none (d, away d) (mem_candidates.mpr ⟨rfl, near⟩)
  · intro far c mem
    exact far c.1 (mem_candidates.mp mem).2

end Nearest

theorem suggestion?_eq (name : String) :
    suggestion? name = (nearest? (candidates (distance name))).map Prod.fst := rfl

/-- Nothing is suggested if no directive is near. -/
theorem suggestion?_eq_none_iff : suggestion? name = none ↔ ∀ d, ¬ Near (distance name) d := by
  rw [suggestion?_eq, Option.map_eq_none_iff, nearest?_candidates_eq_none_iff]

/-- What is suggested is the first of the nearest directives. -/
theorem suggestion?_eq_some_iff : suggestion? name = some d ↔ Suggested (distance name) d := by
  rw [suggestion?_eq]
  cases found : nearest? (candidates (distance name)) with
  | none =>
    have far := nearest?_candidates_eq_none_iff.mp found d
    exact ⟨nofun, fun suggested => absurd suggested.near far⟩
  | some c =>
    have suggested := suggested_of_nearest? found
    rw [Option.map_some, Option.some.injEq]
    exact ⟨fun eq => eq ▸ suggested, suggested.unique⟩

/-! ## Names that are recognised, and names at no distance -/

theorem ascii_name (d : Directive) : ∀ c ∈ d.name.toList, c < '\x80' := by
  cases d <;> simp [name]

theorem ascii_lower_name (d : Directive) : ∀ c ∈ Text.lowerAscii d.name, c < '\x80' := by
  cases d <;> simp [Text.lowerAscii, name]

/-- The only name with the lower-case form of the sign for kelvin. -/
theorem eq_link_of_mem (h : 'k' ∈ Text.lowerAscii d.name) : d = .link := by
  cases d
  case link => rfl
  all_goals simp [Text.lowerAscii, name] at h

/-- A text in the letters of a name is as far from all names as the name is. -/
theorem suggestion?_congr {other : String} (h : Text.lowercase name = Text.lowercase other) :
    suggestion? name = suggestion? other := by
  have same : distance name = distance other := by
    funext d
    rw [distance, distance, h]
  rw [suggestion?_eq, suggestion?_eq, candidates, candidates, same]

theorem lowercase_of_recognized (h : ofName? name = some d) :
    Text.lowercase name = Text.lowercase d.name := by
  have letters := ofName?_eq_some_iff.mp h
  have ascii : ∀ c ∈ name.toList, c < '\x80' := by
    intro c mem
    have lower : c.toLower ∈ Text.lowerAscii d.name := letters ▸ List.mem_map_of_mem mem
    exact Text.lt_of_toLower_lt (ascii_lower_name d _ lower)
  rw [← String.toList_inj, Text.toList_lowercase_of_ascii ascii,
    Text.toList_lowercase_of_ascii (ascii_name d), letters]

/-- First and last names are near to one another. -/
def twin? : Directive → Option Directive
  | .assigneeFirstName => some .assigneeLastName
  | .assigneeLastName => some .assigneeFirstName
  | .recipientFirstName => some .recipientLastName
  | .recipientLastName => some .recipientFirstName
  | .value | .assigneeName | .recipientName | .link => none

theorem suggestion?_name (d : Directive) : suggestion? d.name = d.twin? := by
  cases d <;> decide +kernel

/-- What is suggested for a name that is recognised: the last name for the first one, the first one
for the last one, and nothing for any other directive. -/
theorem suggestion?_of_recognized (h : ofName? name = some d) : suggestion? name = d.twin? := by
  rw [suggestion?_congr (lowercase_of_recognized h), suggestion?_name]

/-- A text at no distance from a name that is not recognised: one of its letters is the sign for
kelvin, so that the name can only be `link`. -/
theorem kelvin_of_distance_eq_zero (unknown : ofName? name = none) (h : distance name d = 0) :
    d = .link ∧ Text.kelvin ∈ name.toList ∧ suggestion? name = none := by
  have same : Text.lowercase name = Text.lowercase d.name :=
    String.toList_inj.mp (Text.editDistance_eq_zero_iff.mp h)
  have lower : Text.lowercaseFrom [] name.toList = Text.lowerAscii d.name := by
    rw [← Text.toList_lowercase_of_ascii (ascii_name d), ← same, Text.lowercase,
      String.toList_ofList]
  have letters : ∀ c ∈ name.toList, c < '\x80' ∨ c = Text.kelvin :=
    Text.ascii_or_kelvin_of_lowercaseFrom (lower ▸ ascii_lower_name d)
  have sign : Text.kelvin ∈ name.toList := by
    by_contra none
    -- without the sign the text has the ASCII letters of the name
    have ascii : ∀ c ∈ name.toList, c < '\x80' := fun c mem =>
      (letters c mem).resolve_right fun eq => none (eq ▸ mem)
    have recognized : ofName? name = some d := by
      rw [ofName?_eq_some_iff, ← Text.toList_lowercase_of_ascii ascii, same,
        Text.toList_lowercase_of_ascii (ascii_name d)]
    rw [unknown] at recognized
    cases recognized
  obtain rfl : d = .link := eq_link_of_mem (lower ▸ Text.mem_lowercaseFrom_of_kelvin sign)
  exact ⟨rfl, sign, (suggestion?_congr same).trans (suggestion?_name .link)⟩

end Directive

/-! ## What users are told -/

/-- The hint that goes with a suggestion. -/
def Directive.hint (d : Directive) : String := "Did you mean ':" ++ d.name ++ "'?"

/-- The hint for a directive that is rejected depends on its name only. -/
theorem Report.suggestion_ofFailure (name : String) (reason : Reason) (doings : List String) :
    (ofFailure (doings.foldr .wrapped (.directive (.invalidDirective name reason)))).suggestion =
      (Directive.suggestion? name).map Directive.hint := by
  simp only [ofFailure_wrapped_directive, ofDirectiveError]
  cases Directive.suggestion? name <;> rfl

namespace Directive

/-- A directive whose visit is rejected is reported with the hint for its name, whatever it was
rejected for. -/
theorem hint_of_fill {c : Context} {n : Node} {named : String} {reason : Reason}
    (isDirective : n.isDirective = true)
    (rejected : (n.fill c).outcome = .error (.invalidDirective named reason))
    (doings : List String) :
    (Report.ofFailure
        (doings.foldr .wrapped (.directive (.invalidDirective named reason)))).suggestion =
      (suggestion? n.writtenName).map hint := by
  have fails := (Node.failsWith_iff isDirective).mpr ⟨rejected, rfl⟩
  obtain rfl : named = n.writtenName := Option.some.inj fails.writtenName?_eq
  exact Report.suggestion_ofFailure ..

/-- **What is suggested for a name.** Distances are least numbers of edits in lower case. The first
of the nearest directives is suggested if it is at most three edits away but not at no distance, and
nothing if there is none like it. For a name that is recognised this is the last name in place of
the first one and the first name in place of the last one, and nothing for all other directives. A
name that is not recognised is at no distance from `link` at most, and only with a sign for kelvin;
nothing is suggested for it then. A visit that rejects the name shows the hint for it, whatever it
is rejected for. -/
theorem suggestion_exact (name : String) :
    (∀ d : Directive, IsLeast
      {k | Text.Edits k (Text.lowercase name).toList (Text.lowercase d.name).toList}
      (distance name d)) ∧
    (∀ d, suggestion? name = some d ↔ Suggested (distance name) d) ∧
    (suggestion? name = none ↔ ∀ d, ¬ Near (distance name) d) ∧
    (∀ d, ofName? name = some d → suggestion? name = d.twin?) ∧
    (ofName? name = none → ∀ d, distance name d = 0 →
      d = .link ∧ Text.kelvin ∈ name.toList ∧ suggestion? name = none) ∧
    ∀ (c : Context) (n : Node) (named : String) (reason : Reason) (doings : List String),
      n.isDirective = true → n.writtenName = name →
      (n.fill c).outcome = .error (.invalidDirective named reason) →
      (Report.ofFailure
        (doings.foldr .wrapped (.directive (.invalidDirective named reason)))).suggestion =
          (suggestion? name).map hint := by
  refine ⟨fun d => Text.isLeast_editDistance _ _, fun d => suggestion?_eq_some_iff,
    suggestion?_eq_none_iff, fun d => suggestion?_of_recognized,
    fun unknown d => kelvin_of_distance_eq_zero unknown, ?_⟩
  rintro c n named reason doings isDirective rfl rejected
  exact hint_of_fill isDirective rejected doings

theorem suggestion_exact_rendered :
    let rendered : Node := { Node.inlineDirective "RecipientFirstName" [] with
      data := some { NodeData.blank with tag := some .span } }
    (rendered.fill .sample).outcome =
        .error (.invalidDirective "RecipientFirstName" .alreadyRendered) ∧
      (Report.ofFailure (.wrapped "Failed to render email.json" (.directive
        (.invalidDirective "RecipientFirstName" .alreadyRendered)))).suggestion =
          some "Did you mean ':recipientLastName'?" ∧
      ofName? "lin\u212a" = none ∧ suggestion? "lin\u212a" = none := by
  intro rendered
  obtain ⟨-, -, -, known, -, told⟩ := suggestion_exact "RecipientFirstName"
  obtain ⟨-, -, -, -, unknown, -⟩ := suggestion_exact "lin\u212a"
  have recognized : ofName? "RecipientFirstName" = some .recipientFirstName := by decide
  have settled : rendered.Settled .sample :=
    ⟨rfl, by decide, .recipientFirstName, _, recognized, rfl, .inl rfl⟩
  have rejected : (rendered.fill .sample).outcome =
      .error (.invalidDirective "RecipientFirstName" .alreadyRendered) := settled.fill.1
  have told := told .sample rendered _ _ ["Failed to render email.json"] rfl rfl rejected
  rw [known .recipientFirstName recognized] at told
  have sign : ofName? "lin\u212a" = none := by decide
  have same : distance "lin\u212a" .link = 0 := by rfl
  exact ⟨rejected, told, sign, (unknown sign .link same).2.2⟩

/-- Something may be suggested for a name that is recognised. -/
theorem not_silent_on_recognized : ¬ ∀ (name : String) (d : Directive),
    ofName? name = some d → suggestion? name = none := by
  intro silent
  have none := silent "assigneeFirstName" .assigneeFirstName (ofName?_name .assigneeFirstName)
  have twin := suggestion?_name .assigneeFirstName
  rw [show name .assigneeFirstName = "assigneeFirstName" from rfl, none] at twin
  cases twin

end Directive

end MailMerge
