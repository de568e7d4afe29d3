import MailMerge.Proofs.Tree.Places

/-!
# Document order is lexicographic

One path comes before another in a document exactly if it is less as a list of indices. So any two
paths can be compared, and what stands in the list of all places in front of one of them is what
comes before it.

## Main results

* `before_iff_lt`: document order is the lexicographic order of indices.
* `before_or_eq_or_after`: any two places can be compared.
* `mem_left_iff`: the places in front of a place are those before it.
-/

namespace MailMerge

namespace Path

variable {p q r : Path}

/-- Document order is the lexicographic order of indices. -/
theorem before_iff_lt : p.Before q ↔ p < q := by
  induction p generalizing q with
  | nil =>
    cases q with
    | nil => exact ⟨fun h => absurd rfl h.ne, fun h => absurd h (lt_irrefl _)⟩
    | cons j q => exact ⟨fun _ => List.nil_lt_cons .., fun _ => .inl ⟨j, q, rfl⟩⟩
  | cons i p ih =>
    constructor
    · rintro (⟨k, t, rfl⟩ | ⟨shared, k, l, t, t', lt, hp, rfl⟩)
      · exact List.cons_lt_cons_iff.mpr (.inr ⟨rfl, ih.mp (.inl ⟨k, t, rfl⟩)⟩)
      · -- the paths part at once, or they share their first index
        cases shared with
        | nil =>
          obtain ⟨rfl, rfl⟩ := List.cons.inj hp
          exact List.cons_lt_cons_iff.mpr (.inl lt)
        | cons m shared =>
          obtain ⟨rfl, rfl⟩ := List.cons.inj hp
          exact List.cons_lt_cons_iff.mpr (.inr ⟨rfl, ih.mp (.inr ⟨shared, k, l, t, t', lt, rfl, rfl⟩)⟩)
    · intro h
      cases q with
      | nil => exact absurd h (List.not_lt_nil _)
      | cons j q =>
        rcases List.cons_lt_cons_iff.mp h with first | ⟨rfl, rest⟩
        · exact .inr ⟨[], i, j, p, q, first, rfl, rfl⟩
        · rcases ih.mpr rest with ⟨k, t, rfl⟩ | ⟨shared, k, l, t, t', lt, rfl, rfl⟩
          · exact .inl ⟨k, t, rfl⟩
          · exact .inr ⟨i :: shared, k, l, t, t', lt, rfl, rfl⟩

instance (p q : Path) : Decidable (p.Before q) := decidable_of_iff (p < q) before_iff_lt.symm

theorem Before.asymm (h : p.Before q) : ¬ q.Before p := by
  rw [before_iff_lt] at h ⊢
  exact lt_asymm h

theorem Before.trans (h : p.Before q) (h' : q.Before r) : p.Before r := by
  rw [before_iff_lt] at h h' ⊢
  exact lt_trans h h'

/-- Any two places can be compared. -/
theorem before_or_eq_or_after (p q : Path) : p.Before q ∨ p = q ∨ q.Before p := by
  simp only [before_iff_lt]
  exact lt_trichotomy p q

/-- A path comes before all its extensions. -/
theorem before_append (p : Path) {q : Path} (h : q ≠ []) : p.Before (p ++ q) := by
  cases q with
  | nil => exact absurd rfl h
  | cons i q => exact .inl ⟨i, q, rfl⟩

/-- What lies under an earlier child comes first. -/
theorem before_of_lt (shared : Path) {i j : Nat} (h : i < j) (p q : Path) :
    (shared ++ i :: p).Before (shared ++ j :: q) :=
  .inr ⟨shared, i, j, p, q, h, rfl, rfl⟩

/-- What comes after a place comes with everything that lies below it. -/
theorem Before.append (h : p.Before q) (r : Path) : p.Before (q ++ r) := by
  cases r with
  | nil => rwa [List.append_nil]
  | cons i r => exact h.trans (before_append q (by simp))

end Path

namespace Node

variable {tree n m : Node} {p q : Path} {left right : List (Path × Node)}

/-- In front of a place there are the places before it. -/
theorem mem_left_iff (h : tree.places = left ++ (p, n) :: right) :
    (q, m) ∈ left ↔ tree.at? q = some m ∧ q.Before p := by
  have ordered : tree.places.Pairwise fun x y => x.1.Before y.1 := tree.pairwise_placesAt []
  rw [h, List.pairwise_append] at ordered
  obtain ⟨-, behind, across⟩ := ordered
  rw [← mem_places, h, List.mem_append]
  constructor
  · intro mem
    exact ⟨.inl mem, across _ mem _ (List.mem_cons_self ..)⟩
  · rintro ⟨mem | mem, before⟩
    · exact mem
    · -- what comes behind the place does not come before it
      rcases List.mem_cons.mp mem with eq | mem
      · exact absurd (congrArg Prod.fst eq) before.ne
      · exact absurd before ((List.pairwise_cons.mp behind).1 _ mem).asymm

theorem at?_of_places (h : tree.places = left ++ (p, n) :: right) : tree.at? p = some n :=
  mem_places.mp (by simp [h])

end Node

end MailMerge
