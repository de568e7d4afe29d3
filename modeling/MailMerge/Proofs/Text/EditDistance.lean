import Mathlib
import MailMerge.Text.EditDistance

/-!
# The least number of edits

A single edit inserts, deletes or replaces one character somewhere in a text. Edits may come in any
order and may undo one another, so the least number of them is not looked for among sequences of
edits. An alignment goes through both texts once instead and says for each character whether it is
kept, replaced, deleted or inserted. An alignment can follow any edit at the cost of one, and its
least costs obey the rule by which the rows are computed.

## Main definitions

* `Edit`, `Edits`: one edit, and any number of them.
* `Aligned`: alignments of two texts and their costs.
* `IsRow`: a row of least costs.

## Main results

* `Aligned.edits`, `Edits.exists_aligned`: what can be aligned can be edited, and conversely.
* `isLeast_cons`: the rule for least costs.
* `isRow_nextRow`, `isRow_lastRow`: the rows hold least costs.
* `isLeast_editDistance`: the edit distance is the least number of edits.
* `editDistance_eq_zero_iff`: only equal texts are at no distance.
-/

namespace MailMerge.Text

/-- One text comes from another by a single character that is inserted, deleted or replaced. -/
inductive Edit : List Char → List Char → Prop
  | insert (before : List Char) (c : Char) (behind : List Char) :
    Edit (before ++ behind) (before ++ c :: behind)
  | delete (before : List Char) (c : Char) (behind : List Char) :
    Edit (before ++ c :: behind) (before ++ behind)
  | replace (before : List Char) (c d : Char) (behind : List Char) :
    Edit (before ++ c :: behind) (before ++ d :: behind)

/-- One text comes from another by edits, one after the other. -/
inductive Edits : Nat → List Char → List Char → Prop
  | none (cs : List Char) : Edits 0 cs cs
  | step {n : Nat} {cs ds es : List Char} (first : Edit cs ds) (rest : Edits n ds es) :
    Edits (n + 1) cs es

/-- An alignment of two texts, with its cost: what stands in one of them only costs one, and so
does a character that is replaced by another one. -/
inductive Aligned : Nat → List Char → List Char → Prop
  | nil : Aligned 0 [] []
  | left {n : Nat} {cs ds : List Char} (c : Char) (rest : Aligned n cs ds) :
    Aligned (n + 1) (c :: cs) ds
  | right {n : Nat} {cs ds : List Char} (d : Char) (rest : Aligned n cs ds) :
    Aligned (n + 1) cs (d :: ds)
  | both {n : Nat} {cs ds : List Char} (c d : Char) (rest : Aligned n cs ds) :
    Aligned (n + if c = d then 0 else 1) (c :: cs) (d :: ds)

variable {n : Nat} {c d : Char} {cs ds es : List Char}

/-! ## Edits -/

theorem Edit.reverse (h : Edit cs ds) : Edit cs.reverse ds.reverse := by
  cases h with
  | insert before c behind => simpa using Edit.insert behind.reverse c before.reverse
  | delete before c behind => simpa using Edit.delete behind.reverse c before.reverse
  | replace before c d behind => simpa using Edit.replace behind.reverse c d before.reverse

theorem Edit.cons (c : Char) (h : Edit cs ds) : Edit (c :: cs) (c :: ds) := by
  cases h with
  | insert before d behind => exact .insert (c :: before) d behind
  | delete before d behind => exact .delete (c :: before) d behind
  | replace before d e behind => exact .replace (c :: before) d e behind

theorem Edits.reverse (h : Edits n cs ds) : Edits n cs.reverse ds.reverse := by
  induction h with
  | none cs => exact .none _
  | step first _ ih => exact .step first.reverse ih

theorem Edits.cons (c : Char) (h : Edits n cs ds) : Edits n (c :: cs) (c :: ds) := by
  induction h with
  | none cs => exact .none _
  | step first _ ih => exact .step (first.cons c) ih

/-- One more edit at the end. -/
theorem Edits.snoc (h : Edits n cs ds) (last : Edit ds es) : Edits (n + 1) cs es := by
  induction h with
  | none cs => exact .step last (.none es)
  | step first _ ih => exact .step first (ih last)

/-- What can be aligned can be edited. -/
theorem Aligned.edits (h : Aligned n cs ds) : Edits n cs ds := by
  induction h with
  | nil => exact .none []
  | left c _ ih => exact .step (.delete [] c _) ih
  | right d _ ih => exact ih.snoc (.insert [] d _)
  | both c d _ ih =>
    by_cases same : c = d
    · subst same
      rw [if_pos rfl]
      exact ih.cons c
    · rw [if_neg same]
      exact (ih.cons c).snoc (.replace [] c d _)

/-! ## Alignments follow edits -/

/-- Whatever the second text can be aligned with, the first one can at the cost of one more. -/
def Follows (cs ds : List Char) : Prop :=
  ∀ n es, Aligned n ds es → ∃ m ≤ n + 1, Aligned m cs es

theorem Follows.cons (h : Follows cs ds) (c : Char) : Follows (c :: cs) (c :: ds) := by
  intro n es aligned
  generalize eq : c :: ds = start at aligned
  induction aligned with
  | nil => cases eq
  | left d rest =>
    obtain ⟨rfl, rfl⟩ := List.cons.inj eq
    obtain ⟨m, le, short⟩ := h _ _ rest
    exact ⟨m + 1, by omega, .left c short⟩
  | right d rest ih =>
    obtain ⟨m, le, short⟩ := ih eq
    exact ⟨m + 1, by omega, .right d short⟩
  | both d e rest =>
    obtain ⟨rfl, rfl⟩ := List.cons.inj eq
    obtain ⟨m, le, short⟩ := h _ _ rest
    exact ⟨m + if c = e then 0 else 1, by omega, .both c e short⟩

theorem Follows.append (h : Follows cs ds) (before : List Char) :
    Follows (before ++ cs) (before ++ ds) := by
  induction before with
  | nil => exact h
  | cons c before ih => exact ih.cons c

theorem follows_insert (c : Char) (cs : List Char) : Follows cs (c :: cs) := by
  intro n es aligned
  generalize eq : c :: cs = start at aligned
  induction aligned with
  | nil => cases eq
  | left d rest =>
    obtain ⟨rfl, rfl⟩ := List.cons.inj eq
    exact ⟨_, by omega, rest⟩
  | right d rest ih =>
    obtain ⟨m, le, short⟩ := ih eq
    exact ⟨m + 1, by omega, .right d short⟩
  | both d e rest =>
    obtain ⟨rfl, rfl⟩ := List.cons.inj eq
    exact ⟨_, by omega, .right e rest⟩

theorem follows_delete (c : Char) (cs : List Char) : Follows (c :: cs) cs :=
  fun _ _ aligned => ⟨_, le_rfl, .left c aligned⟩

theorem follows_replace (c d : Char) (cs : List Char) : Follows (c :: cs) (d :: cs) := by
  intro n es aligned
  generalize eq : d :: cs = start at aligned
  induction aligned with
  | nil => cases eq
  | left e rest =>
    obtain ⟨rfl, rfl⟩ := List.cons.inj eq
    exact ⟨_, by omega, .left c rest⟩
  | right e rest ih =>
    obtain ⟨m, le, short⟩ := ih eq
    exact ⟨m + 1, by omega, .right e short⟩
  | both e f rest =>
    obtain ⟨rfl, rfl⟩ := List.cons.inj eq
    exact ⟨_, by split_ifs <;> omega, .both c f rest⟩

theorem Edit.follows (h : Edit cs ds) : Follows cs ds := by
  cases h with
  | insert before c behind => exact (follows_insert c behind).append before
  | delete before c behind => exact (follows_delete c behind).append before
  | replace before c d behind => exact (follows_replace c d behind).append before

theorem aligned_refl (cs : List Char) : Aligned 0 cs cs := by
  induction cs with
  | nil => exact .nil
  | cons c cs ih => simpa using Aligned.both c c ih

/-- What can be edited can be aligned, at no higher cost. -/
theorem Edits.exists_aligned (h : Edits n cs ds) : ∃ m ≤ n, Aligned m cs ds := by
  induction h with
  | none cs => exact ⟨0, le_rfl, aligned_refl cs⟩
  | step first _ ih =>
    obtain ⟨m, le, aligned⟩ := ih
    obtain ⟨k, le', followed⟩ := first.follows m _ aligned
    exact ⟨k, by omega, followed⟩

/-- The least cost of an alignment is the least number of edits. -/
theorem isLeast_edits (h : IsLeast {k | Aligned k cs ds} n) : IsLeast {k | Edits k cs ds} n := by
  refine ⟨h.1.edits, fun k edits => ?_⟩
  obtain ⟨m, le, aligned⟩ := Edits.exists_aligned edits
  exact (h.2 aligned).trans le

/-- Texts are as far from one another as they are backwards. -/
theorem isLeast_edits_reverse (h : IsLeast {k | Edits k cs.reverse ds.reverse} n) :
    IsLeast {k | Edits k cs ds} n := by
  refine ⟨by simpa using Edits.reverse h.1, fun k edits => h.2 (Edits.reverse edits)⟩

/-! ## Least costs -/

theorem isLeast_nil_left (ds : List Char) : IsLeast {k | Aligned k [] ds} ds.length := by
  constructor
  · change Aligned _ _ _
    induction ds with
    | nil => exact .nil
    | cons d ds ih => exact .right d ih
  · intro k aligned
    change Aligned k [] ds at aligned
    generalize eq : ([] : List Char) = start at aligned
    induction aligned with
    | nil => exact le_rfl
    | left | both => cases eq
    | right d _ ih => exact Nat.succ_le_succ (ih eq)

theorem isLeast_nil_right (h : IsLeast {k | Aligned k cs []} n) :
    IsLeast {k | Aligned k (c :: cs) []} (n + 1) := by
  refine ⟨.left c h.1, fun k aligned => ?_⟩
  change Aligned k (c :: cs) [] at aligned
  cases aligned with
  | left _ rest => exact Nat.succ_le_succ (h.2 rest)

/-- The rule for least costs: the last characters are both looked at, or only one of them is. -/
theorem isLeast_cons {above left corner : Nat} (ha : IsLeast {k | Aligned k cs (d :: ds)} above)
    (hl : IsLeast {k | Aligned k (c :: cs) ds} left) (hc : IsLeast {k | Aligned k cs ds} corner) :
    IsLeast {k | Aligned k (c :: cs) (d :: ds)}
      (min (min (left + 1) (above + 1)) (corner + if c = d then 0 else 1)) := by
  constructor
  · rcases min_choice (min (left + 1) (above + 1)) (corner + if c = d then 0 else 1) with eq | eq
    · rw [eq]
      rcases min_choice (left + 1) (above + 1) with eq | eq <;> rw [eq]
      · exact .right d hl.1
      · exact .left c ha.1
    · rw [eq]
      exact .both c d hc.1
  · intro k aligned
    change Aligned k (c :: cs) (d :: ds) at aligned
    cases aligned with
    | left _ rest =>
      have := ha.2 rest
      omega
    | right _ rest =>
      have := hl.2 rest
      omega
    | both _ _ rest =>
      have := hc.2 rest
      omega

/-! ## Rows -/

/-- A row of least costs. Texts are aligned backwards here: `source` is what has been read of the
first text, the last character first, and `before` what stands in front of an entry in the second
one. -/
inductive IsRow (source : List Char) : List Char → List Char → List Nat → Prop
  | last {before : List Char} {n : Nat} (least : IsLeast {k | Aligned k source before} n) :
    IsRow source before [] [n]
  | entry {before target : List Char} {d : Char} {n : Nat} {row : List Nat}
    (least : IsLeast {k | Aligned k source before} n) (rest : IsRow source (d :: before) target row) :
    IsRow source before (d :: target) (n :: row)

variable {source before target : List Char} {row : List Nat}

/-- The row of an empty text counts characters. -/
theorem isRow_range' (before target : List Char) :
    IsRow [] before target (List.range' before.length (target.length + 1)) := by
  induction target generalizing before with
  | nil => exact .last (isLeast_nil_left before)
  | cons d target ih => exact .entry (isLeast_nil_left before) (ih (d :: before))

/-- The entries of the next row, from behind its first one. -/
theorem isRow_rowFrom {left corner : Nat} (h : IsRow source before target (corner :: row))
    (least : IsLeast {k | Aligned k (c :: source) before} left) :
    IsRow (c :: source) before target (left :: rowFrom c left corner target row) := by
  induction target generalizing before left corner row with
  | nil =>
    cases h
    exact .last least
  | cons d target ih =>
    cases h with
    | entry first rest =>
      obtain ⟨above, row, rfl⟩ : ∃ above row', row = above :: row' := by cases rest <;> exact ⟨_, _, rfl⟩
      have up : IsLeast {k | Aligned k source (d :: before)} above := by
        cases rest with
        | last least => exact least
        | entry least => exact least
      exact .entry least (ih rest (isLeast_cons up least first))

theorem isRow_nextRow (h : IsRow source [] target row) :
    IsRow (c :: source) [] target (nextRow c target row) := by
  cases h with
  | last least => exact isRow_rowFrom (.last least) (isLeast_nil_right least)
  | entry least rest => exact isRow_rowFrom (.entry least rest) (isLeast_nil_right least)

theorem isRow_lastRow (target source : List Char) :
    IsRow source.reverse [] target (lastRow target source) := by
  induction source using List.reverseRecOn with
  | nil =>
    rw [lastRow, List.foldl_nil, List.range_eq_range']
    exact isRow_range' [] target
  | append_singleton source c ih =>
    rw [lastRow, List.foldl_append, List.reverse_append]
    exact isRow_nextRow ih

/-- The last entry of a row is about the whole second text. -/
theorem IsRow.isLeast_getLastD (h : IsRow source before target row) :
    IsLeast {k | Aligned k source (target.reverse ++ before)} (row.getLastD 0) := by
  induction h with
  | last least => exact least
  | @entry before target d n row _ rest ih =>
    have same : (n :: row).getLastD 0 = row.getLastD 0 := by
      cases rest <;> rfl
    rw [same, List.reverse_cons, List.append_assoc]
    exact ih

/-- **The edit distance is the least number of edits** that make one text of the other. -/
theorem isLeast_editDistance (source target : List Char) :
    IsLeast {k | Edits k source target} (editDistance source target) := by
  have least := (isRow_lastRow target source).isLeast_getLastD
  rw [List.append_nil] at least
  exact isLeast_edits_reverse (isLeast_edits least)

/-! ## No distance -/

theorem edits_zero_iff : Edits 0 cs ds ↔ cs = ds := by
  constructor
  · intro h
    cases h
    rfl
  · rintro rfl
    exact .none cs

/-- Only equal texts are at no distance. -/
theorem editDistance_eq_zero_iff : editDistance cs ds = 0 ↔ cs = ds := by
  have least := isLeast_editDistance cs ds
  rw [← edits_zero_iff]
  constructor
  · intro zero
    rw [zero] at least
    exact least.1
  · intro edits
    exact Nat.le_zero.mp (least.2 edits)

end MailMerge.Text
