import MailMerge.Command.Disk
import MailMerge.Proofs.Basic

/-!
# Writing a file

A path is followed from one directory to the next, so where it leads depends on the directories
alone, and on whether they may be searched. A file is written into a directory that has been there
before. So writing it creates no directory, the file is found again under its path, and all other
files stay as they are.

## Main definitions

* `Disk.SameDirectories`: two disks with the same directories and the same refusals.
* `Disk.Wrote`: a disk after a text has been written under a path.

## Main results

* `follow_of_same`: a path leads to the same place on disks with the same directories.
* `exists_directory_of_follow`: whatever is no directory stands in one.
* `wrote_of_write`: what writing a file does.
-/

namespace MailMerge.Disk

variable {d d' : Disk} {place : Place} {path text : String}

/-! ## Directories -/

theorem isDirectory_iff : d.isDirectory place = true ↔
    place <+: d.here ∨ (∃ q ∈ d.directories, place <+: q) ∨
      ∃ f ∈ d.files, place <+: f.1 ∧ f.1 ≠ place := by
  simp [isDirectory, or_assoc]

/-- Whatever contains a directory is one. -/
theorem isDirectory_of_below {p q : Place} (h : p <+: q) (hq : d.isDirectory q = true) :
    d.isDirectory p = true := by
  rw [isDirectory_iff] at hq ⊢
  rcases hq with here | ⟨r, mem, below⟩ | ⟨f, mem, below, ne⟩
  · exact .inl (h.trans here)
  · exact .inr (.inl ⟨r, mem, h.trans below⟩)
  · refine .inr (.inr ⟨f, mem, h.trans below, ?_⟩)
    rintro rfl
    exact ne (h.eq_of_length_le below.length_le)

/-- A file that is put into a directory makes no new one. -/
theorem isDirectory_put {q : Place} (hq : d.isDirectory q = true) (part text : String)
    (p : Place) : (d.put (q ++ [part]) text).isDirectory p = d.isDirectory p := by
  rw [Bool.eq_iff_iff]
  constructor
  · intro h
    rcases isDirectory_iff.mp h with here | directory | ⟨f, mem, below, ne⟩
    · exact isDirectory_iff.mpr (.inl here)
    · exact isDirectory_iff.mpr (.inr (.inl directory))
    · rcases List.mem_cons.mp mem with rfl | mem
      · -- what contains the new file contains its directory
        rcases List.prefix_concat_iff.mp below with eq | below
        · exact absurd eq.symm ne
        · exact isDirectory_of_below below hq
      · exact isDirectory_iff.mpr (.inr (.inr ⟨f, List.mem_of_mem_filter mem, below, ne⟩))
  · intro h
    rcases isDirectory_iff.mp h with here | directory | ⟨f, mem, below, ne⟩
    · exact isDirectory_iff.mpr (.inl here)
    · exact isDirectory_iff.mpr (.inr (.inl directory))
    · -- a file that has been replaced still stands in the same directories
      refine isDirectory_iff.mpr (.inr (.inr ?_))
      by_cases eq : f.1 = q ++ [part]
      · exact ⟨(q ++ [part], text), List.mem_cons_self, eq ▸ below, eq ▸ ne⟩
      · exact ⟨f, List.mem_cons_of_mem _ (List.mem_filter.mpr ⟨mem, by simpa using eq⟩), below, ne⟩

/-! ## Following a path -/

/-- Two disks with the same directories, the same working directory among them, on which the system
refuses the same. -/
structure SameDirectories (d d' : Disk) : Prop where
  isDirectory : ∀ place, d'.isDirectory place = d.isDirectory place
  refusals : d'.refusals = d.refusals
  here : d'.here = d.here

theorem SameDirectories.permit (same : SameDirectories d d') (use : FileUse) (place : Place) :
    d'.permit use place = d.permit use place := by
  rw [Disk.permit, Disk.permit, same.refusals]

theorem enter_eq_ok_iff : d.enter place = .ok () ↔
    d.isDirectory place = true ∧ d.permit .search place = .ok () := by
  rw [enter]
  cases d.isDirectory place with
  | true => simp
  | false =>
    rw [if_neg Bool.false_ne_true]
    split <;> simp

theorem step_eq_ok_iff {part : String} {q : Place} : d.step place part = .ok q ↔
    (d.isDirectory place = true ∧ d.permit .search place = .ok ()) ∧
      part.utf8ByteSize ≤ nameLimit ∧
      q = if part = "" ∨ part = "." then place
        else if part = ".." then place.dropLast else place ++ [part] := by
  rw [step, bind_eq_ok_iff]
  constructor
  · rintro ⟨_, entered, h⟩
    refine ⟨enter_eq_ok_iff.mp entered, ?_⟩
    by_cases long : nameLimit < part.utf8ByteSize
    · rw [if_pos long] at h
      cases h
    · rw [if_neg long] at h
      exact ⟨by omega, (Except.ok.inj h).symm⟩
  · rintro ⟨directory, short, rfl⟩
    refine ⟨(), enter_eq_ok_iff.mpr directory, ?_⟩
    rw [if_neg (by omega)]
    rfl

/-- One step leads to a directory or to something in the directory that it starts from. -/
theorem step_cases {part : String} {q : Place} (h : d.step place part = .ok q) :
    d.isDirectory place = true ∧ (d.isDirectory q = true ∨ q = place ++ [part]) := by
  obtain ⟨⟨directory, -⟩, -, rfl⟩ := step_eq_ok_iff.mp h
  refine ⟨directory, ?_⟩
  split
  · exact .inl directory
  · split
    · exact .inl (isDirectory_of_below place.dropLast_prefix directory)
    · exact .inr rfl

theorem parts_ne_nil (path : String) : parts path ≠ [] := by
  have split (cs : List Char) : Text.splitAt '/' cs ≠ [] := by
    cases cs with
    | nil => exact List.cons_ne_nil _ _
    | cons c cs =>
      rw [Text.splitAt]
      split
      · exact List.cons_ne_nil _ _
      · split <;> exact List.cons_ne_nil _ _
  rw [parts, ne_eq, List.map_eq_nil_iff]
  exact split _

/-- Whatever is no directory stands in one. -/
theorem exists_directory_of_follow (h : d.follow path = .ok place)
    (file : d.isDirectory place = false) :
    ∃ q part, d.isDirectory q = true ∧ place = q ++ [part] := by
  rw [follow, bind_eq_ok_iff] at h
  obtain ⟨start, -, h⟩ := h
  -- the last step is the one that has led here, and every path has one
  rw [← List.dropLast_concat_getLast (parts_ne_nil path), List.foldlM_append, bind_eq_ok_iff] at h
  obtain ⟨q, -, h⟩ := h
  rw [List.foldlM_cons, bind_eq_ok_iff] at h
  obtain ⟨place', h, done⟩ := h
  obtain rfl : place' = place := Except.ok.inj done
  obtain ⟨directory, here | eq⟩ := step_cases h
  · rw [file] at here
    cases here
  · exact ⟨q, _, directory, eq⟩

theorem foldlM_step_of_same (same : SameDirectories d d') {parts : List String} {q : Place}
    (h : parts.foldlM d.step place = .ok q) : parts.foldlM d'.step place = .ok q := by
  induction parts generalizing place with
  | nil => exact h
  | cons part parts ih =>
    rw [List.foldlM_cons, bind_eq_ok_iff] at h ⊢
    obtain ⟨next, first, rest⟩ := h
    -- of the disk a step only asks what its directories are and whether it may search them
    rw [step_eq_ok_iff, ← same.isDirectory, ← same.permit, ← step_eq_ok_iff] at first
    exact ⟨next, first, ih rest⟩

/-- A path leads to the same place on disks with the same directories. -/
theorem follow_of_same (same : SameDirectories d d') (h : d.follow path = .ok place) :
    d'.follow path = .ok place := by
  have start : d'.start path = d.start path := by rw [Disk.start, Disk.start, same.here]
  rw [follow, bind_eq_ok_iff] at h ⊢
  obtain ⟨first, begun, followed⟩ := h
  exact ⟨first, start.trans begun, foldlM_step_of_same same followed⟩

/-! ## Writing -/

/-- A disk after a text has been written under a path: it is what is read there, unless the system
refuses to read this file as it did before, and nothing has changed but the file at this place. -/
structure Wrote (before : Disk) (path text : String) (after : Disk) : Prop where
  read : ∀ place, before.follow path = .ok place →
    after.read path = (before.permit .read place).map fun _ => text
  place : ∃ place, before.follow path = .ok place ∧ after.follow path = .ok place ∧
    ∀ other, after.text? other = if other = place then some text else before.text? other
  directories : SameDirectories before after

theorem write_eq_ok_iff : d.write path text = .ok d' ↔ path.endsWith "/" = false ∧
    ∃ place, d.follow path = .ok place ∧ d.isDirectory place = false ∧
      d.permit .write place = .ok () ∧ d' = d.put place text := by
  rw [write]
  cases slash : path.endsWith "/" with
  | true =>
    -- whatever the way to such a path is like, nothing is written
    simp only [if_true]
    constructor
    · intro h
      obtain ⟨start, -, h⟩ := bind_eq_ok_iff.mp h
      obtain ⟨place, -, h⟩ := bind_eq_ok_iff.mp h
      obtain ⟨_, -, h⟩ := bind_eq_ok_iff.mp h
      cases h
    · rintro ⟨h, -⟩
      cases h
  | false =>
    simp only [Bool.false_eq_true, if_false, true_and, bind_eq_ok_iff]
    refine exists_congr fun place => and_congr_right fun _ => ?_
    cases d.isDirectory place with
    | true => exact ⟨nofun, nofun⟩
    | false =>
      rw [if_neg Bool.false_ne_true, bind_eq_ok_iff]
      constructor
      · rintro ⟨_, permitted, h⟩
        exact ⟨rfl, permitted, (Except.ok.inj h).symm⟩
      · rintro ⟨-, permitted, rfl⟩
        exact ⟨(), permitted, rfl⟩

/-- **What writing a file does.** The text is found under the path, and nothing else has changed. -/
theorem wrote_of_write (h : d.write path text = .ok d') : d.Wrote path text d' := by
  obtain ⟨-, place, followed, file, -, rfl⟩ := write_eq_ok_iff.mp h
  obtain ⟨q, part, directory, rfl⟩ := exists_directory_of_follow followed file
  have same : SameDirectories d (d.put (q ++ [part]) text) :=
    ⟨isDirectory_put directory part text, rfl, rfl⟩
  have found := follow_of_same same followed
  refine ⟨fun place there => ?_, ⟨_, followed, found, fun other => text?_put ..⟩, same⟩
  obtain rfl := Except.ok.inj (followed.symm.trans there)
  rw [read, found, ← same.permit]
  simp only [bind, Except.bind, same.isDirectory, file, Bool.false_eq_true, if_false, text?_put,
    if_true]
  cases (d.put (q ++ [part]) text).permit .read (q ++ [part]) <;> rfl

end MailMerge.Disk
