import Mathlib
import MailMerge.Text.Lowercase

/-!
# Lower case in and beyond ASCII

Lower case is a matter of all letters, equality up to case one of ASCII letters. The two agree on
ASCII texts. Beyond them there is one character that they disagree on: the sign for the unit kelvin
has an ASCII letter as its lower-case form, and no other character beyond ASCII has.

## Main definitions

* `kelvin`: the sign for kelvin.

## Main results

* `toList_lowercase_of_ascii`: the lower-case form of an ASCII text.
* `ascii_or_kelvin_of_lowercaseFrom`: what a text with an ASCII lower-case form consists of.
* `mem_lowercaseFrom_of_kelvin`: the sign for kelvin leaves a `k`.
-/

namespace MailMerge.Text

/-! ## ASCII texts -/

theorem lt_of_toLower_lt {c : Char} (h : c.toLower < '\x80') : c < '\x80' := by
  unfold Char.toLower at h
  split at h
  · rename_i upper
    exact lt_of_le_of_lt upper.2 (by decide)
  · exact h

/-- The lower-case form of a text of ASCII characters. -/
theorem lowercaseFrom_of_ascii {cs : List Char} (ascii : ∀ c ∈ cs, c < '\x80') (before : List Char) :
    lowercaseFrom before cs = cs.map Char.toLower := by
  induction cs generalizing before with
  | nil => rfl
  | cons c cs ih =>
    obtain ⟨small, rest⟩ := List.forall_mem_cons.mp ascii
    have sigma : c ≠ 'Σ' := fun eq => absurd (eq ▸ small) (by decide)
    have dotted : c ≠ 'İ' := fun eq => absurd (eq ▸ small) (by decide)
    rw [lowercaseFrom, if_neg sigma, if_neg dotted, lowerChar, if_pos small, ih rest]
    rfl

theorem toList_lowercase_of_ascii {s : String} (ascii : ∀ c ∈ s.toList, c < '\x80') :
    (lowercase s).toList = lowerAscii s := by
  rw [lowercase, String.toList_ofList, lowercaseFrom_of_ascii ascii, lowerAscii]

/-! ## Beyond ASCII -/

/-- The sign for the unit kelvin. Its lower-case form is an ASCII letter. -/
def kelvin : Char := '\u212a'

/-- No run but that of the sign for kelvin reaches down to the ASCII characters. -/
theorem runs_above_ascii : ∀ r ∈ lowerRuns,
    (r.first = kelvin.toNat ∧ r.last = kelvin.toNat) ∨
      0x80 ≤ r.first + r.delta ∧
        (r.last + r.delta < 0xD800 ∨ 0xE000 ≤ r.first + r.delta ∧ r.last + r.delta < 0x110000) := by
  decide +kernel

/-- A character whose lower-case form is an ASCII character is one itself, or the sign for
kelvin. -/
theorem ascii_or_kelvin_of_lowerChar {c : Char} (h : lowerChar c < '\x80') :
    c < '\x80' ∨ c = kelvin := by
  rw [lowerChar] at h
  split at h
  · exact .inl ‹_›
  · rename_i large
    cases found : lowerRuns.find? fun r => r.holds c.toNat with
    | none =>
      rw [shifted?, found] at h
      exact absurd h large
    | some r =>
      rw [shifted?, found] at h
      have holds := List.find?_some found
      simp only [ShiftRun.holds, Bool.and_eq_true, decide_eq_true_eq] at holds
      obtain ⟨⟨low, high⟩, -⟩ := holds
      rcases runs_above_ascii r (List.mem_of_find?_eq_some found) with ⟨first, last⟩ | ⟨above, valid⟩
      · exact .inr (Char.toNat_inj.mp (by omega))
      · -- the counterpart is a character beyond the ASCII ones
        have isValid : ((c.toNat : Int) + r.delta).toNat.isValidChar := by
          simp only [Nat.isValidChar]
          omega
        change (Char.ofNat ((c.toNat : Int) + r.delta).toNat).toNat < 0x80 at h
        rw [Char.toNat_ofNat, if_pos isValid] at h
        omega

/-- A text whose lower-case form has ASCII characters only has no other ones, apart from the sign
for kelvin. -/
theorem ascii_or_kelvin_of_lowercaseFrom {cs before : List Char}
    (h : ∀ c ∈ lowercaseFrom before cs, c < '\x80') : ∀ c ∈ cs, c < '\x80' ∨ c = kelvin := by
  induction cs generalizing before with
  | nil => exact nofun
  | cons c cs ih =>
    rw [lowercaseFrom] at h
    obtain ⟨form, rest⟩ := List.forall_mem_append.mp h
    refine List.forall_mem_cons.mpr ⟨?_, ih rest⟩
    split at form
    · split at form
      · exact absurd (form 'ς' List.mem_cons_self) (by decide)
      · exact absurd (form 'σ' List.mem_cons_self) (by decide)
    · split at form
      · exact absurd (form '\u0307' (by decide)) (by decide)
      · exact ascii_or_kelvin_of_lowerChar (form _ List.mem_cons_self)

/-- The sign for kelvin leaves its lower-case form. -/
theorem mem_lowercaseFrom_of_kelvin {cs before : List Char} (h : kelvin ∈ cs) :
    'k' ∈ lowercaseFrom before cs := by
  induction cs generalizing before with
  | nil => cases h
  | cons c cs ih =>
    rw [lowercaseFrom, List.mem_append]
    rcases List.mem_cons.mp h with rfl | later
    · have form : lowerChar kelvin = 'k' := rfl
      rw [if_neg (by decide), if_neg (by decide), form]
      exact .inl List.mem_cons_self
    · exact .inr (ih later)

end MailMerge.Text
