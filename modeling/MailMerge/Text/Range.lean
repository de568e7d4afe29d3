/-!
# Ranges of code points

The properties of characters are data: ranges of code points that share one, and runs of code
points whose counterparts are all equally far away.

## Main definitions

* `inRanges`: membership in a list of ranges.
* `valueAt?`: what a list of ranges says about a code point.
* `ShiftRun`, `shifted?`: runs of code points, and the counterpart of a character.

## Main results

* `inRanges_iff`: a code point is in the ranges if some range reaches from below to above it.
-/

namespace MailMerge.Text

/-- Membership in a list of ranges. -/
def inRanges (ranges : List (Nat × Nat)) (n : Nat) : Bool :=
  ranges.any fun r => r.1 ≤ n && n ≤ r.2

theorem inRanges_iff {ranges : List (Nat × Nat)} {n : Nat} :
    inRanges ranges n = true ↔ ∃ r ∈ ranges, r.1 ≤ n ∧ n ≤ r.2 := by
  simp [inRanges]

/-- The value of the first range that holds a code point. -/
def valueAt? {α : Type} (ranges : List (Nat × Nat × α)) (n : Nat) : Option α :=
  (ranges.find? fun r => r.1 ≤ n && n ≤ r.2.1).map fun r => r.2.2

/-- Code points `first, first + step, …, last` whose counterparts are `delta` away. -/
structure ShiftRun where
  first : Nat
  last : Nat
  step : Nat
  delta : Int
deriving DecidableEq, Repr

/-- True for the code points of a run. -/
def ShiftRun.holds (r : ShiftRun) (n : Nat) : Bool :=
  r.first ≤ n && n ≤ r.last && (n - r.first) % r.step == 0

/-- The counterpart of a character that is in one of the runs. -/
def shifted? (runs : List ShiftRun) (c : Char) : Option Char :=
  (runs.find? fun r => r.holds c.toNat).map fun r => Char.ofNat ((c.toNat : Int) + r.delta).toNat

end MailMerge.Text
