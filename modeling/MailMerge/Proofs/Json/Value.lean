import MailMerge.Json.Draft
import MailMerge.Proofs.Basic

/-!
# Values and the drafts that hold them

The order of the members of an object is without meaning, so a value is the same as the value with
all members in key order. A value that is read from a draft is in that order already. A draft made
from a value reads as that value, in key order, as long as it does not nest too deep.

## Main definitions

* `Json.sorted`: the value with all members in key order.
* `Json.depth`: the number of arrays and objects that a value nests.
* `Json.numbers`: the numbers in a value.

## Main results

* `Json.induction`: values by their items and members.
* `Draft.toJson_ofJson`: what a value reads as.
* `Draft.sorted_of_toJson`: a value that has been read is in key order.
-/

namespace MailMerge

namespace Json

/-- Values by their items and members. -/
@[elab_as_elim]
theorem induction {motive : Json → Prop} (null : motive .null) (bool : ∀ b, motive (.bool b))
    (number : ∀ n, motive (.number n)) (string : ∀ s, motive (.string s))
    (array : ∀ items, (∀ v ∈ items, motive v) → motive (.array items))
    (object : ∀ members, (∀ m ∈ members, motive m.2) → motive (.object members)) (v : Json) :
    motive v :=
  @Json.rec motive (fun items => ∀ v ∈ items, motive v) (fun ms => ∀ m ∈ ms, motive m.2)
    (fun m => motive m.2) null bool number string array object (by simp)
    (fun _ _ first rest => List.forall_mem_cons.mpr ⟨first, rest⟩) (by simp)
    (fun _ _ first rest => List.forall_mem_cons.mpr ⟨first, rest⟩) (fun _ _ value => value) v

/-! ## Key order -/

mutual

/-- The value with the members of all objects in key order, where the last one under a key wins. -/
def sorted : Json → Json
  | .array items => .array (sortedItems items)
  | .object members => .ofDict (.ofList (sortedMembers members))
  | v => v

/-- The items of a list in key order. -/
def sortedItems : List Json → List Json
  | [] => []
  | item :: items => item.sorted :: sortedItems items

/-- Members with their values in key order. -/
def sortedMembers : List (String × Json) → List (String × Json)
  | [] => []
  | (key, value) :: members => (key, value.sorted) :: sortedMembers members

end

theorem sortedItems_eq (items : List Json) : sortedItems items = items.map sorted := by
  induction items with
  | nil => rfl
  | cons item items ih => rw [sortedItems, ih, List.map_cons]

theorem sortedMembers_eq (members : List (String × Json)) :
    sortedMembers members = members.map fun m => (m.1, m.2.sorted) := by
  induction members with
  | nil => rfl
  | cons m members ih => rw [sortedMembers, ih, List.map_cons]

theorem sorted_array (items : List Json) : (array items).sorted = .array (items.map sorted) := by
  rw [sorted, sortedItems_eq]

theorem sorted_object (members : List (String × Json)) :
    (object members).sorted = .ofDict (.ofList (members.map fun m => (m.1, m.2.sorted))) := by
  rw [sorted, sortedMembers_eq]

theorem sorted_array_eq_self {items : List Json} (h : ∀ v ∈ items, v.sorted = v) :
    (array items).sorted = .array items := by
  rw [sorted_array, List.map_congr_left h, List.map_id']

/-- An object is in key order if its members are, each with a value in key order. -/
theorem sorted_ofDict {d : Dict Json} (h : ∀ m ∈ d.entries, m.2.sorted = m.2) :
    (ofDict d).sorted = ofDict d := by
  have members : (d.entries.map fun m => (m.1, m.2.sorted)) = d.entries := by
    rw [List.map_congr_left fun m mem => congrArg (m.1, ·) (h m mem), List.map_id']
  rw [ofDict, sorted_object, members, Dict.ofList_entries, ofDict]

/-! ## Nesting -/

mutual

/-- The number of arrays and objects that a value nests. -/
def depth : Json → Nat
  | .array items => depthOfItems items + 1
  | .object members => depthOfMembers members + 1
  | _ => 0

/-- The nesting of the deepest item. -/
def depthOfItems : List Json → Nat
  | [] => 0
  | item :: items => max item.depth (depthOfItems items)

/-- The nesting of the deepest member. -/
def depthOfMembers : List (String × Json) → Nat
  | [] => 0
  | (_, value) :: members => max value.depth (depthOfMembers members)

end

theorem depthOfItems_le_iff {items : List Json} {levels : Nat} :
    depthOfItems items ≤ levels ↔ ∀ v ∈ items, v.depth ≤ levels := by
  induction items with
  | nil => simp [depthOfItems]
  | cons item items ih => rw [depthOfItems, Nat.max_le, ih, List.forall_mem_cons]

theorem depthOfMembers_le_iff {members : List (String × Json)} {levels : Nat} :
    depthOfMembers members ≤ levels ↔ ∀ m ∈ members, m.2.depth ≤ levels := by
  induction members with
  | nil => simp [depthOfMembers]
  | cons m members ih => rw [depthOfMembers, Nat.max_le, ih, List.forall_mem_cons]

theorem depth_array_le_iff {items : List Json} {levels : Nat} :
    (array items).depth ≤ levels + 1 ↔ ∀ v ∈ items, v.depth ≤ levels := by
  rw [depth, Nat.add_le_add_iff_right, depthOfItems_le_iff]

theorem depth_object_le_iff {members : List (String × Json)} {levels : Nat} :
    (object members).depth ≤ levels + 1 ↔ ∀ m ∈ members, m.2.depth ≤ levels := by
  rw [depth, Nat.add_le_add_iff_right, depthOfMembers_le_iff]

/-! ## Numbers -/

mutual

/-- The numbers in a value, in the order in which they are written. -/
def numbers : Json → List Number
  | .number n => [n]
  | .array items => numbersOfItems items
  | .object members => numbersOfMembers members
  | _ => []

/-- The numbers in items. -/
def numbersOfItems : List Json → List Number
  | [] => []
  | item :: items => item.numbers ++ numbersOfItems items

/-- The numbers in members. -/
def numbersOfMembers : List (String × Json) → List Number
  | [] => []
  | (_, value) :: members => value.numbers ++ numbersOfMembers members

end

theorem numbers_array (items : List Json) : (array items).numbers = items.flatMap numbers := by
  rw [numbers]
  induction items with
  | nil => rfl
  | cons item items ih => rw [numbersOfItems, ih, List.flatMap_cons]

theorem numbers_object (members : List (String × Json)) :
    (object members).numbers = members.flatMap fun m => m.2.numbers := by
  rw [numbers]
  induction members with
  | nil => rfl
  | cons m members ih => rw [numbersOfMembers, ih, List.flatMap_cons]

/-! ## Drafts of values -/

namespace Draft

theorem ofItems_eq (items : List Json) : ofItems items = items.map ofJson := by
  induction items with
  | nil => rfl
  | cons item items ih => rw [ofItems, ih, List.map_cons]

theorem ofMembers_eq (members : List (String × Json)) :
    ofMembers members = members.map fun m => (.ok m.1, ofJson m.2) := by
  induction members with
  | nil => rfl
  | cons m members ih => rw [ofMembers, ih, List.map_cons]

/-- A value is read in key order, unless it nests too deep. -/
theorem toJson_ofJson_eq (v : Json) (levels : Nat) :
    (ofJson v).toJson levels = if v.depth ≤ levels then .ok v.sorted else faulty .tooDeep := by
  induction v using Json.induction generalizing levels with
  | null | bool b | number n | string s =>
    rw [depth, if_pos (Nat.zero_le levels)]
    · cases levels <;> rfl
    all_goals nofun
  | array items ih =>
    cases levels with
    | zero => rw [if_neg (by simp [depth])]; rfl
    | succ levels =>
      have each : (ofItems items).mapM (toJson levels) =
          if ∀ v ∈ items, v.depth ≤ levels then .ok (items.map sorted) else faulty .tooDeep := by
        rw [ofItems_eq, List.mapM_map]
        exact mapM_ite fun v mem => ih v mem levels
      simp only [ofJson, toJson, each, depth_array_le_iff, sorted_array]
      split <;> rfl
  | object members ih =>
    cases levels with
    | zero => rw [if_neg (by simp [depth])]; rfl
    | succ levels =>
      have each : ((ofMembers members).mapM fun m => do
          let key ← valueOf m.1
          let value ← toJson levels m.2
          return (key, value)) =
          if ∀ m ∈ members, m.2.depth ≤ levels then .ok (members.map fun m => (m.1, m.2.sorted))
          else faulty .tooDeep := by
        rw [ofMembers_eq, List.mapM_map]
        refine mapM_ite fun m mem => ?_
        simp only [Function.comp_apply, ih m mem levels]
        split <;> rfl
      simp only [ofJson, toJson, each, depth_object_le_iff, sorted_object]
      split <;> rfl

/-- A value that does not nest too deep is read in key order. -/
theorem toJson_ofJson {v : Json} {levels : Nat} (h : v.depth ≤ levels) :
    (ofJson v).toJson levels = .ok v.sorted := by
  rw [toJson_ofJson_eq, if_pos h]

theorem eq_sorted_of_toJson_ofJson {v w : Json} {levels : Nat}
    (h : (ofJson v).toJson levels = .ok w) : w = v.sorted := by
  rw [toJson_ofJson_eq] at h
  split at h
  · exact (Except.ok.inj h).symm
  · cases h

/-- A value that has been read is in key order. -/
theorem sorted_of_toJson {levels : Nat} {draft : Draft} {v : Json}
    (h : draft.toJson levels = .ok v) : v.sorted = v := by
  induction levels generalizing draft v with
  | zero =>
    cases draft with
    | null | bool b => cases h; rfl
    | number value | string text =>
      obtain ⟨a, -, h⟩ := bind_eq_ok_iff.mp h
      cases h
      rfl
    | array | object | broken => cases h
  | succ levels ih =>
    cases draft with
    | null | bool b => cases h; rfl
    | number value | string text =>
      obtain ⟨a, -, h⟩ := bind_eq_ok_iff.mp h
      cases h
      rfl
    | broken => cases h
    | array items stop =>
      obtain ⟨vs, each, h⟩ := bind_eq_ok_iff.mp h
      obtain ⟨-, -, h⟩ := bind_eq_ok_iff.mp h
      cases h
      apply sorted_array_eq_self
      intro v mem
      obtain ⟨item, -, read⟩ := exists_of_mem_mapM each mem
      exact ih read
    | object members stop =>
      obtain ⟨ms, each, h⟩ := bind_eq_ok_iff.mp h
      obtain ⟨-, -, h⟩ := bind_eq_ok_iff.mp h
      cases h
      apply sorted_ofDict
      intro m mem
      obtain ⟨member, -, read⟩ := exists_of_mem_mapM each (Dict.mem_ofList mem)
      obtain ⟨key, -, h⟩ := bind_eq_ok_iff.mp read
      obtain ⟨value, below, h⟩ := bind_eq_ok_iff.mp h
      cases h
      exact ih below

end Draft

end Json

end MailMerge
