import MailMerge.Context.Display
import MailMerge.Proofs.Json.Value

/-!
# Nested lists are shown by their leaves

A list is shown with commas between its items, and so is a list that is an item of another one. So
brackets leave no trace in the text: what is shown are the leaves of the list, the items that are
not lists themselves, from left to right. Only a list without items counts as a leaf, and its text
is empty, as is that of null.

Texts that are joined in groups are joined as a whole, provided that no group is empty: the comma
next to an empty group is there whether or not the group has anything to show.

## Main definitions

* `Json.leaves`, `Json.leavesOfAll`: the texts that an item of a list comes down to.
* `Json.Grouped`: lists in which items have been put into lists of their own.
* `Json.voided`: a value with an empty text for every null in its lists.

## Main results

* `Json.intercalate_flatMap`: texts joined group by group.
* `Json.intercalate_leaves`: an item is shown by its leaves.
* `Json.Grouped.leaves_eq`: grouping keeps the leaves.
* `Json.display_leaves`: a list is shown by its leaves, however they are grouped.
-/

namespace MailMerge

namespace Json

/-! ## Leaves -/

mutual

/-- The texts that an item of a list comes down to: those of its own items if it is a list that has
some, an empty text if it is an empty list or null, and what it is shown as otherwise. -/
def leaves : Json → List String
  | .null => [""]
  | .array [] => [""]
  | .array items => leavesOfAll items
  | v => [v.display]

/-- The texts that the items of a list come down to. -/
def leavesOfAll : List Json → List String
  | [] => []
  | v :: vs => v.leaves ++ leavesOfAll vs

end

theorem leavesOfAll_eq (items : List Json) : leavesOfAll items = items.flatMap leaves := by
  induction items with
  | nil => rfl
  | cons v vs ih => rw [leavesOfAll, ih, List.flatMap_cons]

theorem leavesOfAll_append (vs ws : List Json) :
    leavesOfAll (vs ++ ws) = leavesOfAll vs ++ leavesOfAll ws := by
  simp only [leavesOfAll_eq, List.flatMap_append]

/-- A list that has items comes down to what they come down to. -/
theorem leaves_array {items : List Json} (some_item : items ≠ []) :
    (array items).leaves = leavesOfAll items := by
  cases items with
  | nil => exact absurd rfl some_item
  | cons v vs => rfl

/-- Every item comes down to some text, be it the empty one. -/
theorem leaves_ne_nil (v : Json) : v.leaves ≠ [] := by
  induction v using induction with
  | null | bool b | number n | string s | object members => exact List.cons_ne_nil _ _
  | array items ih =>
    cases items with
    | nil => exact List.cons_ne_nil _ _
    | cons v vs =>
      rw [leaves_array (List.cons_ne_nil v vs), leavesOfAll]
      exact List.append_ne_nil_of_left_ne_nil (ih v List.mem_cons_self) _

/-! ## Joining -/

/-- Texts joined group by group are joined as a whole, as long as no group is empty. -/
theorem intercalate_flatMap {α : Type} (sep : String) {f : α → List String} {g : α → String}
    {as : List α} (some_text : ∀ a ∈ as, f a ≠ [])
    (joined : ∀ a ∈ as, sep.intercalate (f a) = g a) :
    sep.intercalate (as.flatMap f) = sep.intercalate (as.map g) := by
  induction as with
  | nil => rfl
  | cons a as ih =>
    obtain ⟨here, some_text⟩ := List.forall_mem_cons.mp some_text
    obtain ⟨first, joined⟩ := List.forall_mem_cons.mp joined
    have rest := ih some_text joined
    cases as with
    | nil => simpa using first
    | cons b as =>
      have more : (b :: as).flatMap f ≠ [] := by
        rw [List.flatMap_cons]
        exact List.append_ne_nil_of_left_ne_nil (some_text b List.mem_cons_self) _
      have others : (b :: as).map g ≠ [] := List.cons_ne_nil _ _
      calc sep.intercalate ((a :: b :: as).flatMap f)
          = sep.intercalate (f a ++ (b :: as).flatMap f) := by rw [List.flatMap_cons]
        _ = g a ++ sep ++ sep.intercalate ((b :: as).map g) := by
          rw [String.intercalate_append_of_ne_nil here more, first, rest]
        _ = sep.intercalate (g a :: (b :: as).map g) :=
          (String.intercalate_cons_of_ne_nil others).symm

/-- The items of a list, each of which is shown by its leaves, are shown by all their leaves. -/
theorem displayItems_eq_leavesOfAll {items : List Json}
    (h : ∀ v ∈ items, ",".intercalate v.leaves = v.displayItem) :
    displayItems items = ",".intercalate (leavesOfAll items) := by
  rw [displayItems_eq, leavesOfAll_eq]
  exact (intercalate_flatMap "," (fun v _ => leaves_ne_nil v) h).symm

/-- An item of a list is shown by its leaves. -/
theorem intercalate_leaves (v : Json) : ",".intercalate v.leaves = v.displayItem := by
  induction v using induction with
  | null | bool b | number n | string s | object members => exact String.intercalate_singleton
  | array items ih =>
    cases items with
    | nil => rfl
    | cons v vs =>
      rw [leaves_array (List.cons_ne_nil v vs), ← displayItems_eq_leavesOfAll ih]
      rfl

/-- A list is shown by its leaves. -/
theorem display_array (items : List Json) :
    (array items).display = ",".intercalate (leavesOfAll items) := by
  rw [display]
  exact displayItems_eq_leavesOfAll fun v _ => intercalate_leaves v

/-! ## Grouping -/

/-- The second list is the first one in which items next to each other have been put into lists of
their own, at least one item into each. Inside these lists, and inside those that have been there
before, items may have been grouped in turn. -/
inductive Grouped : List Json → List Json → Prop
  | nil : Grouped [] []
  | item (v : Json) {vs ws : List Json} (rest : Grouped vs ws) : Grouped (v :: vs) (v :: ws)
  | inside {us us' vs ws : List Json} (below : Grouped us us') (rest : Grouped vs ws) :
    Grouped (.array us :: vs) (.array us' :: ws)
  | group {us us' vs ws : List Json} (some_item : us ≠ []) (below : Grouped us us')
    (rest : Grouped vs ws) : Grouped (us ++ vs) (.array us' :: ws)

/-- Grouping leaves no list empty that was not. -/
theorem Grouped.eq_nil_iff {vs ws : List Json} (h : Grouped vs ws) : ws = [] ↔ vs = [] := by
  cases h with
  | nil => exact Iff.rfl
  | item | inside => exact iff_of_false (List.cons_ne_nil _ _) (List.cons_ne_nil _ _)
  | group some_item =>
    exact iff_of_false (List.cons_ne_nil _ _) (List.append_ne_nil_of_left_ne_nil some_item _)

/-- Grouping keeps the leaves. -/
theorem Grouped.leaves_eq {vs ws : List Json} (h : Grouped vs ws) :
    leavesOfAll ws = leavesOfAll vs := by
  induction h with
  | nil => rfl
  | item v rest ih => rw [leavesOfAll, leavesOfAll, ih]
  | @inside us us' vs ws below rest ihBelow ihRest =>
    -- a list without items is a leaf, and grouping has left it alone
    have here : (array us').leaves = (array us).leaves := by
      by_cases empty : us = []
      · rw [empty, below.eq_nil_iff.mpr empty]
      · rw [leaves_array empty, leaves_array (mt below.eq_nil_iff.mp empty), ihBelow]
    rw [leavesOfAll, leavesOfAll, here, ihRest]
  | group some_item below rest ihBelow ihRest =>
    rw [leavesOfAll, leaves_array (mt below.eq_nil_iff.mp some_item), ihBelow, ihRest,
      leavesOfAll_append]

/-! ## Null -/

mutual

/-- A value with an empty text in the place of null, in all the lists that it nests as well. -/
def voided : Json → Json
  | .null => .string ""
  | .array items => .array (voidedItems items)
  | v => v

/-- Items with an empty text in the place of null. -/
def voidedItems : List Json → List Json
  | [] => []
  | v :: vs => v.voided :: voidedItems vs

end

theorem voidedItems_eq (items : List Json) : voidedItems items = items.map voided := by
  induction items with
  | nil => rfl
  | cons v vs ih => rw [voidedItems, ih, List.map_cons]

/-- Items that have the same leaves one by one have the same leaves together. -/
theorem leavesOfAll_map {f : Json → Json} {items : List Json}
    (h : ∀ v ∈ items, (f v).leaves = v.leaves) : leavesOfAll (items.map f) = leavesOfAll items := by
  rw [leavesOfAll_eq, leavesOfAll_eq, List.flatMap_map]
  exact List.flatMap_congr h

/-- In a list, null comes down to the same as an empty text. -/
theorem leaves_voided (v : Json) : v.voided.leaves = v.leaves := by
  induction v using induction with
  | null | bool b | number n | string s | object members => rfl
  | array items ih =>
    rw [voided, voidedItems_eq]
    cases items with
    | nil => rfl
    | cons v vs =>
      rw [leaves_array (by simp), leaves_array (List.cons_ne_nil v vs), leavesOfAll_map ih]

/-! ## Main result -/

/-- **A list is shown by its leaves**, with commas between them: those of its items in order, where
an item that is a list comes down to the leaves of its own items, and an empty list and null to an
empty text each. So items can be put into lists of their own anywhere in a list without a change of
the text, as long as none of these lists is empty. And null is only shown as `null` outside of
lists: in a list, however deep it stands there, an empty text could stand in its place. -/
theorem display_leaves (items : List Json) :
    (array items).display = ",".intercalate (leavesOfAll items) ∧
      (∀ grouped, Grouped items grouped → (array grouped).display = (array items).display) ∧
      null.display = "null" ∧ (array items).voided.display = (array items).display := by
  refine ⟨display_array items, ?_, rfl, ?_⟩
  · intro grouped h
    rw [display_array, display_array, h.leaves_eq]
  · rw [voided, voidedItems_eq, display_array, display_array,
      leavesOfAll_map fun v _ => leaves_voided v]

/-- Two names, a gap and a list without items, in groups. -/
theorem display_leaves_names :
    Grouped [.string "Ada", .null, .array [], .string "Bo"]
        [.string "Ada", .array [.array [.null, .array []], .string "Bo"]] ∧
      (array [.string "Ada", .null, .array [], .string "Bo"]).display = "Ada,,,Bo" ∧
      (array [.string "Ada", .array [.array [.null, .array []], .string "Bo"]]).display =
        "Ada,,,Bo" := by
  have gaps : Grouped [.null, .array []] [.null, .array []] := .item _ (.item _ .nil)
  have inner : Grouped ([.null, .array []] ++ [.string "Bo"])
      [.array [.null, .array []], .string "Bo"] :=
    .group (List.cons_ne_nil _ _) gaps (.item _ .nil)
  have outer : Grouped ([.null, .array [], .string "Bo"] ++ [])
      [.array [.array [.null, .array []], .string "Bo"]] :=
    .group (List.cons_ne_nil _ _) inner .nil
  have grouped : Grouped [.string "Ada", .null, .array [], .string "Bo"]
      [.string "Ada", .array [.array [.null, .array []], .string "Bo"]] := .item _ outer
  obtain ⟨shown, same, -, -⟩ := display_leaves [.string "Ada", .null, .array [], .string "Bo"]
  have text : (array [.string "Ada", .null, .array [], .string "Bo"]).display = "Ada,,,Bo" := by
    rw [shown]
    decide
  exact ⟨grouped, text, (same _ grouped).trans text⟩

/-- A group without items has a comma of its own. -/
example : (array [.string "Ada", .array [], .string "Bo"]).display = "Ada,,Bo" := by decide

end Json

end MailMerge
