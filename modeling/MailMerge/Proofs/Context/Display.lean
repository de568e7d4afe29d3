import MailMerge.Context.Display
import MailMerge.Proofs.Json.Token
import MailMerge.Proofs.Json.Value

/-!
# Stored values that show nothing

Nearly every stored value shows some text: a number has a digit, and a list of two or more items a
comma between them. What shows nothing is an empty string, a list without items, and a list with a
single item that shows nothing there.

## Main definitions

* `Json.Blank`: values that show nothing.

## Main results

* `Number.display_ne_empty`: a number shows something.
* `Json.display_eq_empty_iff`: just the blank values show nothing.
-/

namespace MailMerge

/-- However a number is laid out, some character is written for it. -/
theorem Decimal.Scientific.display_ne_nil (s : Scientific) : s.display ≠ [] := by
  rw [display, chars]
  refine List.append_ne_nil_of_right_ne_nil _ ?_
  split
  · simp only [positional]
    split_ifs with before short
    · exact List.cons_ne_nil _ _
    · -- a place in front of the point that has no digit of the number is filled up
      refine List.append_ne_nil_of_left_ne_nil (fun none => ?_) _
      have length := congrArg List.length none
      simp only [List.length_append, digitChars, List.length_map, List.length_replicate,
        List.length_nil] at length
      omega
    · exact List.append_ne_nil_of_right_ne_nil _ (List.cons_ne_nil _ _)
  · exact List.append_ne_nil_of_right_ne_nil _ (List.cons_ne_nil _ _)

/-- A number shows something. -/
theorem Number.display_ne_empty (n : Number) : n.display ≠ "" := by
  rw [ne_eq, ← String.toList_inj]
  cases n with
  | whole i =>
    obtain ⟨c, cs, chars, -⟩ := Json.exists_start_intChars i
    simp [display, chars]
  | double d =>
    rw [display, Decimal.Binary64.display]
    split
    · simp
    · simpa using (d.shortest .away).display_ne_nil

namespace Json

/-- Values that show nothing. -/
inductive Blank : Json → Prop
  | string : Blank (.string "")
  | noItems : Blank (.array [])
  | null : Blank (.array [.null])
  | item {v : Json} (blank : v.Blank) : Blank (.array [v])

/-- A list of one item shows what the item shows, and null as nothing. -/
theorem display_singleton {v : Json} (ne : v ≠ .null) : (array [v]).display = v.display := by
  cases v with
  | null => exact absurd rfl ne
  | bool | number | string | array | object => rfl

/-- A list of two or more items shows a comma. -/
theorem display_cons_cons_ne_empty (v w : Json) (items : List Json) :
    (array (v :: w :: items)).display ≠ "" := by
  intro none
  rw [display, displayItems_eq, List.map_cons, List.map_cons, String.intercalate_cons_cons] at none
  have comma := congrArg String.toList none
  simp at comma

/-- Just the blank values show nothing. -/
theorem display_eq_empty_iff (v : Json) : v.display = "" ↔ v.Blank := by
  induction v using induction with
  | null => exact ⟨by simp [display], nofun⟩
  | bool b => exact ⟨by cases b <;> simp [display], nofun⟩
  | number n => exact ⟨fun none => absurd none n.display_ne_empty, nofun⟩
  | object members => exact ⟨by simp [display], nofun⟩
  | string s =>
    constructor
    · rintro rfl
      exact .string
    · rintro ⟨⟩
      rfl
  | array items ih =>
    match items with
    | [] => exact ⟨fun _ => .noItems, fun _ => rfl⟩
    | v :: w :: items =>
      exact ⟨fun none => absurd none (display_cons_cons_ne_empty v w items), nofun⟩
    | [v] =>
      by_cases null : v = .null
      · subst null
        exact ⟨fun _ => .null, fun _ => rfl⟩
      · rw [display_singleton null, ih v List.mem_cons_self]
        constructor
        · exact .item
        · rintro (_ | _ | _ | blank)
          · exact absurd rfl null
          · exact blank

/-- A list may show nothing however deep it nests. -/
example : Blank (.array [.array [.string ""]]) := .item (.item .string)

end Json

end MailMerge
