import Mathlib
import MailMerge.Dict

/-!
# Computations that may fail, and dictionaries

Two things that every reader and every rule of the development comes down to: a computation in
steps succeeds iff its steps do, and a dictionary is what its keys read as, whatever it has been
put together from.

## Main results

* `bind_eq_ok_iff`, `mapM_eq_ok_iff`: steps in a row succeed iff each of them does.
* `mapM_ite`: items that can be refused for one reason only.
* `Dict.get?_insertAll`, `Dict.ofList_entries`: a dictionary put together from its entries.
-/

namespace MailMerge

section Steps

variable {ε α β : Type}

/-- A computation in two steps succeeds iff both steps do. -/
theorem bind_eq_ok_iff {x : Except ε α} {f : α → Except ε β} {b : β} :
    x >>= f = .ok b ↔ ∃ a, x = .ok a ∧ f a = .ok b := by
  cases x with
  | error e => simp [bind, Except.bind]
  | ok a => simp [bind, Except.bind]

/-- A computation on all items of a list succeeds iff it does on each of them. -/
theorem mapM_eq_ok_iff {f : α → Except ε β} {as : List α} {bs : List β} :
    as.mapM f = .ok bs ↔ List.Forall₂ (fun a b => f a = .ok b) as bs := by
  induction as generalizing bs with
  | nil =>
    rw [List.mapM_nil, List.forall₂_nil_left_iff]
    exact ⟨fun h => (Except.ok.inj h).symm, fun h => h ▸ rfl⟩
  | cons a as ih =>
    rw [List.mapM_cons, bind_eq_ok_iff, List.forall₂_cons_left_iff]
    constructor
    · rintro ⟨b, first, h⟩
      obtain ⟨bs', rest, h⟩ := bind_eq_ok_iff.mp h
      exact ⟨b, bs', first, ih.mp rest, (Except.ok.inj h).symm⟩
    · rintro ⟨b, bs', first, rest, rfl⟩
      exact ⟨b, first, bind_eq_ok_iff.mpr ⟨bs', ih.mpr rest, rfl⟩⟩

/-- Every result of a computation on the items of a list is the result for one of them. -/
theorem exists_of_mem_mapM {f : α → Except ε β} {as : List α} {bs : List β}
    (h : as.mapM f = .ok bs) {b : β} (mem : b ∈ bs) : ∃ a ∈ as, f a = .ok b := by
  induction mapM_eq_ok_iff.mp h with
  | nil => cases mem
  | cons first rest ih =>
    rcases List.mem_cons.mp mem with rfl | mem
    · exact ⟨_, List.mem_cons_self, first⟩
    · obtain ⟨a, here, read⟩ := ih (mapM_eq_ok_iff.mpr rest) mem
      exact ⟨a, List.mem_cons_of_mem _ here, read⟩

/-- Items that are refused for the same reason are accepted together or not at all. -/
theorem mapM_ite {p : α → Prop} [DecidablePred p] {f : α → Except ε β} {g : α → β} {e : ε}
    {as : List α} (h : ∀ a ∈ as, f a = if p a then .ok (g a) else .error e) :
    as.mapM f = if ∀ a ∈ as, p a then .ok (as.map g) else .error e := by
  induction as with
  | nil => rfl
  | cons a as ih =>
    rw [List.mapM_cons, h a List.mem_cons_self, ih fun a mem => h a (List.mem_cons_of_mem _ mem)]
    by_cases here : p a
    · by_cases below : ∀ a ∈ as, p a
      · rw [if_pos here, if_pos below, if_pos (List.forall_mem_cons.mpr ⟨here, below⟩)]
        rfl
      · rw [if_pos here, if_neg below, if_neg fun all => below (List.forall_mem_cons.mp all).2]
        rfl
    · rw [if_neg here, if_neg fun all => here (List.forall_mem_cons.mp all).1]
      rfl

end Steps

namespace Dict

variable {α β : Type}

@[simp] theorem insertAll_nil (d : Dict α) : d.insertAll [] = d := rfl

@[simp] theorem insertAll_cons (d : Dict α) (e : String × α) (es : List (String × α)) :
    d.insertAll (e :: es) = (d.insert e.1 e.2).insertAll es := rfl

theorem insertAll_append (d : Dict α) (es fs : List (String × α)) :
    d.insertAll (es ++ fs) = (d.insertAll es).insertAll fs := by
  rw [insertAll, List.foldl_append]
  rfl

/-- A key that occurs once at most reads as its entry. -/
theorem get?_insertAll {es : List (String × α)} (h : es.Pairwise fun a b => a.1 < b.1)
    (d : Dict α) (key : String) : (d.insertAll es).get? key = (lookup key es).or (d.get? key) := by
  induction es generalizing d with
  | nil => rfl
  | cons e es ih =>
    obtain ⟨k, v⟩ := e
    obtain ⟨first, rest⟩ := List.pairwise_cons.mp h
    rw [insertAll_cons, ih rest, get?_insert, lookup]
    by_cases eq : k = key
    · rw [if_pos eq, if_pos eq, lookup_eq_none_of_lt (eq ▸ first)]
      rfl
    · rw [if_neg eq, if_neg eq]

theorem get?_insertAll_entries (d e : Dict α) (key : String) :
    (d.insertAll e.entries).get? key = (e.get? key).or (d.get? key) :=
  get?_insertAll e.increasing d key

/-- A dictionary is put together from its entries. -/
theorem ofList_entries (d : Dict α) : ofList d.entries = d := by
  apply ext_get?
  intro key
  rw [ofList, get?_insertAll_entries, get?_empty, Option.or_none]

theorem lookup_map (f : α → β) (key : String) (es : List (String × α)) :
    lookup key (es.map fun e => (e.1, f e.2)) = (lookup key es).map f := by
  induction es with
  | nil => rfl
  | cons e es ih =>
    rw [List.map_cons, lookup, lookup, ih]
    split <;> rfl

@[simp] theorem get?_map (f : α → β) (d : Dict α) (key : String) :
    (d.map f).get? key = (d.get? key).map f :=
  lookup_map f key d.entries

theorem mem_insertAll {d : Dict α} {es : List (String × α)} {e : String × α}
    (h : e ∈ (d.insertAll es).entries) : e ∈ es ∨ e ∈ d.entries := by
  induction es generalizing d with
  | nil => exact .inr h
  | cons e' es ih =>
    rcases ih h with mem | mem
    · exact .inl (List.mem_cons_of_mem _ mem)
    · rcases mem_place mem with rfl | mem
      · exact .inl List.mem_cons_self
      · exact .inr mem

/-- A dictionary holds nothing but what it has been put together from. -/
theorem mem_ofList {es : List (String × α)} {e : String × α} (h : e ∈ (ofList es).entries) :
    e ∈ es :=
  (mem_insertAll h).resolve_right List.not_mem_nil

theorem entries_insertAll_ne_nil {d : Dict α} (h : d.entries ≠ []) (es : List (String × α)) :
    (d.insertAll es).entries ≠ [] := by
  induction es generalizing d with
  | nil => exact h
  | cons e es ih =>
    refine ih fun none => ?_
    have found := get?_insert d e.1 e.2 e.1
    rw [get?, none, if_pos rfl] at found
    cases found

/-- Only the empty dictionary is put together from nothing. -/
theorem entries_ofList_eq_nil_iff {es : List (String × α)} :
    (ofList es).entries = [] ↔ es = [] := by
  cases es with
  | nil => exact ⟨fun _ => rfl, fun _ => rfl⟩
  | cons e es =>
    refine ⟨fun none => absurd none ?_, nofun⟩
    exact entries_insertAll_ne_nil (by simp [insert, place, empty]) es

theorem lookup_eq_none_of_not_mem {key : String} {es : List (String × α)}
    (h : key ∉ es.map Prod.fst) : lookup key es = none := by
  induction es with
  | nil => rfl
  | cons e es ih =>
    rw [List.map_cons, List.mem_cons, not_or] at h
    rw [lookup, if_neg (Ne.symm h.1), ih h.2]

theorem lookup_of_mem {es : List (String × α)} (distinct : (es.map Prod.fst).Nodup)
    {e : String × α} (mem : e ∈ es) : lookup e.1 es = some e.2 := by
  induction es with
  | nil => cases mem
  | cons e' es ih =>
    rw [List.map_cons, List.nodup_cons] at distinct
    rw [lookup]
    rcases List.mem_cons.mp mem with rfl | mem
    · rw [if_pos rfl]
    · have ne : e'.1 ≠ e.1 := fun eq => distinct.1 (eq ▸ List.mem_map_of_mem mem)
      rw [if_neg ne, ih distinct.2 mem]

theorem nodup_keys_of_increasing {es : List (String × α)} (h : es.Pairwise fun a b => a.1 < b.1) :
    (es.map Prod.fst).Nodup :=
  List.pairwise_map.mpr (h.imp ne_of_lt)

/-- The entries of a dictionary are what its keys read as. -/
theorem get?_of_mem {d : Dict α} {e : String × α} (mem : e ∈ d.entries) :
    d.get? e.1 = some e.2 :=
  lookup_of_mem (nodup_keys_of_increasing d.increasing) mem

end Dict

end MailMerge
