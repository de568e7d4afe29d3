/-!
# Dictionaries in key order

A `Dict` holds values under text keys and lists them by increasing key, compared
code point by code point. Attributes of a node, the stored values of a pub and the
unknown keys of a document are dictionaries: their order in the source text is
forgotten and they are always written in key order.

## Main definitions

* `Dict`: entries with strictly increasing keys.
* `Dict.insert`, `Dict.ofList`: adding entries, the last one under a key wins.
* `Dict.get?`: the value under a key.

## Main results

* `get?_insert`: an inserted key reads as the inserted value, every other key as before.
* `ext_get?`: a dictionary is determined by what its keys read as.
-/

namespace MailMerge

/-- Values under text keys, listed by strictly increasing key. -/
structure Dict (α : Type) where
  entries : List (String × α)
  increasing : entries.Pairwise (fun a b => a.1 < b.1) := by simp
deriving DecidableEq, Repr

namespace Dict

variable {α β : Type}

/-- The dictionary without entries. -/
def empty : Dict α := ⟨[], .nil⟩

instance : Inhabited (Dict α) := ⟨empty⟩

/-- True when there is no entry at all. -/
def isEmpty (d : Dict α) : Bool := d.entries.isEmpty

/-- The value of the first entry under `key`. -/
def lookup (key : String) : List (String × α) → Option α
  | [] => none
  | (k, v) :: rest => if k = key then some v else lookup key rest

/-- The value stored under `key`. -/
def get? (d : Dict α) (key : String) : Option α := lookup key d.entries

/-- The keys in increasing order. -/
def keys (d : Dict α) : List String := d.entries.map Prod.fst

/-- Puts an entry in its place among entries in key order, replacing one under the same key. -/
def place (key : String) (value : α) : List (String × α) → List (String × α)
  | [] => [(key, value)]
  | (k, v) :: rest =>
    if key < k then (key, value) :: (k, v) :: rest
    else if key = k then (key, value) :: rest
    else (k, v) :: place key value rest

theorem key_lt_or_eq_or_gt (a b : String) : a < b ∨ a = b ∨ b < a := by
  by_cases h : a < b
  · exact .inl h
  · by_cases h' : b < a
    · exact .inr (.inr h')
    · exact .inr (.inl (String.le_antisymm (String.not_lt.1 h') (String.not_lt.1 h)))

theorem mem_place {key : String} {value : α} {es : List (String × α)} {e : String × α}
    (h : e ∈ place key value es) : e = (key, value) ∨ e ∈ es := by
  induction es with
  | nil => simpa [place] using h
  | cons e' rest ih =>
    obtain ⟨k, v⟩ := e'
    simp only [place] at h
    split at h
    · simpa using h
    · split at h
      · simp only [List.mem_cons] at h ⊢
        exact h.imp_right Or.inr
      · simp only [List.mem_cons] at h ⊢
        rcases h with h | h
        · exact .inr (.inl h)
        · exact (ih h).imp_right Or.inr

theorem increasing_place (key : String) (value : α) {es : List (String × α)}
    (h : es.Pairwise (fun a b => a.1 < b.1)) :
    (place key value es).Pairwise (fun a b => a.1 < b.1) := by
  induction es with
  | nil => simp [place]
  | cons e rest ih =>
    obtain ⟨k, v⟩ := e
    obtain ⟨hk, hrest⟩ := List.pairwise_cons.1 h
    simp only [place]
    split
    · rename_i lt
      refine List.Pairwise.cons (fun b hb => ?_) h
      rcases List.mem_cons.1 hb with rfl | hb
      · exact lt
      · exact String.lt_trans lt (hk b hb)
    · split
      · rename_i eq
        subst eq
        exact List.Pairwise.cons hk hrest
      · rename_i nlt ne
        refine List.Pairwise.cons (fun b hb => ?_) (ih hrest)
        rcases mem_place hb with rfl | hb
        · exact (key_lt_or_eq_or_gt key k).resolve_left nlt |>.resolve_left ne
        · exact hk b hb

/-- Stores `value` under `key`. -/
def insert (d : Dict α) (key : String) (value : α) : Dict α :=
  ⟨place key value d.entries, increasing_place key value d.increasing⟩

/-- Stores entries one after the other, so that the last one under a key wins. -/
def insertAll (d : Dict α) (entries : List (String × α)) : Dict α :=
  entries.foldl (fun d e => d.insert e.1 e.2) d

/-- The dictionary of some entries, the last one under a key wins. -/
def ofList (entries : List (String × α)) : Dict α := empty.insertAll entries

/-- Applies a function to every value. -/
def map (f : α → β) (d : Dict α) : Dict β :=
  ⟨d.entries.map fun e => (e.1, f e.2), List.pairwise_map.2 d.increasing⟩

theorem lookup_place (key : String) (value : α) (es : List (String × α)) (k : String) :
    lookup k (place key value es) = if key = k then some value else lookup k es := by
  induction es with
  | nil => simp [place, lookup]
  | cons e rest ih =>
    obtain ⟨k', v⟩ := e
    grind [place, lookup]

/-- An inserted key reads as its value and every other key as before. -/
@[simp] theorem get?_insert (d : Dict α) (key : String) (value : α) (k : String) :
    (d.insert key value).get? k = if key = k then some value else d.get? k :=
  lookup_place key value d.entries k

@[simp] theorem get?_empty (k : String) : (empty : Dict α).get? k = none := rfl

theorem lookup_eq_none_of_lt {k : String} {es : List (String × α)}
    (h : ∀ e ∈ es, k < e.1) : lookup k es = none := by
  induction es with
  | nil => rfl
  | cons e rest ih => grind [lookup, String.lt_irrefl]

theorem eq_of_lookup_eq {es fs : List (String × α)}
    (he : es.Pairwise (fun a b => a.1 < b.1)) (hf : fs.Pairwise (fun a b => a.1 < b.1))
    (h : ∀ k, lookup k es = lookup k fs) : es = fs := by
  induction es generalizing fs with
  | nil =>
    cases fs with
    | nil => rfl
    | cons f fs => have := h f.1; simp [lookup] at this
  | cons e es ih =>
    cases fs with
    | nil => have := h e.1; simp [lookup] at this
    | cons f fs =>
      obtain ⟨k, v⟩ := e
      obtain ⟨k', v'⟩ := f
      obtain ⟨hes, hes'⟩ := List.pairwise_cons.1 he
      obtain ⟨hfs, hfs'⟩ := List.pairwise_cons.1 hf
      have key : k = k' := by
        rcases key_lt_or_eq_or_gt k k' with lt | eq | gt
        · have : lookup k ((k', v') :: fs) = none :=
            lookup_eq_none_of_lt (by grind [String.lt_trans])
          have := h k
          simp_all [lookup]
        · exact eq
        · have : lookup k' ((k, v) :: es) = none :=
            lookup_eq_none_of_lt (by grind [String.lt_trans])
          have := h k'
          simp_all [lookup]
      subst key
      have value : v = v' := by simpa [lookup] using h k
      subst value
      congr 1
      refine ih hes' hfs' fun j => ?_
      have := h j
      simp only [lookup] at this
      split at this
      · rename_i eq
        subst eq
        rw [lookup_eq_none_of_lt hes, lookup_eq_none_of_lt hfs]
      · exact this

/-- A dictionary is determined by what its keys read as. -/
theorem ext_get? {d e : Dict α} (h : ∀ k, d.get? k = e.get? k) : d = e := by
  cases d with | mk ds hd =>
  cases e with | mk es he =>
  congr 1
  exact eq_of_lookup_eq hd he h

end Dict

end MailMerge
