import MailMerge.Proofs.Json.Decode

/-!
# Members read back

An object is read member by member, and what has been read so far is kept in a state. When every
field finds its slot empty and its value is read back, the run ends in the state in which all slots
hold what was written.

## Main definitions

* `readMembers`: reads the members of an object from front to back.
* `Dict.InKeyOrder`: dictionaries of values whose members are in key order.
* `Yields`: a property of all that is read.

## Main results

* `members_ofJson`: the reader of an object is the run over its members.
* `readMembers_append`, `readMembers_map`, `readMembers_others`: the parts of an object.
* `optional_ofJson`, `once_of_ok`, `once_optional`: values in slots.
* `yields_members`: an invariant of the steps is one of the run.
-/

namespace MailMerge

open Json (Draft Read Decoder)

variable {α σ : Type} {levels : Nat}

/-! ## Room -/

theorem exists_levels_of_depth_array {items : List Json}
    (flat : (Json.array items).depth ≤ levels) : ∃ l, levels = l + 1 :=
  ⟨levels - 1, by rw [Json.depth] at flat; omega⟩

theorem exists_levels_of_depth_object {members : List (String × Json)}
    (flat : (Json.object members).depth ≤ levels) : ∃ l, levels = l + 1 :=
  ⟨levels - 1, by rw [Json.depth] at flat; omega⟩

/-! ## Runs -/

/-- Reads members from front to back. -/
def readMembers (step : σ → String → Draft → Read σ) (s : σ) (members : List (String × Json)) :
    Read σ :=
  members.foldlM (fun s m => step s m.1 (.ofJson m.2)) s

theorem members_ofJson {expected : String} {step : Nat → σ → String → Draft → Read σ} {start : σ}
    (members : List (String × Json)) :
    Decoder.members expected step start (levels + 1) (.ofJson (.object members)) =
      readMembers (step levels) start members := by
  rw [Draft.ofJson, Decoder.members, Draft.ofMembers_eq, List.foldlM_map]
  change (readMembers (step levels) start members >>= fun s => .ok s) = _
  cases readMembers (step levels) start members <;> rfl

theorem readMembers_append {step : σ → String → Draft → Read σ} {s s'' : σ}
    {ms ns : List (String × Json)} (s' : σ) (first : readMembers step s ms = .ok s')
    (second : readMembers step s' ns = .ok s'') : readMembers step s (ms ++ ns) = .ok s'' := by
  rw [readMembers, List.foldlM_append]
  exact bind_eq_ok_iff.mpr ⟨s', first, second⟩

/-- The entries of a dictionary are read back if each of them is. -/
theorem readMembers_map {step : σ → String → Draft → Read σ} {d : Dict α} {write : α → Json}
    (put : Dict α → σ)
    (reads : ∀ e ∈ d.entries, ∀ d', step (put d') e.1 (.ofJson (write e.2)) =
      .ok (put (d'.insert e.1 e.2))) :
    readMembers step (put .empty) (d.map write).entries = .ok (put d) := by
  -- the induction is on the entries that are left; those that have been read are in `d'`
  have all : ∀ (es : List (String × α)) (d' : Dict α), (∀ e ∈ es, e ∈ d.entries) →
      readMembers step (put d') (es.map fun e => (e.1, write e.2)) =
        .ok (put (d'.insertAll es)) := by
    intro es
    induction es with
    | nil => exact fun d' _ => rfl
    | cons e es ih =>
      intro d' sub
      obtain ⟨first, rest⟩ := List.forall_mem_cons.mp sub
      exact bind_eq_ok_iff.mpr ⟨_, reads e first d', ih _ rest⟩
  have := all d.entries .empty fun _ mem => mem
  rwa [← Dict.ofList, Dict.ofList_entries] at this

/-- All other keys are read back if each of them is kept. -/
theorem readMembers_others {step : σ → String → Draft → Read σ} {others : Dict Json}
    (put : Dict Json → σ)
    (keeps : ∀ e ∈ others.entries, ∀ d, step (put d) e.1 (.ofJson e.2) =
      .ok (put (d.insert e.1 e.2))) :
    readMembers step (put .empty) others.entries = .ok (put others) := by
  have same : (others.map id).entries = others.entries := List.map_id _
  rw [← same]
  exact readMembers_map put keeps

theorem dictOf_ofTexts (d : Dict String) :
    Decoder.dictOf .string (levels + 1) (.ofJson (.ofTexts d)) = .ok d := by
  rw [Decoder.dictOf, Json.ofTexts, Json.ofDict, members_ofJson]
  exact readMembers_map id fun e _ d' => rfl

/-- A value under a key without a meaning is read as it is. -/
theorem anything_ofJson {v : Json} (sorted : v.sorted = v) (flat : v.depth ≤ levels) :
    Decoder.anything levels (.ofJson v) = .ok v := by
  rw [Decoder.anything, Draft.toJson_ofJson flat, sorted]

/-- The members of all objects among the values of a dictionary are in key order. -/
def Dict.InKeyOrder (d : Dict Json) : Prop := ∀ e ∈ d.entries, e.2.sorted = e.2

theorem Dict.inKeyOrder_empty : (empty : Dict Json).InKeyOrder :=
  fun _ mem => absurd mem List.not_mem_nil

/-- A dictionary of values in key order is read as it is. -/
theorem dictOf_ofDict {d : Dict Json} (ordered : d.InKeyOrder)
    (flat : (Json.ofDict d).depth ≤ levels) :
    Decoder.dictOf .anything levels (.ofJson (.ofDict d)) = .ok d := by
  obtain ⟨levels, rfl⟩ := exists_levels_of_depth_object flat
  rw [Decoder.dictOf, Json.ofDict, members_ofJson]
  refine readMembers_others id fun e mem d' => ?_
  rw [anything_ofJson (ordered e mem) (Json.depth_object_le_iff.mp flat e mem)]
  rfl

/-! ## Slots -/

/-- A value that is not null is read back as an optional one. -/
theorem optional_ofJson {decode : Decoder α} {v : Json} (some_value : v ≠ .null) {a : α}
    (reads : decode levels (.ofJson v) = .ok a) :
    Decoder.optional decode levels (.ofJson v) = .ok (some a) := by
  have : Decoder.optional decode levels (.ofJson v) =
      (decode levels (.ofJson v) >>= fun a => .ok (some a)) := by
    cases v with
    | null => exact absurd rfl some_value
    | _ => rfl
  rw [this, reads]
  rfl

theorem join_map_some (o : Option α) : (o.map some).join = o := by
  cases o <;> rfl

theorem once_of_ok {field : String} {value : Read α} {a : α} (h : value = .ok a) :
    Json.once field none value = .ok (some a) :=
  Json.once_eq_ok_iff.mpr ⟨rfl, a, h, rfl⟩

/-- An optional field whose slot is empty is filled with its value. -/
theorem once_optional {field : String} {decode : Decoder α} {v : Json} {a : α}
    (put : Option (Option α) → σ) (some_value : v ≠ .null)
    (reads : decode levels (.ofJson v) = .ok a) :
    (do return put (← Json.once field none (Decoder.optional decode levels (.ofJson v)))) =
      (.ok (put (some (some a))) : Read σ) :=
  bind_eq_ok_iff.mpr ⟨_, once_of_ok (optional_ofJson some_value reads), rfl⟩

/-! ## Invariants of readers -/

/-- Whatever is read has a property. -/
def Yields (read : Draft → Read α) (P : α → Prop) : Prop := ∀ ⦃draft a⦄, read draft = .ok a → P a

/-- What is read of an object has a property that every step keeps. -/
theorem yields_members {expected : String} {step : Nat → σ → String → Draft → Read σ} {start : σ}
    {P : σ → Prop} (init : P start)
    (keeps : ∀ levels s key draft s', step levels s key draft = .ok s' → P s → P s') :
    Yields (Decoder.members expected step start levels) P := by
  intro draft s ok
  obtain ⟨levels, members, stop, rfl, -, run, -⟩ := Json.exists_run_of_members ok
  clear ok
  induction members generalizing start with
  | nil =>
    cases run
    exact init
  | cons m members ih =>
    obtain ⟨s₁, first, run⟩ := bind_eq_ok_iff.mp run
    obtain ⟨key, -, first⟩ := bind_eq_ok_iff.mp first
    exact ih (keeps levels start key m.2 s₁ first init) run

theorem yields_optional {decode : Decoder α} {P : α → Prop} (h : Yields (decode levels) P) :
    Yields (Decoder.optional decode levels) fun o => ∀ a, o = some a → P a := by
  intro draft o ok
  obtain ⟨-, rfl⟩ | ⟨a, read, rfl⟩ := Json.optional_cases ok
  · nofun
  · rintro _ ⟨⟩
    exact h read

/-- The values of a dictionary that has been read are in key order. -/
theorem yields_dictOf_anything (levels : Nat) :
    Yields (Decoder.dictOf .anything levels) Dict.InKeyOrder := by
  refine yields_members Dict.inKeyOrder_empty fun levels d key draft d' ok ordered e mem => ?_
  obtain ⟨v, read, ok⟩ := bind_eq_ok_iff.mp ok
  cases ok
  rcases Dict.mem_place mem with rfl | mem
  · exact Draft.sorted_of_toJson read
  · exact ordered e mem

end MailMerge
