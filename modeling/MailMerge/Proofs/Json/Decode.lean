import MailMerge.Json.Decode
import MailMerge.Proofs.Json.Value

/-!
# What decoders tell about a value

A decoder takes a draft apart without ever making a value of it. Still, whenever it succeeds the
draft has a value, and what the decoder returns is related to that value in a way that is the
same for all drafts. Such a relation is shown for a decoder from the relations of its parts. For
the members of an object there is one rule: if a step fills the slot of its key and leaves all other
slots alone, then in the end every slot holds what the object has under its key.

## Main definitions

* `Tells`: a relation between what is returned and the value of the draft.
* `Maybe`: the relation for values that may be null.
* `Fills`: a step in which the slot of a key is filled.

## Main results

* `tells_optional`, `tells_listOf`: decoders made from other decoders.
* `tells_members`: records, from one step.
-/

namespace MailMerge.Json

variable {α β σ : Type} {levels : Nat}

/-- What `read` returns is related to the value of the draft, which has one that nests at most
`levels` arrays and objects. -/
def Tells (levels : Nat) (read : Draft → Read α) (R : α → Json → Prop) : Prop :=
  ∀ ⦃draft : Draft⦄ ⦃a : α⦄, read draft = .ok a → ∃ v, draft.toJson levels = .ok v ∧ R a v

theorem Tells.imp {read : Draft → Read α} {R S : α → Json → Prop} (h : Tells levels read R)
    (imp : ∀ a v, R a v → S a v) : Tells levels read S := by
  intro draft a ok
  obtain ⟨v, value, rel⟩ := h ok
  exact ⟨v, value, imp a v rel⟩

/-- What is made of a value that has been read tells what it is made of. -/
theorem Tells.bind {read : Draft → Read α} {f : α → Read β} {R : α → Json → Prop}
    {S : β → Json → Prop} (h : Tells levels read R)
    (makes : ∀ a b v, f a = .ok b → R a v → S b v) :
    Tells levels (fun draft => read draft >>= f) S := by
  intro draft b ok
  obtain ⟨a, first, ok⟩ := bind_eq_ok_iff.mp ok
  obtain ⟨v, value, rel⟩ := h first
  exact ⟨v, value, makes a b v ok rel⟩

/-- A mismatch is reported, whatever the draft is. -/
theorem mismatch_ne_ok (expected : String) (draft : Draft) (a : α) :
    mismatch expected draft ≠ .ok a := by
  intro h
  obtain ⟨_, -, h⟩ := bind_eq_ok_iff.mp h
  cases h

theorem once_eq_ok_iff {field : String} {found o : Option α} {value : Read α} :
    once field found value = .ok o ↔ found = none ∧ ∃ a, value = .ok a ∧ o = some a := by
  rw [once]
  cases found with
  | some a => simp [unfit]
  | none => cases value <;> simp [Except.map, eq_comm]

theorem required_eq_ok_iff {field : String} {found : Option α} {a : α} :
    required field found = .ok a ↔ found = some a := by
  cases found <;> simp [required, unfit]

/-- A text is read if its draft is and nothing but blanks follows. -/
theorem read_eq_ok_iff {reader : Nat → Draft → Read α} {text : String} {a : α} :
    Json.read reader text = .ok a ↔
      reader nesting (Draft.ofText text.toList).1 = .ok a ∧
        (skipBlanks (Draft.ofText text.toList).2).isEmpty = true := by
  rw [Json.read]
  generalize Draft.ofText text.toList = found
  obtain ⟨draft, rest⟩ := found
  dsimp only
  rw [bind_eq_ok_iff]
  constructor
  · rintro ⟨b, read, h⟩
    split at h
    · rename_i ends
      cases h
      exact ⟨read, ends⟩
    · cases h
  · rintro ⟨read, ends⟩
    exact ⟨a, read, by rw [if_pos ends]; rfl⟩

/-! ## Simple data -/

theorem tells_string (levels : Nat) :
    Tells levels (Decoder.string levels) fun s v => v = .string s := by
  intro draft s ok
  cases draft with
  | string text =>
    obtain rfl : text = .ok s := by cases text <;> cases ok; rfl
    exact ⟨.string s, by cases levels <;> rfl, rfl⟩
  | _ => exact absurd ok (mismatch_ne_ok _ _ _)

/-- What an optional value tells: nothing is null. -/
def Maybe (R : α → Json → Prop) : Option α → Json → Prop
  | none, v => v = .null
  | some a, v => R a v

/-- An optional value has been read from null, or it is a value that has been read. -/
theorem optional_cases {decode : Decoder α} {draft : Draft} {o : Option α}
    (ok : Decoder.optional decode levels draft = .ok o) :
    (draft = .null ∧ o = none) ∨ ∃ a, decode levels draft = .ok a ∧ o = some a := by
  rw [Decoder.optional.eq_def] at ok
  split at ok
  · cases ok
    exact .inl ⟨rfl, rfl⟩
  · cases ok
  · obtain ⟨a, read, ok⟩ := bind_eq_ok_iff.mp ok
    cases ok
    exact .inr ⟨a, read, rfl⟩

theorem tells_optional {decode : Decoder α} {R : α → Json → Prop}
    (h : Tells levels (decode levels) R) :
    Tells levels (Decoder.optional decode levels) (Maybe R) := by
  intro draft o ok
  obtain ⟨rfl, rfl⟩ | ⟨a, read, rfl⟩ := optional_cases ok
  · exact ⟨.null, by cases levels <;> rfl, rfl⟩
  · exact h read

/-- The items of a list tell what each of them does. -/
theorem tells_mapM {read : Draft → Read α} {R : α → Json → Prop} (h : Tells levels read R)
    {items : List Draft} {as : List α} (ok : items.mapM read = .ok as) :
    ∃ vs, items.mapM (Draft.toJson levels) = .ok vs ∧ List.Forall₂ R as vs := by
  induction mapM_eq_ok_iff.mp ok with
  | nil => exact ⟨[], rfl, .nil⟩
  | cons first rest ih =>
    obtain ⟨v, value, rel⟩ := h first
    obtain ⟨vs, values, rels⟩ := ih (mapM_eq_ok_iff.mpr rest)
    exact ⟨v :: vs, mapM_eq_ok_iff.mpr (.cons value (mapM_eq_ok_iff.mp values)), .cons rel rels⟩

theorem tells_map {read : Draft → Read α} {R : α → Json → Prop} (h : Tells levels read R)
    (f : α → β) :
    Tells levels (fun draft => (read draft).map f) fun b v => ∃ a, b = f a ∧ R a v := by
  intro draft b ok
  dsimp only at ok
  cases first : read draft with
  | error e =>
    rw [first] at ok
    cases ok
  | ok a =>
    rw [first] at ok
    cases ok
    obtain ⟨v, value, rel⟩ := h first
    exact ⟨v, value, a, rfl, rel⟩

theorem tells_listOf {decode : Decoder α} {R : α → Json → Prop}
    (h : Tells (levels - 1) (decode (levels - 1)) R) :
    Tells levels (Decoder.listOf decode levels) fun as v =>
      ∃ items, v = .array items ∧ List.Forall₂ R as items := by
  intro draft as ok
  rw [Decoder.listOf.eq_def] at ok
  split at ok
  · cases ok
  · rename_i levels items stop
    obtain ⟨as', each, ok⟩ := bind_eq_ok_iff.mp ok
    obtain ⟨_, ends, ok⟩ := bind_eq_ok_iff.mp ok
    cases ok
    obtain ⟨vs, values, rels⟩ := tells_mapM h each
    refine ⟨.array vs, ?_, vs, rfl, rels⟩
    exact bind_eq_ok_iff.mpr ⟨vs, values, bind_eq_ok_iff.mpr ⟨(), ends, rfl⟩⟩
  · exact absurd ok (mismatch_ne_ok _ _ _)

/-! ## Records -/

section Members

variable {step : Nat → σ → String → Draft → Read σ} {H : σ → String → Option Json → Prop}
  {s s' : σ} {key : String} {draft : Draft}

/-- A step that fills the slot of its key: what it has read is the value under that key from now on,
and all other slots are left alone. -/
def Fills (levels : Nat) (H : σ → String → Option Json → Prop) (s : σ) (key : String)
    (draft : Draft) (s' : σ) : Prop :=
  ∃ v, draft.toJson levels = .ok v ∧ (∀ o, H s key o → H s' key (some v)) ∧
    ∀ k, k ≠ key → ∀ o, H s k o → H s' k o

/-- A field that is read once fills its slot with what its reader tells. -/
theorem fills_once {field : String} {found : Option α} {read : Draft → Read α}
    {R : α → Json → Prop} {put : Option α → σ}
    (ok : (do return put (← once field found (read draft))) = (.ok s' : Read σ))
    (h : Tells levels read R)
    (here : ∀ a v, R a v → ∀ o, H s key o → H (put (some a)) key (some v))
    (elsewhere : ∀ a k, k ≠ key → ∀ o, H s k o → H (put (some a)) k o) :
    Fills levels H s key draft s' := by
  obtain ⟨o, once, ret⟩ := bind_eq_ok_iff.mp ok
  obtain ⟨-, a, read, rfl⟩ := once_eq_ok_iff.mp once
  obtain ⟨v, value, rel⟩ := h read
  cases ret
  exact ⟨v, value, here a v rel, elsewhere a⟩

/-- A value that is kept under its key is the value of its draft. -/
theorem fills_anything {put : Json → σ}
    (ok : (do return put (← Decoder.anything levels draft)) = (.ok s' : Read σ))
    (here : ∀ v, v.sorted = v → ∀ o, H s key o → H (put v) key (some v))
    (elsewhere : ∀ v k, k ≠ key → ∀ o, H s k o → H (put v) k o) :
    Fills levels H s key draft s' := by
  obtain ⟨v, value, ret⟩ := bind_eq_ok_iff.mp ok
  cases ret
  exact ⟨v, value, here v (Draft.sorted_of_toJson value), elsewhere v⟩

/-- The run of a reader of members that fills the slot of a key at each step: in the end all slots
hold what the members, put together, have under their keys. -/
theorem holds_foldlM
    (fills : ∀ s key draft s', step levels s key draft = .ok s' → Fills levels H s key draft s')
    {members : List (Except Fault String × Draft)} {d : Dict Json}
    (start : ∀ key, H s key (d.get? key))
    (run : (members.foldlM (fun s m => do
      let key ← valueOf m.1
      step levels s key m.2) s) = .ok s') :
    ∃ vs, (members.mapM fun m => do
        let key ← valueOf m.1
        let value ← Draft.toJson levels m.2
        return (key, value)) = .ok vs ∧
      ∀ key, H s' key ((d.insertAll vs).get? key) := by
  induction members generalizing s d with
  | nil =>
    cases run
    exact ⟨[], rfl, start⟩
  | cons m members ih =>
    rw [List.foldlM_cons] at run
    obtain ⟨s₁, first, run⟩ := bind_eq_ok_iff.mp run
    obtain ⟨key, named, first⟩ := bind_eq_ok_iff.mp first
    obtain ⟨v, value, here, elsewhere⟩ := fills s key m.2 s₁ first
    have next : ∀ k, H s₁ k ((d.insert key v).get? k) := by
      intro k
      rw [Dict.get?_insert]
      split
      · rename_i eq
        exact eq ▸ here _ (start key)
      · rename_i ne
        exact elsewhere k (Ne.symm ne) _ (start k)
    obtain ⟨vs, values, last⟩ := ih next run
    refine ⟨(key, v) :: vs, ?_, last⟩
    rw [List.mapM_cons]
    refine bind_eq_ok_iff.mpr ⟨(key, v), ?_, bind_eq_ok_iff.mpr ⟨vs, values, rfl⟩⟩
    exact bind_eq_ok_iff.mpr ⟨key, named, bind_eq_ok_iff.mpr ⟨v, value, rfl⟩⟩

/-- The run that a record has been read by. -/
theorem exists_run_of_members {expected : String} {start : σ}
    (ok : Decoder.members expected step start levels draft = .ok s) :
    ∃ l members stop, levels = l + 1 ∧ draft = .object members stop ∧
      (members.foldlM (fun s m => do
        let key ← valueOf m.1
        step l s key m.2) start) = .ok s ∧ endOf stop = .ok () := by
  rw [Decoder.members.eq_def] at ok
  split at ok
  · cases ok
  · rename_i levels members stop
    obtain ⟨_, run, ok⟩ := bind_eq_ok_iff.mp ok
    obtain ⟨_, ends, ok⟩ := bind_eq_ok_iff.mp ok
    cases ok
    exact ⟨levels, members, stop, rfl, rfl, run, ends⟩
  · exact absurd ok (mismatch_ne_ok _ _ _)

/-- A record tells what its steps do. -/
theorem tells_members {expected : String} {start : σ} (init : ∀ key, H start key none)
    (fills : ∀ s key draft s', step (levels - 1) s key draft = .ok s' →
      Fills (levels - 1) H s key draft s') :
    Tells levels (Decoder.members expected step start levels) fun s v =>
      ∃ d, v = .ofDict d ∧ ∀ key, H s key (d.get? key) := by
  intro draft s ok
  obtain ⟨levels, members, stop, rfl, rfl, run, ends⟩ := exists_run_of_members ok
  obtain ⟨vs, values, holds⟩ := holds_foldlM fills (d := .empty) init run
  refine ⟨.ofDict (.ofList vs), ?_, .ofList vs, rfl, holds⟩
  exact bind_eq_ok_iff.mpr ⟨vs, values, bind_eq_ok_iff.mpr ⟨(), ends, rfl⟩⟩

end Members

/-- A dictionary of texts is the object with these texts. -/
theorem tells_texts (levels : Nat) :
    Tells levels (Decoder.dictOf .string levels) fun d v => v = .ofTexts d := by
  refine (tells_members (H := fun d key o => (d.get? key).map Json.string = o)
    (fun _ => rfl) fun d key draft d' ok => ?_).imp ?_
  · obtain ⟨s, text, ok⟩ := bind_eq_ok_iff.mp ok
    cases ok
    obtain ⟨v, value, rfl⟩ := tells_string _ text
    refine ⟨.string s, value, fun o _ => ?_, fun k ne o holds => ?_⟩
    · dsimp only
      rw [Dict.get?_insert, if_pos rfl, Option.map_some]
    · dsimp only at holds ⊢
      rw [Dict.get?_insert, if_neg (Ne.symm ne), holds]
  · rintro d _ ⟨e, rfl, holds⟩
    have : e = d.map .string := by
      apply Dict.ext_get?
      intro key
      rw [Dict.get?_map, holds]
    rw [this, ofTexts]

end MailMerge.Json
