import MailMerge.Proofs.Json.Members
import MailMerge.Proofs.Json.ReadBack

/-!
# The documents of a record

A record can be written down in many ways: as the list of its fields in order, or as an object in
which the fields stand in any order, with other keys among them and without those fields that need
not be there. The reader of an object takes the members as they come. It ends up in the same state
whatever their order is, because a field fills a slot of its own and another key fills none: what
has been read so far depends on the keys that have been met, and on nothing else.

## Main definitions

* `Json.Field`: a field of a record, with the values that may stand for it.
* `Json.RecordOf`: the documents of a record.
* `Json.HeldBy`: the texts that hold a value.
* `Json.slot`: what has been read of a field.

## Main results

* `Json.RecordOf.of_fields`: the object of all fields in order is a document.
* `Json.decode_object`: a record from an object, by what one step does.
* `Json.read_of_heldBy`: texts are read by what they hold.
-/

namespace MailMerge

namespace Json

/-! ## Documents -/

/-- A field of a record as it is written down: its key, the values that may stand for it, and
whether it may be left out. -/
structure Field where
  key : String
  Stands : Json → Prop
  Omissible : Prop

/-- A field that is always there. -/
@[simp] def Field.required (key : String) (Stands : Json → Prop) : Field := ⟨key, Stands, False⟩

/-- A field that may be null, and is then left out or not. -/
@[simp] def Field.nullable {α : Type} (key : String) (R : α → Json → Prop) (o : Option α) : Field :=
  ⟨key, Maybe R o, o = none⟩

/-- Members for the fields of a record, in order; some of those that need not be there are left
out. -/
inductive FieldsOf : List Field → List (String × Json) → Prop
  | nil : FieldsOf [] []
  | keep {f : Field} {fs : List Field} {v : Json} {ms : List (String × Json)} (stands : f.Stands v)
    (rest : FieldsOf fs ms) : FieldsOf (f :: fs) ((f.key, v) :: ms)
  | omit {f : Field} {fs : List Field} {ms : List (String × Json)} (omissible : f.Omissible)
    (rest : FieldsOf fs ms) : FieldsOf (f :: fs) ms

/-- The documents of a record: the list of all its fields in order, and the objects that have its
fields and other keys as members, in any order. -/
inductive RecordOf (fields : List Field) : Json → Prop
  | list {items : List Json} (each : List.Forall₂ Field.Stands fields items) :
    RecordOf fields (.array items)
  | object {members known others : List (String × Json)} (written : FieldsOf fields known)
    (foreign : ∀ m ∈ others, m.1 ∉ fields.map Field.key)
    (order : members.Perm (known ++ others)) : RecordOf fields (.object members)

/-- The value stands in the text, in whatever layout, with nothing but blanks behind it. -/
def HeldBy (v : Json) (text : String) : Prop :=
  (Draft.ofText text.toList).1 = .ofJson v ∧
    (skipBlanks (Draft.ofText text.toList).2).isEmpty = true

variable {fields : List Field} {members known : List (String × Json)} {v : Json}

theorem RecordOf.ne_null (h : RecordOf fields v) : v ≠ .null := by
  rintro rfl
  cases h

/-- The object of all fields in order is a document of the record. -/
theorem RecordOf.of_fields
    (h : List.Forall₂ (fun f m => m.1 = f.key ∧ f.Stands m.2) fields members) :
    RecordOf fields (.object members) := by
  have written : FieldsOf fields members := by
    induction h with
    | nil => exact .nil
    | @cons f m fs ms first rest ih =>
      obtain ⟨key, v⟩ := m
      obtain ⟨rfl, stands⟩ := first
      exact .keep stands ih
  exact @RecordOf.object fields members members [] written nofun (by rw [List.append_nil])

/-! ## Members of a document -/

theorem FieldsOf.keys (h : FieldsOf fields known) :
    (known.map Prod.fst).Sublist (fields.map Field.key) := by
  induction h with
  | nil => exact .slnil
  | keep stands rest ih => exact ih.cons_cons _
  | «omit» omissible rest ih => exact ih.cons _

/-- What stands under the key of a field may stand for it. -/
theorem FieldsOf.exists_field (h : FieldsOf fields known) {m : String × Json} (mem : m ∈ known) :
    ∃ f ∈ fields, f.key = m.1 ∧ f.Stands m.2 := by
  induction h with
  | nil => cases mem
  | keep stands rest ih =>
    rcases List.mem_cons.mp mem with rfl | mem
    · exact ⟨_, List.mem_cons_self, rfl, stands⟩
    · obtain ⟨f, here, found⟩ := ih mem
      exact ⟨f, List.mem_cons_of_mem _ here, found⟩
  | «omit» omissible rest ih =>
    obtain ⟨f, here, found⟩ := ih mem
    exact ⟨f, List.mem_cons_of_mem _ here, found⟩

/-- A field stands there unless it need not. -/
theorem FieldsOf.mem_or_omissible (h : FieldsOf fields known) :
    ∀ f ∈ fields, f.key ∈ known.map Prod.fst ∨ f.Omissible := by
  induction h with
  | nil => nofun
  | keep stands rest ih =>
    refine List.forall_mem_cons.mpr ⟨.inl List.mem_cons_self, fun f mem => ?_⟩
    exact (ih f mem).imp_left (List.mem_cons_of_mem _)
  | «omit» omissible rest ih => exact List.forall_mem_cons.mpr ⟨.inr omissible, ih⟩

/-- Members that can be read when those under the keys `seen` have been: a member under the key of a
field may stand for it, no two of them are under the same key, and none is under a key that has been
met before. -/
structure Readable (fields : List Field) (seen : List String) (members : List (String × Json)) :
    Prop where
  stands : ∀ m ∈ members, m.1 ∈ fields.map Field.key → ∃ f ∈ fields, f.key = m.1 ∧ f.Stands m.2
  distinct : members.Pairwise fun m m' => m.1 = m'.1 → m.1 ∉ fields.map Field.key
  unseen : ∀ m ∈ members, m.1 ∈ fields.map Field.key → m.1 ∉ seen

/-- The members of a document can be read, if no two fields have the same key. -/
theorem readable_of_document {others : List (String × Json)}
    (distinct : (fields.map Field.key).Nodup) (written : FieldsOf fields known)
    (foreign : ∀ m ∈ others, m.1 ∉ fields.map Field.key)
    (order : members.Perm (known ++ others)) : Readable fields [] members where
  stands m mem field := by
    rcases List.mem_append.mp (order.mem_iff.mp mem) with mem | mem
    · exact written.exists_field mem
    · exact absurd field (foreign m mem)
  distinct := by
    have keys : (known.map Prod.fst).Nodup := written.keys.nodup distinct
    rw [order.pairwise_iff fun h eq => eq ▸ h eq.symm, List.pairwise_append]
    refine ⟨(List.pairwise_map.mp keys).imp fun ne eq => absurd eq ne, ?_, ?_⟩
    · exact List.pairwise_of_forall_mem_list fun m mem m' _ _ => foreign m mem
    · exact fun m _ m' mem eq => eq ▸ foreign m' mem
  unseen _ _ _ := List.not_mem_nil

/-- What is left after the first member can be read when its key has been met as well. -/
theorem Readable.tail {seen : List String} {m : String × Json}
    (h : Readable fields seen (m :: members)) : Readable fields (m.1 :: seen) members where
  stands m' mem := h.stands m' (List.mem_cons_of_mem _ mem)
  distinct := (List.pairwise_cons.mp h.distinct).2
  unseen m' mem field := by
    rw [List.mem_cons, not_or]
    refine ⟨fun eq => ?_, h.unseen m' (List.mem_cons_of_mem _ mem) field⟩
    exact (List.pairwise_cons.mp h.distinct).1 m' mem eq.symm (eq ▸ field)

/-! ## Runs over the members of a document -/

/-- What has been read of a field when the members under the keys `seen` have been read. -/
def slot {α : Type} (seen : List String) (key : String) (a : α) : Option α :=
  if key ∈ seen then some a else none

section Run

variable {σ : Type} {step : σ → String → Draft → Read σ} {state : List String → σ}

/-- A run goes through the states that belong to the keys that have been met, if each of its steps
does so. -/
theorem readMembers_of_readable {seen : List String} (h : Readable fields seen members)
    (fills : ∀ f ∈ fields, ∀ seen v, f.key ∉ seen → f.Stands v →
      step (state seen) f.key (.ofJson v) = .ok (state (f.key :: seen)))
    (skips : ∀ key ∉ fields.map Field.key, ∀ seen v,
      step (state seen) key (.ofJson v) = .ok (state (key :: seen))) :
    readMembers step (state seen) members =
      .ok (state ((members.map Prod.fst).reverse ++ seen)) := by
  induction members generalizing seen with
  | nil => rfl
  | cons m members ih =>
    have first : step (state seen) m.1 (.ofJson m.2) = .ok (state (m.1 :: seen)) := by
      by_cases field : m.1 ∈ fields.map Field.key
      · obtain ⟨f, mem, key, stands⟩ := h.stands m List.mem_cons_self field
        have unseen := h.unseen m List.mem_cons_self field
        rw [← key] at unseen ⊢
        exact fills f mem seen m.2 unseen stands
      · exact skips m.1 field seen m.2
    rw [List.map_cons, List.reverse_cons, List.append_assoc, List.singleton_append]
    exact bind_eq_ok_iff.mpr ⟨_, first, ih h.tail⟩

/-- **The members of a document can stand in any order**: the run over them ends in a state in which
all fields have been met but those that need not be there, so a record is made of it if it is made
of such states. -/
theorem decode_object {α : Type} {step : Nat → σ → String → Draft → Read σ} {start : σ}
    {finish : σ → Read α} {levels : Nat} {a : α} (state : List String → σ)
    (h : RecordOf fields (.object members)) (expected : String) (first : state [] = start)
    (distinct : (fields.map Field.key).Nodup)
    (fills : ∀ f ∈ fields, ∀ seen v, f.key ∉ seen → f.Stands v →
      step levels (state seen) f.key (.ofJson v) = .ok (state (f.key :: seen)))
    (skips : ∀ key, (∀ f ∈ fields, key ≠ f.key) → ∀ seen v,
      step levels (state seen) key (.ofJson v) = .ok (state (key :: seen)))
    (last : ∀ seen, (∀ f ∈ fields, f.key ∈ seen ∨ f.Omissible) → finish (state seen) = .ok a) :
    (Decoder.members expected step start (levels + 1) (.ofJson (.object members)) >>= finish) =
      .ok a := by
  cases h with
  | @object _ known others written foreign order =>
    have readable := readable_of_document distinct written foreign order
    have run := readMembers_of_readable readable fills fun key other =>
      skips key fun f mem eq => other (eq ▸ List.mem_map_of_mem mem)
    rw [members_ofJson, ← first, run, List.append_nil]
    apply last
    intro f mem
    refine (written.mem_or_omissible f mem).imp_left fun met => ?_
    rw [List.mem_reverse, (order.map Prod.fst).mem_iff, List.map_append]
    exact List.mem_append_left _ met

end Run

/-! ## Slots -/

section Slots

variable {α : Type} {seen : List String} {key other : String} {a : α}

theorem slot_of_mem (h : key ∈ seen) : slot seen key a = some a := if_pos h

theorem slot_of_not_mem (h : key ∉ seen) : slot seen key a = none := if_neg h

@[simp] theorem slot_cons_self : slot (key :: seen) key a = some a := slot_of_mem List.mem_cons_self

@[simp] theorem slot_cons_of_ne (h : other ≠ key) :
    slot (other :: seen) key a = slot seen key a := by
  simp [slot, h.symm]

/-- A slot that is empty is filled with what is read. -/
theorem once_slot {value : Read α} (unseen : key ∉ seen) (h : value = .ok a) :
    once key (slot seen key a) value = .ok (some a) := by
  rw [slot_of_not_mem unseen, once_of_ok h]

/-- What has been read of a field that may be null, left out or not. -/
theorem join_slot {o : Option α} (h : key ∈ seen ∨ o = none) : (slot seen key o).join = o := by
  by_cases met : key ∈ seen
  · rw [slot_of_mem met]
    rfl
  · rw [slot_of_not_mem met, h.resolve_left met]
    rfl

/-- What has been read of a field that has a value of its own if it is left out. -/
theorem getD_slot {default : α} (h : key ∈ seen ∨ a = default) :
    (slot seen key a).getD default = a := by
  by_cases met : key ∈ seen
  · rw [slot_of_mem met]
    rfl
  · rw [slot_of_not_mem met, h.resolve_left met]
    rfl

end Slots

/-! ## Reading values -/

/-- A sound document is passed over. -/
theorem Draft.skip_ofJson (v : Json) : (Draft.ofJson v).skip = .ok () := by
  induction v using Json.induction with
  | null | bool b | number n | string s => rfl
  | array items ih =>
    have all : Draft.skipItems (Draft.ofItems items) = .ok () := by
      induction items with
      | nil => rfl
      | cons v vs rest =>
        obtain ⟨first, others⟩ := List.forall_mem_cons.mp ih
        exact bind_eq_ok_iff.mpr ⟨(), first, rest others⟩
    exact bind_eq_ok_iff.mpr ⟨(), all, rfl⟩
  | object members ih =>
    have all : Draft.skipMembers (Draft.ofMembers members) = .ok () := by
      induction members with
      | nil => rfl
      | cons m ms rest =>
        obtain ⟨first, others⟩ := List.forall_mem_cons.mp ih
        exact bind_eq_ok_iff.mpr ⟨(), first, rest others⟩
    exact bind_eq_ok_iff.mpr ⟨(), all, rfl⟩

@[simp] theorem string_ofJson (levels : Nat) (s : String) :
    Decoder.string levels (.ofJson (.string s)) = .ok s := rfl

/-- A value or null is read, if the values are and none of them is null. -/
theorem optional_of_maybe {α : Type} {decode : Decoder α} {R : α → Json → Prop} {levels : Nat}
    {o : Option α} (h : Maybe R o v)
    (reads : ∀ a, o = some a → R a v → v ≠ .null ∧ decode levels (.ofJson v) = .ok a) :
    Decoder.optional decode levels (.ofJson v) = .ok o := by
  cases o with
  | none =>
    obtain rfl : v = .null := h
    rfl
  | some a =>
    obtain ⟨some_value, read⟩ := reads a rfl h
    exact optional_ofJson some_value read

theorem optional_string_of_maybe {levels : Nat} {o : Option String}
    (h : Maybe (fun s v => v = .string s) o v) :
    Decoder.optional .string levels (.ofJson v) = .ok o := by
  refine optional_of_maybe h ?_
  rintro s - rfl
  exact ⟨nofun, rfl⟩

/-- A text is read by what it holds. -/
theorem read_of_heldBy {α : Type} {decode : Decoder α} {text : String} {a : α}
    (held : v.HeldBy text) (h : decode nesting (.ofJson v) = .ok a) : Json.read decode text = .ok a :=
  read_eq_ok_iff.mpr ⟨by rw [held.1, h], held.2⟩

/-- What is written for a value holds it. -/
theorem heldBy_write (style : Style) (words : v.Words) : v.HeldBy (v.write style) := by
  rw [HeldBy, ofText_write style words]
  exact ⟨rfl, rfl⟩

/-! ## Reading lists -/

namespace Row

variable {α β : Type} {item : Draft} {items : List Draft} {stop : Option Break} {a : α}

/-- A field that is there is read, and the rest of the list is left. -/
theorem run_take {decode : Draft → Read α} (h : decode item = .ok a) (index : Nat)
    (expected : String) :
    (Row.take index expected decode).run ⟨item :: items, stop⟩ = .ok (a, ⟨items, stop⟩) := by
  change (decode item >>= fun a => .ok (a, _)) = _
  rw [h]
  rfl

theorem run_takeOr {decode : Draft → Read α} (h : decode item = .ok a) (default : α) :
    (Row.takeOr default decode).run ⟨item :: items, stop⟩ = .ok (a, ⟨items, stop⟩) := by
  change (decode item >>= fun a => .ok (a, _)) = _
  rw [h]
  rfl

/-- One field after the other. -/
theorem run_bind_eq_ok_iff {first : RowReader α} {next : α → RowReader β} {row row'' : Row}
    {b : β} :
    (first >>= next).run row = .ok (b, row'') ↔
      ∃ a row', first.run row = .ok (a, row') ∧ (next a).run row' = .ok (b, row'') := by
  change ((first row >>= fun p => next p.1 p.2) = _) ↔ _
  rw [bind_eq_ok_iff, Prod.exists]
  rfl

theorem run_bind {first : RowReader α} {next : α → RowReader β} {row row' row'' : Row} {b : β}
    (read : first.run row = .ok (a, row')) (rest : (next a).run row' = .ok (b, row'')) :
    (first >>= next).run row = .ok (b, row'') :=
  run_bind_eq_ok_iff.mpr ⟨a, row', read, rest⟩

/-- A field that has been taken from a list has the property of all that is read for it. -/
theorem of_run_take {decode : Draft → Read α} {P : α → Prop} (h : Yields decode P) {index : Nat}
    {expected : String} {row row' : Row}
    (ok : (Row.take index expected decode).run row = .ok (a, row')) : P a := by
  obtain ⟨next, row₁, -, ok⟩ := run_bind_eq_ok_iff.mp ok
  cases next with
  | none => cases ok
  | some item =>
    obtain ⟨_, read, ok⟩ := bind_eq_ok_iff.mp ok
    cases ok
    exact h read

theorem of_run_takeOr {decode : Draft → Read α} {P : α → Prop} (h : Yields decode P) {default : α}
    (otherwise : P default) {row row' : Row}
    (ok : (Row.takeOr default decode).run row = .ok (a, row')) : P a := by
  obtain ⟨next, row₁, -, ok⟩ := run_bind_eq_ok_iff.mp ok
  cases next with
  | none =>
    cases ok
    exact otherwise
  | some item =>
    obtain ⟨_, read, ok⟩ := bind_eq_ok_iff.mp ok
    cases ok
    exact h read

end Row

/-- What a list of fields is read as. -/
theorem exists_run_of_fromRow {α : Type} {fields : Nat → RowReader α} {levels : Nat}
    {items : List Draft} {stop : Option Break} {a : α}
    (ok : fromRow fields levels items stop = .ok a) :
    ∃ levels row row', (fields levels).run row = .ok (a, row') := by
  cases levels with
  | zero => cases ok
  | succ levels =>
    obtain ⟨⟨b, row'⟩, run, ok⟩ := bind_eq_ok_iff.mp ok
    obtain ⟨_, -, ok⟩ := bind_eq_ok_iff.mp ok
    cases ok
    exact ⟨levels, _, row', run⟩

end Json

end MailMerge
