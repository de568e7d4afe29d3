import MailMerge.Context.Codec
import MailMerge.Context.Sample
import MailMerge.Proofs.Json.Record

/-!
# Contexts in documents

A context is a record of records. Each of them can be written down in its own way: as an object
with its fields in any order, with unknown keys among them and without a last name, stored values,
an assignee or a parent where there are none, or as the list of all its fields in order. All these
documents are read as the same context.

Only what belongs to the context has to fit into the levels that the reader allows: what stands
under an unknown key is passed over, however deep it nests.

## Main definitions

* `User.Document`, `Recipient.Document`, `Assignee.Document`, `Pub.Document`, `Context.Document`:
  the documents of each record.
* `Context.InKeyOrder`: contexts whose stored values have their members in key order.

## Main results

* `Context.document_toJson`: what is written for a context is one of its documents.
* `Context.decode_document`: any document of a context is read as the context.
* `Context.inKeyOrder_of_decode`: contexts that have been read are in key order.
* `Context.document_exact`: the same for documents and for the texts that hold them.
-/

namespace MailMerge

open Json (Draft Read Decoder Field RecordOf Maybe Row fromRow once required slot)

/-! ## Documents -/

/-- The fields of a user. -/
def User.fields (u : User) : List Field := [
  .required "id" (· = .string u.id),
  .required "firstName" (· = .string u.firstName),
  .nullable "lastName" (fun s v => v = .string s) u.lastName,
  .required "email" (· = .string u.email)]

/-- The documents of a user. -/
def User.Document (u : User) : Json → Prop := RecordOf u.fields

/-- The fields of a recipient. -/
def Recipient.fields (r : Recipient) : List Field := [
  .required "id" (· = .string r.id),
  .required "user" r.user.Document]

/-- The documents of a recipient. -/
def Recipient.Document (r : Recipient) : Json → Prop := RecordOf r.fields

/-- The fields of an assignee. -/
def Assignee.fields (a : Assignee) : List Field := [
  .required "firstName" (· = .string a.firstName),
  .nullable "lastName" (fun s v => v = .string s) a.lastName,
  .required "email" (· = .string a.email)]

/-- The documents of an assignee. -/
def Assignee.Document (a : Assignee) : Json → Prop := RecordOf a.fields

/-- The fields of a publication. Without stored values the field for them may be left out. -/
def Pub.fields (p : Pub) : List Field := [
  .required "id" (· = .string p.id),
  ⟨"values", (· = .ofDict p.values), p.values = .empty⟩,
  .nullable "assignee" Assignee.Document p.assignee]

/-- The documents of a publication. -/
def Pub.Document (p : Pub) : Json → Prop := RecordOf p.fields

/-- The fields of a context. -/
def Context.fields (c : Context) : List Field := [
  .required "recipient" c.recipient.Document,
  .required "communitySlug" (· = .string c.communitySlug),
  .required "pub" c.pub.Document,
  .nullable "parentPub" Pub.Document c.parentPub]

/-- The documents of a context: each of its records in its own way. -/
def Context.Document (c : Context) : Json → Prop := RecordOf c.fields

/-- The members of all objects among the stored values are in key order, as they are in values that
have been read. -/
def Pub.InKeyOrder (p : Pub) : Prop := p.values.InKeyOrder

/-- The stored values of both publications are in key order. -/
structure Context.InKeyOrder (c : Context) : Prop where
  pub : c.pub.InKeyOrder
  parentPub : ∀ p, c.parentPub = some p → p.InKeyOrder

/-! ## What is written is a document -/

theorem Json.maybe_ofString? (o : Option String) :
    Maybe (fun s v => v = .string s) o (.ofString? o) := by
  cases o <;> rfl

theorem Json.maybe_ofOption {α : Type} {R : α → Json → Prop} {toJson : α → Json}
    (h : ∀ a, R a (toJson a)) (o : Option α) : Maybe R o (.ofOption toJson o) := by
  cases o with
  | none => rfl
  | some a => exact h a

theorem User.document_toJson (u : User) : u.Document u.toJson :=
  .of_fields (.cons ⟨rfl, rfl⟩ (.cons ⟨rfl, rfl⟩
    (.cons ⟨rfl, Json.maybe_ofString? u.lastName⟩ (.cons ⟨rfl, rfl⟩ .nil))))

theorem Recipient.document_toJson (r : Recipient) : r.Document r.toJson :=
  .of_fields (.cons ⟨rfl, rfl⟩ (.cons ⟨rfl, r.user.document_toJson⟩ .nil))

theorem Assignee.document_toJson (a : Assignee) : a.Document a.toJson :=
  .of_fields (.cons ⟨rfl, rfl⟩
    (.cons ⟨rfl, Json.maybe_ofString? a.lastName⟩ (.cons ⟨rfl, rfl⟩ .nil)))

theorem Pub.document_toJson (p : Pub) : p.Document p.toJson :=
  .of_fields (.cons ⟨rfl, rfl⟩ (.cons ⟨rfl, rfl⟩
    (.cons ⟨rfl, Json.maybe_ofOption Assignee.document_toJson p.assignee⟩ .nil)))

/-- What is written for a context is one of its documents. -/
theorem Context.document_toJson (c : Context) : c.Document c.toJson :=
  .of_fields (.cons ⟨rfl, c.recipient.document_toJson⟩ (.cons ⟨rfl, rfl⟩
    (.cons ⟨rfl, c.pub.document_toJson⟩
      (.cons ⟨rfl, Json.maybe_ofOption Pub.document_toJson c.parentPub⟩ .nil))))

/-! ## Reading -/

variable {levels : Nat} {v : Json}

/-! ### Users -/

/-- A user of whom the members under the keys `seen` have been read. -/
def User.after (u : User) (seen : List String) : UserFields :=
  ⟨slot seen "id" u.id, slot seen "firstName" u.firstName, slot seen "lastName" u.lastName,
    slot seen "email" u.email⟩

theorem User.decode_document {u : User} (h : u.Document v) (flat : u.toJson.depth ≤ levels) :
    User.decode levels (.ofJson v) = .ok u := by
  obtain ⟨levels, rfl⟩ := exists_levels_of_depth_object flat
  cases v with
  | array items =>
    -- one item for each field, so nothing is left behind the last one
    obtain ⟨_ | ⟨rfl, _ | ⟨rfl, _ | ⟨lastName, _ | ⟨rfl, ⟨⟩⟩⟩⟩⟩⟩ := h
    refine bind_eq_ok_iff.mpr ⟨(u, ⟨[], none⟩), ?_, rfl⟩
    refine Row.run_bind (Row.run_take (Json.string_ofJson ..) ..) ?_
    refine Row.run_bind (Row.run_take (Json.string_ofJson ..) ..) ?_
    refine Row.run_bind (Row.run_takeOr (Json.optional_string_of_maybe lastName) _) ?_
    exact Row.run_bind (Row.run_take (Json.string_ofJson ..) ..) rfl
  | object members =>
    refine Json.decode_object u.after h "struct RecipientUser" rfl (by simp [fields])
      ?fills ?skips ?last
    case fills =>
      simp only [fields, List.forall_mem_cons, Field.required, Field.nullable]
      refine ⟨?_, ?_, ?_, ?_, nofun⟩
      · rintro seen _ unseen rfl
        simp [after, Json.once_slot unseen]
      · rintro seen _ unseen rfl
        simp [after, Json.once_slot unseen]
      · intro seen v unseen lastName
        simp [after, Json.once_slot unseen (Json.optional_string_of_maybe lastName)]
      · rintro seen _ unseen rfl
        simp [after, Json.once_slot unseen]
    case skips =>
      intro key foreign seen v
      simp only [fields, List.forall_mem_cons, Field.required, Field.nullable] at foreign
      simp [after, foreign, Draft.skip_ofJson]
    case last =>
      intro seen met
      simp only [fields, List.forall_mem_cons, Field.required, Field.nullable, or_false] at met
      -- all fields have been met but, perhaps, that of a last name which the user does not have
      obtain ⟨id, firstName, lastName, email, -⟩ := met
      dsimp only [after]
      rw [Json.slot_of_mem id, Json.slot_of_mem firstName, Json.join_slot lastName,
        Json.slot_of_mem email]
      rfl
  | _ => exact absurd h (by rintro ⟨⟩)

/-! ### Recipients -/

/-- A recipient of whom the members under the keys `seen` have been read. -/
def Recipient.after (r : Recipient) (seen : List String) : RecipientFields :=
  ⟨slot seen "id" r.id, slot seen "user" r.user⟩

theorem Recipient.decode_document {r : Recipient} (h : r.Document v)
    (flat : r.toJson.depth ≤ levels) : Recipient.decode levels (.ofJson v) = .ok r := by
  obtain ⟨levels, rfl⟩ := exists_levels_of_depth_object flat
  have low : r.user.toJson.depth ≤ levels :=
    Json.depth_object_le_iff.mp flat ("user", r.user.toJson) (by simp)
  cases v with
  | array items =>
    obtain ⟨_ | ⟨rfl, _ | ⟨user, ⟨⟩⟩⟩⟩ := h
    refine bind_eq_ok_iff.mpr ⟨(r, ⟨[], none⟩), ?_, rfl⟩
    refine Row.run_bind (Row.run_take (Json.string_ofJson ..) ..) ?_
    exact Row.run_bind (Row.run_take (User.decode_document user low) ..) rfl
  | object members =>
    refine Json.decode_object r.after h "struct Recipient" rfl (by simp [fields])
      ?fills ?skips ?last
    case fills =>
      simp only [fields, List.forall_mem_cons, Field.required]
      refine ⟨?_, ?_, nofun⟩
      · rintro seen _ unseen rfl
        simp [after, Json.once_slot unseen]
      · intro seen v unseen user
        simp [after, Json.once_slot unseen (User.decode_document user low)]
    case skips =>
      intro key foreign seen v
      simp only [fields, List.forall_mem_cons, Field.required] at foreign
      simp [after, foreign, Draft.skip_ofJson]
    case last =>
      intro seen met
      simp only [fields, List.forall_mem_cons, Field.required, or_false] at met
      obtain ⟨id, user, -⟩ := met
      dsimp only [after]
      rw [Json.slot_of_mem id, Json.slot_of_mem user]
      rfl
  | _ => exact absurd h (by rintro ⟨⟩)

/-! ### Assignees -/

/-- An assignee of whom the members under the keys `seen` have been read. -/
def Assignee.after (a : Assignee) (seen : List String) : AssigneeFields :=
  ⟨slot seen "firstName" a.firstName, slot seen "lastName" a.lastName, slot seen "email" a.email⟩

theorem Assignee.decode_document {a : Assignee} (h : a.Document v)
    (flat : a.toJson.depth ≤ levels) : Assignee.decode levels (.ofJson v) = .ok a := by
  obtain ⟨levels, rfl⟩ := exists_levels_of_depth_object flat
  cases v with
  | array items =>
    obtain ⟨_ | ⟨rfl, _ | ⟨lastName, _ | ⟨rfl, ⟨⟩⟩⟩⟩⟩ := h
    refine bind_eq_ok_iff.mpr ⟨(a, ⟨[], none⟩), ?_, rfl⟩
    refine Row.run_bind (Row.run_take (Json.string_ofJson ..) ..) ?_
    refine Row.run_bind (Row.run_takeOr (Json.optional_string_of_maybe lastName) _) ?_
    exact Row.run_bind (Row.run_take (Json.string_ofJson ..) ..) rfl
  | object members =>
    refine Json.decode_object a.after h "struct Assignee" rfl (by simp [fields])
      ?fills ?skips ?last
    case fills =>
      simp only [fields, List.forall_mem_cons, Field.required, Field.nullable]
      refine ⟨?_, ?_, ?_, nofun⟩
      · rintro seen _ unseen rfl
        simp [after, Json.once_slot unseen]
      · intro seen v unseen lastName
        simp [after, Json.once_slot unseen (Json.optional_string_of_maybe lastName)]
      · rintro seen _ unseen rfl
        simp [after, Json.once_slot unseen]
    case skips =>
      intro key foreign seen v
      simp only [fields, List.forall_mem_cons, Field.required, Field.nullable] at foreign
      simp [after, foreign, Draft.skip_ofJson]
    case last =>
      intro seen met
      simp only [fields, List.forall_mem_cons, Field.required, Field.nullable, or_false] at met
      obtain ⟨firstName, lastName, email, -⟩ := met
      dsimp only [after]
      rw [Json.slot_of_mem firstName, Json.join_slot lastName, Json.slot_of_mem email]
      rfl
  | _ => exact absurd h (by rintro ⟨⟩)

/-! ### Publications -/

/-- A publication of which the members under the keys `seen` have been read. -/
def Pub.after (p : Pub) (seen : List String) : PubFields :=
  ⟨slot seen "id" p.id, slot seen "values" p.values, slot seen "assignee" p.assignee⟩

/-- An assignee is read wherever one may be missing. -/
theorem Assignee.decode_optional {o : Option Assignee} (h : Maybe Assignee.Document o v)
    (flat : (Json.ofOption Assignee.toJson o).depth ≤ levels) :
    Decoder.optional Assignee.decode levels (.ofJson v) = .ok o := by
  refine Json.optional_of_maybe h ?_
  rintro a rfl document
  exact ⟨RecordOf.ne_null document, Assignee.decode_document document flat⟩

theorem Pub.decode_document {p : Pub} (ordered : p.InKeyOrder) (h : p.Document v)
    (flat : p.toJson.depth ≤ levels) : Pub.decode levels (.ofJson v) = .ok p := by
  obtain ⟨levels, rfl⟩ := exists_levels_of_depth_object flat
  have low := Json.depth_object_le_iff.mp flat
  have values : Decoder.dictOf .anything levels (.ofJson (.ofDict p.values)) = .ok p.values :=
    dictOf_ofDict ordered (low ("values", .ofDict p.values) (by simp))
  have lowAssignee := low ("assignee", .ofOption Assignee.toJson p.assignee) (by simp)
  cases v with
  | array items =>
    obtain ⟨_ | ⟨rfl, _ | ⟨rfl, _ | ⟨assignee, ⟨⟩⟩⟩⟩⟩ := h
    refine bind_eq_ok_iff.mpr ⟨(p, ⟨[], none⟩), ?_, rfl⟩
    refine Row.run_bind (Row.run_take (Json.string_ofJson ..) ..) ?_
    refine Row.run_bind (Row.run_takeOr values _) ?_
    exact Row.run_bind (Row.run_takeOr (Assignee.decode_optional assignee lowAssignee) _) rfl
  | object members =>
    refine Json.decode_object p.after h "struct PubRecord" rfl (by simp [fields])
      ?fills ?skips ?last
    case fills =>
      simp only [fields, List.forall_mem_cons, Field.required, Field.nullable]
      refine ⟨?_, ?_, ?_, nofun⟩
      · rintro seen _ unseen rfl
        simp [after, Json.once_slot unseen]
      · rintro seen _ unseen rfl
        simp [after, Json.once_slot unseen values]
      · intro seen v unseen assignee
        simp [after, Json.once_slot unseen (Assignee.decode_optional assignee lowAssignee)]
    case skips =>
      intro key foreign seen v
      simp only [fields, List.forall_mem_cons, Field.required, Field.nullable] at foreign
      simp [after, foreign, Draft.skip_ofJson]
    case last =>
      intro seen met
      simp only [fields, List.forall_mem_cons, Field.required, Field.nullable, or_false] at met
      -- values that were left out are empty, which is what the reader puts in their place
      obtain ⟨id, stored, assignee, -⟩ := met
      dsimp only [after]
      rw [Json.slot_of_mem id, Json.getD_slot stored, Json.join_slot assignee]
      rfl
  | _ => exact absurd h (by rintro ⟨⟩)

/-! ### Contexts -/

/-- A context of which the members under the keys `seen` have been read. -/
def Context.after (c : Context) (seen : List String) : ContextFields :=
  ⟨slot seen "recipient" c.recipient, slot seen "communitySlug" c.communitySlug,
    slot seen "pub" c.pub, slot seen "parentPub" c.parentPub⟩

/-- A publication is read wherever one may be missing. -/
theorem Pub.decode_optional {o : Option Pub} (ordered : ∀ p, o = some p → p.InKeyOrder)
    (h : Maybe Pub.Document o v) (flat : (Json.ofOption Pub.toJson o).depth ≤ levels) :
    Decoder.optional Pub.decode levels (.ofJson v) = .ok o := by
  refine Json.optional_of_maybe h ?_
  rintro p rfl document
  exact ⟨RecordOf.ne_null document, Pub.decode_document (ordered p rfl) document flat⟩

/-- Any document of a context is read as the context. -/
theorem Context.decode_document {c : Context} (ordered : c.InKeyOrder) (h : c.Document v)
    (flat : c.toJson.depth ≤ levels) : Context.decode levels (.ofJson v) = .ok c := by
  obtain ⟨levels, rfl⟩ := exists_levels_of_depth_object flat
  have low := Json.depth_object_le_iff.mp flat
  have lowRecipient := low ("recipient", c.recipient.toJson) (by simp)
  have lowPub := low ("pub", c.pub.toJson) (by simp)
  have lowParent := low ("parentPub", .ofOption Pub.toJson c.parentPub) (by simp)
  cases v with
  | array items =>
    obtain ⟨_ | ⟨recipient, _ | ⟨rfl, _ | ⟨pub, _ | ⟨parentPub, ⟨⟩⟩⟩⟩⟩⟩ := h
    refine bind_eq_ok_iff.mpr ⟨(c, ⟨[], none⟩), ?_, rfl⟩
    refine Row.run_bind (Row.run_take (Recipient.decode_document recipient lowRecipient) ..) ?_
    refine Row.run_bind (Row.run_take (Json.string_ofJson ..) ..) ?_
    refine Row.run_bind (Row.run_take (Pub.decode_document ordered.pub pub lowPub) ..) ?_
    exact Row.run_bind
      (Row.run_takeOr (Pub.decode_optional ordered.parentPub parentPub lowParent) _) rfl
  | object members =>
    refine Json.decode_object c.after h "struct RenderContext" rfl (by simp [fields])
      ?fills ?skips ?last
    case fills =>
      simp only [fields, List.forall_mem_cons, Field.required, Field.nullable]
      refine ⟨?_, ?_, ?_, ?_, nofun⟩
      · intro seen v unseen recipient
        simp [after, Json.once_slot unseen (Recipient.decode_document recipient lowRecipient)]
      · rintro seen _ unseen rfl
        simp [after, Json.once_slot unseen]
      · intro seen v unseen pub
        simp [after, Json.once_slot unseen (Pub.decode_document ordered.pub pub lowPub)]
      · intro seen v unseen parentPub
        simp [after,
          Json.once_slot unseen (Pub.decode_optional ordered.parentPub parentPub lowParent)]
    case skips =>
      intro key foreign seen v
      simp only [fields, List.forall_mem_cons, Field.required, Field.nullable] at foreign
      simp [after, foreign, Draft.skip_ofJson]
    case last =>
      intro seen met
      simp only [fields, List.forall_mem_cons, Field.required, Field.nullable, or_false] at met
      obtain ⟨recipient, communitySlug, pub, parentPub, -⟩ := met
      dsimp only [after]
      rw [Json.slot_of_mem recipient, Json.slot_of_mem communitySlug, Json.slot_of_mem pub,
        Json.join_slot parentPub]
      rfl
  | _ => exact absurd h (by rintro ⟨⟩)

/-! ## Contexts that have been read -/

/-- A field that is read once holds what its reader yields. -/
theorem Json.of_once {α : Type} {field : String} {found o : Option α} {read : Draft → Read α}
    {P : α → Prop} (h : Yields read P) {draft : Draft}
    (ok : once field found (read draft) = .ok o) :
    ∀ a, o = some a → P a := by
  obtain ⟨-, a, here, rfl⟩ := Json.once_eq_ok_iff.mp ok
  rintro _ ⟨⟩
  exact h here

/-- The stored values of a publication that has been read are in key order. -/
theorem Pub.inKeyOrder_of_decode (levels : Nat) : Yields (Pub.decode levels) Pub.InKeyOrder := by
  intro draft p ok
  rw [Pub.decode.eq_def] at ok
  split at ok
  · obtain ⟨levels, row, row', run⟩ := Json.exists_run_of_fromRow ok
    obtain ⟨id, row₁, -, run⟩ := Row.run_bind_eq_ok_iff.mp run
    obtain ⟨values, row₂, read, run⟩ := Row.run_bind_eq_ok_iff.mp run
    obtain ⟨assignee, row₃, -, run⟩ := Row.run_bind_eq_ok_iff.mp run
    cases run
    exact Row.of_run_takeOr (P := Dict.InKeyOrder) (yields_dictOf_anything levels)
      Dict.inKeyOrder_empty read
  · obtain ⟨f, run, ret⟩ := bind_eq_ok_iff.mp ok
    obtain ⟨id, -, ret⟩ := bind_eq_ok_iff.mp ret
    cases ret
    have kept : ∀ d, f.values = some d → d.InKeyOrder := by
      -- a step either reads the values or leaves them alone
      refine yields_members (P := fun f : PubFields => ∀ d, f.values = some d → d.InKeyOrder)
        (fun _ found => by cases found) (fun levels f key draft f' ok kept => ?_) run
      split at ok
      · obtain ⟨o, -, ret⟩ := bind_eq_ok_iff.mp ok
        cases ret
        exact kept
      split at ok
      · obtain ⟨o, read, ret⟩ := bind_eq_ok_iff.mp ok
        cases ret
        exact Json.of_once (yields_dictOf_anything levels) read
      split at ok
      · obtain ⟨o, -, ret⟩ := bind_eq_ok_iff.mp ok
        cases ret
        exact kept
      · obtain ⟨_, -, ret⟩ := bind_eq_ok_iff.mp ok
        cases ret
        exact kept
    rw [Pub.InKeyOrder]
    cases stored : f.values with
    | none => exact Dict.inKeyOrder_empty
    | some d => exact kept d stored

/-- Contexts that have been read are in key order. -/
theorem Context.inKeyOrder_of_decode (levels : Nat) :
    Yields (Context.decode levels) Context.InKeyOrder := by
  intro draft c ok
  rw [Context.decode.eq_def] at ok
  split at ok
  · obtain ⟨levels, row, row', run⟩ := Json.exists_run_of_fromRow ok
    obtain ⟨recipient, row₁, -, run⟩ := Row.run_bind_eq_ok_iff.mp run
    obtain ⟨communitySlug, row₂, -, run⟩ := Row.run_bind_eq_ok_iff.mp run
    obtain ⟨pub, row₃, readPub, run⟩ := Row.run_bind_eq_ok_iff.mp run
    obtain ⟨parentPub, row₄, readParent, run⟩ := Row.run_bind_eq_ok_iff.mp run
    cases run
    have parent := yields_optional (Pub.inKeyOrder_of_decode levels)
    exact ⟨Row.of_run_take (Pub.inKeyOrder_of_decode levels) readPub,
      Row.of_run_takeOr parent (fun _ found => by cases found) readParent⟩
  · obtain ⟨f, run, ret⟩ := bind_eq_ok_iff.mp ok
    obtain ⟨recipient, -, ret⟩ := bind_eq_ok_iff.mp ret
    obtain ⟨communitySlug, -, ret⟩ := bind_eq_ok_iff.mp ret
    obtain ⟨pub, here, ret⟩ := bind_eq_ok_iff.mp ret
    cases ret
    have kept : (∀ p, f.pub = some p → p.InKeyOrder) ∧
        ∀ o, f.parentPub = some o → ∀ p, o = some p → p.InKeyOrder := by
      refine yields_members (P := fun f : ContextFields =>
        (∀ p, f.pub = some p → p.InKeyOrder) ∧
          ∀ o, f.parentPub = some o → ∀ p, o = some p → p.InKeyOrder)
        ⟨(fun _ found => by cases found), fun _ found => by cases found⟩
        (fun levels f key draft f' ok kept => ?_) run
      split at ok
      · obtain ⟨o, -, ret⟩ := bind_eq_ok_iff.mp ok
        cases ret
        exact kept
      split at ok
      · obtain ⟨o, -, ret⟩ := bind_eq_ok_iff.mp ok
        cases ret
        exact kept
      split at ok
      · obtain ⟨o, read, ret⟩ := bind_eq_ok_iff.mp ok
        cases ret
        exact ⟨Json.of_once (Pub.inKeyOrder_of_decode levels) read, kept.2⟩
      split at ok
      · obtain ⟨o, read, ret⟩ := bind_eq_ok_iff.mp ok
        cases ret
        exact ⟨kept.1, Json.of_once (yields_optional (Pub.inKeyOrder_of_decode levels)) read⟩
      · obtain ⟨_, -, ret⟩ := bind_eq_ok_iff.mp ok
        cases ret
        exact kept
    refine ⟨kept.1 _ (Json.required_eq_ok_iff.mp here), fun p parent => ?_⟩
    exact kept.2 _ (Option.join_eq_some_iff.mp parent) p rfl

/-! ## Main result -/

/-- **Any document of a context is read as the context.** What is written for the context is one of
its documents. The others come from it by writing each of the records in a way of its own: fields in
another order, unknown keys among them, without a last name, an assignee or a parent where these are
null and without values where there are none, or as the list of all fields in order. All of them are
read as the context, wherever what is written for it does not nest too deep, and so are the texts
that hold them, in whatever layout. -/
theorem Context.document_exact (c : Context) (ordered : c.InKeyOrder) :
    c.Document c.toJson ∧
      ∀ v, c.Document v →
        (∀ levels, c.toJson.depth ≤ levels → Context.decode levels (.ofJson v) = .ok c) ∧
          ∀ text, v.HeldBy text → c.toJson.depth ≤ Json.nesting → Context.read text = .ok c := by
  refine ⟨c.document_toJson, fun v document => ⟨fun levels flat => ?_, fun text held flat => ?_⟩⟩
  · exact decode_document ordered document flat
  · exact Json.read_of_heldBy held (decode_document ordered document flat)

/-- A context with an assignee and a parent, and a recipient without a last name. -/
def Context.desk : Context where
  recipient := ⟨"member-ada", ⟨"user-ada", "Ada", none, "ada@x.io"⟩⟩
  communitySlug := "croccroc"
  pub := ⟨"pub-1", ⟨[("croccroc:title", .string "Hello")], by simp⟩,
    some ⟨"Grace", some "Hopper", "grace@x.io"⟩⟩
  parentPub := some (.blank "pub-0")

/-- The user as an object that is written back to front. -/
def Context.deskUser : Json := .object
  [("id", .string "user-ada"), ("firstName", .string "Ada"), ("email", .string "ada@x.io")].reverse

/-- The publication and its assignee as lists. -/
def Context.deskPub : Json := .array [
  .string "pub-1", .object [("croccroc:title", .string "Hello")],
  .array [.string "Grace", .string "Hopper", .string "grace@x.io"]]

/-- The parent with a key that is not known and without the fields it has nothing for. -/
def Context.deskParent : Json := .object [("id", .string "pub-0"), ("note", .null)]

/-- A document of the context that is made of these. -/
def Context.deskDocument : Json := .object
  [("recipient", .array [.string "member-ada", deskUser]), ("communitySlug", .string "croccroc"),
    ("pub", deskPub), ("parentPub", deskParent), ("version", .whole 2)].reverse

theorem Context.document_exact_desk :
    desk.InKeyOrder ∧ desk.Document deskDocument ∧
      Context.decode Json.nesting (.ofJson deskDocument) = .ok desk ∧
      ∀ style, Context.read (deskDocument.write style) = .ok desk := by
  have ordered : desk.InKeyOrder := by
    refine ⟨List.forall_mem_singleton.mpr rfl, fun p parent => ?_⟩
    obtain rfl := Option.some.inj parent
    exact nofun
  have user : desk.recipient.user.Document deskUser :=
    @RecordOf.object _ _ _ [] (.keep rfl (.keep rfl (.omit rfl (.keep rfl .nil)))) nofun
      (List.reverse_perm _)
  have assignee : Assignee.Document ⟨"Grace", some "Hopper", "grace@x.io"⟩
      (.array [.string "Grace", .string "Hopper", .string "grace@x.io"]) :=
    .list (.cons rfl (.cons rfl (.cons rfl .nil)))
  have pub : desk.pub.Document deskPub := .list (.cons rfl (.cons rfl (.cons assignee .nil)))
  have parent : (Pub.blank "pub-0").Document deskParent :=
    @RecordOf.object _ _ _ [("note", .null)] (.keep rfl (.omit rfl (.omit rfl .nil)))
      (by simp [Pub.fields]) (.refl _)
  have document : desk.Document deskDocument :=
    @RecordOf.object _ _ _ [("version", .whole 2)]
      (.keep (.list (.cons rfl (.cons user .nil))) (.keep rfl (.keep pub (.keep parent .nil))))
      (by simp [fields]) (List.reverse_perm _)
  have flat : desk.toJson.depth ≤ Json.nesting := by decide
  obtain ⟨-, documents⟩ := document_exact desk ordered
  obtain ⟨decoded, read⟩ := documents deskDocument document
  exact ⟨ordered, document, decoded _ flat,
    fun style => read _ (Json.heldBy_write style (by decide)) flat⟩

end MailMerge
