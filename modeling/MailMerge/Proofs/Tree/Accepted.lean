import MailMerge.Proofs.Json.Decode
import MailMerge.Proofs.Json.ReadBack
import MailMerge.Proofs.Tree.Normal

/-!
# Documents that are accepted

While a record is being read each key of its object fills a slot: the one for a field, or one among
the other keys. So in the end the fields hold what the object has under their keys, and the other
keys are those of the object. From the properties over the annotations up to the node this makes
the object of what has been read the normal form of the value, and what has been read well-formed.

## Main definitions

* `Slot`, `Free`: keys with a meaning and keys without while a record is being read.
* `NodeTells`, `DataTells`, `PropertiesTell`: what the three records tell about the value.

## Main results

* `Node.tells_decode`: a decoded node is well-formed, and its object is the value of the draft,
  normalised.
* `Node.toJson_of_accepted`: reading and writing a document is the normalisation.
-/

namespace MailMerge

open Json (Draft Read Decoder Tells Maybe)

/-! ## Keys while a record is being read -/

section Slots

variable {α : Type} {R : α → Json → Prop} {others : Dict Json} {key : String}

/-- A key with a meaning: what has been found tells what the object has under it so far, and it is
not one of the other keys. -/
def Slot (R : α → Json → Prop) (found : Option α) (others : Dict Json) (key : String)
    (o : Option Json) : Prop :=
  Option.Rel R found o ∧ others.get? key = none

/-- A key without a meaning: it is kept with its value. -/
def Free (others : Dict Json) (key : String) (o : Option Json) : Prop :=
  others.get? key = o ∧ ∀ v, o = some v → v.sorted = v

theorem Slot.empty (key : String) : Slot R none .empty key none := ⟨.none, rfl⟩

theorem Free.empty (key : String) : Free .empty key none := ⟨rfl, fun _ found => by cases found⟩

theorem Free.insert {v : Json} (sorted : v.sorted = v) :
    Free (others.insert key v) key (some v) := by
  refine ⟨by rw [Dict.get?_insert, if_pos rfl], fun w eq => ?_⟩
  rw [← Option.some.inj eq, sorted]

theorem Slot.insert_of_ne {found : Option α} {k : String} {o : Option Json} {v : Json}
    (h : Slot R found others k o) (ne : k ≠ key) : Slot R found (others.insert key v) k o :=
  ⟨h.1, by rw [Dict.get?_insert, if_neg (Ne.symm ne), h.2]⟩

theorem Free.insert_of_ne {k : String} {o : Option Json} {v : Json} (h : Free others k o)
    (ne : k ≠ key) : Free (others.insert key v) k o :=
  ⟨by rw [Dict.get?_insert, if_neg (Ne.symm ne), h.1], h.2⟩

theorem Foreign.of_free {known : List String} {d : Dict Json}
    (slots : ∀ key ∈ known, others.get? key = none)
    (free : ∀ key, key ∉ known → Free others key (d.get? key)) : Foreign known others where
  unknown := slots
  sorted key v found := by
    by_cases mem : key ∈ known
    · rw [slots key mem] at found
      cases found
    · exact (free key mem).2 v ((free key mem).1 ▸ found)

end Slots

section Found

variable {α : Type} {R : α → Json → Prop} {role : Role} {key : String}

/-- What is left of an optional value is what is written for it. -/
theorem bind_kept_of_maybe {write : α → Json} (null : role.omits key .null = true)
    (each : ∀ a v, R a v → Json.kept role key v = some (write a).sorted)
    {found : Option (Option α)} {o : Option Json} (rel : Option.Rel (Maybe R) found o) :
    o.bind (Json.kept role key) = (found.join.map write).map Json.sorted := by
  cases rel with
  | none => rfl
  | @some a v rel =>
    cases a with
    | none => rw [Option.bind_some, show v = .null from rel, Json.kept_null null]; rfl
    | some a => exact each a v rel

theorem exists_of_rel {found : Option α} {o : Option Json} (rel : Option.Rel R found o) {a : α}
    (h : found = some a) : ∃ v, o = some v ∧ R a v := by
  subst h
  cases rel with
  | some rel => exact ⟨_, rfl, rel⟩

theorem exists_of_maybe {found : Option (Option α)} {o : Option Json}
    (rel : Option.Rel (Maybe R) found o) {a : α} (h : found.join = some a) : ∃ v, R a v := by
  cases rel with
  | none => cases h
  | @some _ v rel =>
    obtain rfl : _ = some a := h
    exact ⟨v, rel⟩

end Found

/-! ## Reading the three records -/

/-- The properties of an element tell what is written for them. -/
def PropertiesTell (p : Option String × Dict Json) (v : Json) : Prop :=
  Foreign NodeData.propertyKeys p.2 ∧
    (Json.object (recordMembers (propertyFields p.1) p.2)).sorted = v.normal .properties

/-- What the object of properties has under a key, as far as it has been read. -/
def PropertyFields.Holds (f : PropertyFields) (key : String) (o : Option Json) : Prop :=
  if key = "href" then Slot (Maybe fun s v => v = .string s) f.href f.others key o
  else Free f.others key o

theorem tells_properties (levels : Nat) :
    Tells levels (decodeProperties levels) PropertiesTell := by
  -- the slots are filled key by key, and what is made of them at the end is the record
  unfold decodeProperties
  refine Tells.bind (Json.tells_members (H := PropertyFields.Holds) ?init ?fills) ?made
  case init =>
    intro key
    unfold PropertyFields.Holds
    split
    · exact .empty key
    · exact .empty key
  case fills =>
    intro f key draft f' ok
    split at ok
    · rename_i known
      subst known
      exact Json.fills_once ok (Json.tells_optional (Json.tells_string _))
        (fun a v rel o h => ⟨.some rel, h.2⟩)
        fun a k ne o h => by simpa [PropertyFields.Holds, ne] using h
    · rename_i unknown
      refine Json.fills_anything ok (fun v sorted o h => ?_) fun v k ne o h => ?_
      · rw [PropertyFields.Holds, if_neg unknown]
        exact .insert sorted
      · unfold PropertyFields.Holds at h ⊢
        split_ifs at h ⊢
        · exact h.insert_of_ne ne
        · exact h.insert_of_ne ne
  case made =>
    rintro f _ _ ret ⟨d, rfl, holds⟩
    cases ret
    have href : Slot _ f.href f.others "href" (d.get? "href") := holds "href"
    have free : ∀ key, key ∉ NodeData.propertyKeys → Free f.others key (d.get? key) := by
      intro key unknown
      have := holds key
      rwa [PropertyFields.Holds, if_neg (by simpa [NodeData.propertyKeys] using unknown)] at this
    have foreign : Foreign NodeData.propertyKeys f.others :=
      .of_free (by simpa [NodeData.propertyKeys] using href.2) free
    refine ⟨foreign, sorted_record rfl (nodup_propertyFields _) foreign ?_ ?_⟩
    · simp only [propertyFields, List.forall_mem_cons]
      refine ⟨?_, List.forall_mem_nil _⟩
      refine bind_kept_of_maybe rfl (fun s v eq => ?_) href.1
      rw [eq, Json.kept_string rfl]
    · exact fun key unknown => ⟨(free key unknown).1, Json.kept_properties unknown⟩

/-! ### Annotations -/

theorem Tag.ofName?_eq_ok_iff {name : String} {t : Tag} :
    Tag.ofName? name = .ok t ↔ name = t.name := by
  rw [Tag.ofName?]
  constructor
  · intro h
    split_ifs at h <;> cases h <;> assumption
  · rintro rfl
    cases t <;> rfl

/-- A tag tells its name. -/
def TagTells (t : Tag) (v : Json) : Prop := v.normal .tag = .string t.name

theorem tells_tag (levels : Nat) : Tells levels (Tag.decode levels) TagTells := by
  intro draft t ok
  rw [Tag.decode.eq_def] at ok
  split at ok
  · obtain ⟨name, read, named⟩ := bind_eq_ok_iff.mp ok
    refine ⟨.string name, ?_, ?_⟩
    · cases levels <;> exact bind_eq_ok_iff.mpr ⟨name, read, rfl⟩
    · rw [TagTells, ← Tag.ofName?_eq_ok_iff.mp named]
      rfl
  · cases ok
  · cases ok
  · rename_i levels key value more stop
    obtain ⟨name, read, ok⟩ := bind_eq_ok_iff.mp ok
    obtain ⟨t', named, ok⟩ := bind_eq_ok_iff.mp ok
    -- nothing but null may stand under the name, and nothing behind it
    cases value with
    | null =>
      cases more with
      | cons => cases ok
      | nil =>
        cases stop with
        | some here =>
          obtain ⟨reading, skipping⟩ := here
          cases reading <;> cases ok
        | none =>
          cases ok
          refine ⟨.object [(name, .null)], ?_, ?_⟩
          · refine bind_eq_ok_iff.mpr ⟨[(name, .null)], ?_, rfl⟩
            exact mapM_eq_ok_iff.mpr (.cons (bind_eq_ok_iff.mpr ⟨name, read,
              by cases levels <;> rfl⟩) .nil)
          · rw [TagTells, Tag.ofName?_eq_ok_iff.mp named]
            cases t <;> rfl
    | _ =>
      obtain ⟨_, wrong, -⟩ := bind_eq_ok_iff.mp ok
      exact absurd wrong (Json.mismatch_ne_ok _ _ _)
  all_goals cases ok

/-- Nodes in a row tell what each of them does. -/
def NodesTell (R : Node → Json → Prop) (ns : List Node) (v : Json) : Prop :=
  ∃ items, v = .array items ∧ List.Forall₂ R ns items

/-- A node tells what is written for it, and it is well-formed. -/
def NodeTells (n : Node) (v : Json) : Prop := n.WellFormed ∧ n.toJson.sorted = v.normal .node

theorem NodesTell.wellFormed {ns : List Node} {v : Json} (h : NodesTell NodeTells ns v) :
    ∀ n ∈ ns, n.WellFormed := by
  obtain ⟨items, -, each⟩ := h
  induction each with
  | nil => exact List.forall_mem_nil _
  | cons first _ ih => exact List.forall_mem_cons.mpr ⟨first.1, ih⟩

theorem NodesTell.kept {ns : List Node} {v : Json} (h : NodesTell NodeTells ns v) {role : Role}
    {key : String} (below : role.below key = .nodes) :
    Json.kept role key v = some (nodesJson ns).sorted := by
  obtain ⟨items, rfl, each⟩ := h
  have same : items.map (Json.normal .node) = ns.map fun n => n.toJson.sorted := by
    induction each with
    | nil => rfl
    | cons first _ ih => rw [List.map_cons, List.map_cons, ih, first.2]
  refine Json.kept_of_normal ?_ rfl
  rw [below, Json.normal, Json.normalNodes_eq, same, nodesJson, Json.sorted_array, List.map_map]
  rfl

/-- Nodes that have been found are well-formed. -/
theorem wellFormed_of_maybe {found : Option (Option (List Node))} {o : Option Json}
    (rel : Option.Rel (Maybe (NodesTell NodeTells)) found o) :
    ∀ n ∈ found.join.getD [], n.WellFormed := by
  cases here : found.join with
  | none => exact List.forall_mem_nil _
  | some ns =>
    obtain ⟨v, tell⟩ := exists_of_maybe rel here
    exact tell.wellFormed

theorem foreign_of_properties {found : Option (Option String × Dict Json)} {o : Option Json}
    (rel : Option.Rel PropertiesTell found o) :
    Foreign NodeData.propertyKeys (found.getD (none, .empty)).2 := by
  cases rel with
  | none => exact .empty _
  | some rel => exact rel.1

/-- Annotations tell what is written for them. -/
structure DataTells (d : NodeData Node) (v : Json) : Prop where
  others : Foreign NodeData.knownKeys d.others
  otherProperties : Foreign NodeData.propertyKeys d.otherProperties
  shown : ∀ n ∈ d.shown.getD [], n.WellFormed
  written : d.toJson.sorted = v.normal .data

theorem DataTells.kept {d : NodeData Node} {v : Json} (h : DataTells d v) :
    Json.kept .node "data" v = some d.toJson.sorted := by
  refine Json.kept_of_normal h.written.symm ?_
  rw [NodeData.toJson, Json.sorted_object]
  exact Role.omits_object (by decide) _

/-- What the object of annotations has under a key, as far as it has been read. -/
def DataFields.Holds (f : DataFields) (key : String) (o : Option Json) : Prop :=
  if key = "hName" then Slot (Maybe TagTells) f.tag f.others key o
  else if key = "hProperties" then Slot PropertiesTell f.properties f.others key o
  else if key = "hChildren" then Slot (Maybe (NodesTell NodeTells)) f.shown f.others key o
  else Free f.others key o

/-- What is left of properties is what is written for them: nothing if there are none. -/
theorem bind_kept_properties {found : Option (Option String × Dict Json)} {o : Option Json}
    (rel : Option.Rel PropertiesTell found o) :
    o.bind (Json.kept .data "hProperties") =
      (propertiesJson? (found.getD (none, .empty)).1 (found.getD (none, .empty)).2).map
        Json.sorted := by
  cases rel with
  | none => rfl
  | @some p v rel =>
    rw [Option.bind_some, Option.getD_some, Json.kept, propertiesJson?]
    have normal : v.normal (Role.data.below "hProperties") =
        (Json.object (recordMembers (propertyFields p.1) p.2)).sorted := rel.2.symm
    rw [normal]
    cases members : recordMembers (propertyFields p.1) p.2 with
    | nil => rfl
    | cons m ms =>
      -- an object with a member has one in key order as well
      rw [Json.sorted_object, Json.ofDict]
      have some_member : ((m :: ms).map fun m => (m.1, m.2.sorted)) ≠ [] := by simp
      obtain ⟨m', ms', sorted⟩ := List.exists_cons_of_ne_nil
        (Dict.entries_ofList_eq_nil_iff.not.mpr some_member)
      rw [Option.map_some, Json.sorted_object, Json.ofDict, sorted]
      rfl

theorem tells_data {levels : Nat} {node : Draft → Read Node}
    (h : Tells (levels - 2) node NodeTells) :
    Tells levels (NodeData.decode node levels) DataTells := by
  unfold NodeData.decode
  refine Tells.bind (Json.tells_members (H := DataFields.Holds) ?init ?fills) ?made
  case init =>
    intro key
    unfold DataFields.Holds
    split_ifs
    · exact .empty key
    · exact .empty key
    · exact .empty key
    · exact .empty key
  case fills =>
    intro f key draft f' ok
    split_ifs at ok with name properties children
    · subst name
      exact Json.fills_once ok (Json.tells_optional (tells_tag _))
        (fun a v rel o h => ⟨.some rel, h.2⟩)
        fun a k ne o h => by simpa [DataFields.Holds, ne] using h
    · subst properties
      exact Json.fills_once ok (tells_properties _)
        (fun a v rel o h => ⟨.some rel, h.2⟩)
        fun a k ne o h => by simpa [DataFields.Holds, ne] using h
    · subst children
      exact Json.fills_once ok (Json.tells_optional (Json.tells_listOf h))
        (fun a v rel o h => ⟨.some rel, h.2⟩)
        fun a k ne o h => by simpa [DataFields.Holds, ne] using h
    · refine Json.fills_anything ok (fun v sorted o h => ?_) fun v k ne o h => ?_
      · rw [DataFields.Holds, if_neg name, if_neg properties, if_neg children]
        exact .insert sorted
      · unfold DataFields.Holds at h ⊢
        split_ifs at h ⊢ <;> exact h.insert_of_ne ne
  case made =>
    rintro f _ _ ret ⟨d, rfl, holds⟩
    cases ret
    have tag : Slot (Maybe TagTells) f.tag f.others "hName" (d.get? "hName") := by
      simpa [DataFields.Holds] using holds "hName"
    have properties : Slot PropertiesTell f.properties f.others "hProperties"
        (d.get? "hProperties") := by
      simpa [DataFields.Holds] using holds "hProperties"
    have shown : Slot (Maybe (NodesTell NodeTells)) f.shown f.others "hChildren"
        (d.get? "hChildren") := by
      simpa [DataFields.Holds] using holds "hChildren"
    have free : ∀ key, key ∉ NodeData.knownKeys → Free f.others key (d.get? key) := by
      intro key unknown
      simp only [NodeData.knownKeys, List.mem_cons, List.not_mem_nil, or_false, not_or] at unknown
      have := holds key
      rwa [DataFields.Holds, if_neg unknown.1, if_neg unknown.2.1, if_neg unknown.2.2] at this
    have foreign : Foreign NodeData.knownKeys f.others :=
      .of_free (by simp [NodeData.knownKeys, tag.2, properties.2, shown.2]) free
    refine ⟨foreign, foreign_of_properties properties.1, wellFormed_of_maybe shown.1,
      sorted_record rfl (NodeData.nodup_fields _) foreign ?_ ?_⟩
    · simp only [NodeData.fields, List.forall_mem_cons]
      refine ⟨?_, bind_kept_properties properties.1, ?_, List.forall_mem_nil _⟩
      · exact bind_kept_of_maybe rfl (fun t v rel => Json.kept_of_normal rel rfl) tag.1
      · exact bind_kept_of_maybe rfl (fun ns v rel => rel.kept rfl) shown.1
    · exact fun key unknown => ⟨(free key unknown).1, Json.kept_data unknown⟩

/-! ### Nodes -/

/-- A kind tells its name, and it is the kind with that name. -/
def KindTells (k : Kind) (v : Json) : Prop := v = .string k.name ∧ Kind.ofName k.name = k

theorem tells_kind (levels : Nat) :
    Tells levels (fun draft => (Decoder.string levels draft).map Kind.ofName) KindTells := by
  refine (Json.tells_map (Json.tells_string levels) Kind.ofName).imp ?_
  rintro _ _ ⟨s, rfl, rfl⟩
  exact ⟨by rw [Kind.name_ofName], by rw [Kind.name_ofName]⟩

/-- What the object of a node has under a key, as far as it has been read. -/
def NodeFields.Holds (f : NodeFields) (key : String) (o : Option Json) : Prop :=
  if key = "type" then Slot KindTells f.kind f.others key o
  else if key = "name" then Slot (Maybe fun s v => v = .string s) f.name f.others key o
  else if key = "attributes" then
    Slot (Maybe fun d v => v = .ofTexts d) f.attributes f.others key o
  else if key = "children" then Slot (Maybe (NodesTell NodeTells)) f.children f.others key o
  else if key = "value" then Slot (Maybe fun s v => v = .string s) f.value f.others key o
  else if key = "data" then Slot (Maybe DataTells) f.data f.others key o
  else Free f.others key o

theorem tells_decodeWith {levels : Nat} {child shown : Draft → Read Node}
    (hc : Tells (levels - 2) child NodeTells) (hs : Tells (levels - 3) shown NodeTells) :
    Tells levels (Node.decodeWith child shown levels) NodeTells := by
  unfold Node.decodeWith
  refine Tells.bind (Json.tells_members (H := NodeFields.Holds) ?init ?fills) ?made
  case init =>
    intro key
    unfold NodeFields.Holds
    split_ifs <;> exact .empty key
  case fills =>
    intro f key draft f' ok
    split_ifs at ok with type name attributes children value data
    · subst type
      exact Json.fills_once ok (tells_kind _)
        (fun a v rel o h => ⟨.some rel, h.2⟩)
        fun a k ne o h => by simpa [NodeFields.Holds, ne] using h
    · subst name
      exact Json.fills_once ok (Json.tells_optional (Json.tells_string _))
        (fun a v rel o h => ⟨.some rel, h.2⟩)
        fun a k ne o h => by simpa [NodeFields.Holds, ne] using h
    · subst attributes
      exact Json.fills_once ok (Json.tells_optional (Json.tells_texts _))
        (fun a v rel o h => ⟨.some rel, h.2⟩)
        fun a k ne o h => by simpa [NodeFields.Holds, ne] using h
    · subst children
      exact Json.fills_once ok (Json.tells_optional (Json.tells_listOf hc))
        (fun a v rel o h => ⟨.some rel, h.2⟩)
        fun a k ne o h => by simpa [NodeFields.Holds, ne] using h
    · subst value
      exact Json.fills_once ok (Json.tells_optional (Json.tells_string _))
        (fun a v rel o h => ⟨.some rel, h.2⟩)
        fun a k ne o h => by simpa [NodeFields.Holds, ne] using h
    · subst data
      exact Json.fills_once ok (Json.tells_optional (tells_data hs))
        (fun a v rel o h => ⟨.some rel, h.2⟩)
        fun a k ne o h => by simpa [NodeFields.Holds, ne] using h
    · refine Json.fills_anything ok (fun v sorted o h => ?_) fun v k ne o h => ?_
      · simp only [NodeFields.Holds, *, if_false]
        exact .insert sorted
      · unfold NodeFields.Holds at h ⊢
        split_ifs at h ⊢ <;> exact h.insert_of_ne ne
  case made =>
    rintro f n _ ret ⟨d, rfl, holds⟩
    obtain ⟨kind, found, ret⟩ := bind_eq_ok_iff.mp ret
    cases ret
    have type : Slot KindTells f.kind f.others "type" (d.get? "type") := by
      simpa [NodeFields.Holds] using holds "type"
    have name : Slot (Maybe fun s v => v = .string s) f.name f.others "name" (d.get? "name") := by
      simpa [NodeFields.Holds] using holds "name"
    have attributes : Slot (Maybe fun e v => v = .ofTexts e) f.attributes f.others "attributes"
        (d.get? "attributes") := by
      simpa [NodeFields.Holds] using holds "attributes"
    have children : Slot (Maybe (NodesTell NodeTells)) f.children f.others "children"
        (d.get? "children") := by
      simpa [NodeFields.Holds] using holds "children"
    have value : Slot (Maybe fun s v => v = .string s) f.value f.others "value"
        (d.get? "value") := by
      simpa [NodeFields.Holds] using holds "value"
    have data : Slot (Maybe DataTells) f.data f.others "data" (d.get? "data") := by
      simpa [NodeFields.Holds] using holds "data"
    have free : ∀ key, key ∉ Node.knownKeys → Free f.others key (d.get? key) := by
      intro key unknown
      simp only [Node.knownKeys, List.mem_cons, List.not_mem_nil, or_false, not_or] at unknown
      simpa [NodeFields.Holds, unknown] using holds key
    have foreign : Foreign Node.knownKeys f.others :=
      .of_free (by simp [Node.knownKeys, type.2, name.2, attributes.2, children.2, value.2, data.2])
        free
    obtain ⟨v, typed, rfl, same⟩ := exists_of_rel type.1 (Json.required_eq_ok_iff.mp found)
    -- the nodes below are well-formed, so this one is; and each field is what is left of its key
    refine ⟨.of_data same foreign (wellFormed_of_maybe children.1) fun e noted => ?_, ?_⟩
    · obtain ⟨v, tell⟩ := exists_of_maybe data.1 noted
      exact ⟨tell.others, tell.otherProperties, tell.shown⟩
    · rw [Node.toJson_eq]
      refine sorted_record rfl (Node.nodup_fields _) foreign ?_ ?_
      · simp only [Node.fields, List.forall_mem_cons]
        refine ⟨?_, ?_, ?_, ?_, ?_, ?_, List.forall_mem_nil _⟩
        · rw [typed, Option.bind_some]
          exact Json.kept_string rfl kind.name
        · exact bind_kept_of_maybe rfl (fun s v eq => by rw [eq, Json.kept_string rfl]) name.1
        · exact bind_kept_of_maybe rfl (fun e v eq => by rw [eq, Json.kept_texts (by decide) rfl])
            attributes.1
        · exact bind_kept_of_maybe rfl (fun ns v rel => rel.kept rfl) children.1
        · exact bind_kept_of_maybe rfl (fun s v eq => by rw [eq, Json.kept_string rfl]) value.1
        · exact bind_kept_of_maybe rfl (fun e v rel => rel.kept) data.1
      · exact fun key unknown => ⟨(free key unknown).1, Json.kept_node unknown⟩

/-- No draft is read where there is no room. -/
theorem tells_noRoom {α : Type} (levels : Nat) (R : α → Json → Prop) :
    Tells levels noRoom R :=
  nofun

/-- **A decoded node** is well-formed, and its object is the value of the draft, normalised. -/
theorem Node.tells_decode (levels : Nat) : Tells levels (Node.decode levels) NodeTells := by
  induction levels using Node.decode.induct with
  | case1 => exact tells_decodeWith (tells_noRoom _ _) (tells_noRoom _ _)
  | case2 => exact tells_decodeWith (tells_noRoom _ _) (tells_noRoom _ _)
  | case3 ih => exact tells_decodeWith ih (tells_noRoom _ _)
  | case4 levels child shown => exact tells_decodeWith child shown

/-- The value that a text stands for when it is not read as a document. -/
def Json.readValue (text : String) : Read Json := Json.read Decoder.anything text

namespace Node

theorem wellFormed_of_decode {levels : Nat} {draft : Draft} {n : Node}
    (h : Node.decode levels draft = .ok n) : n.WellFormed := by
  obtain ⟨-, -, wf, -⟩ := tells_decode levels h
  exact wf

/-- **Reading and writing a document is the normalisation.** For every value that is accepted as a
node, what is written for the node is the value in its normal form; and so for every text that is
accepted, with the value that the text stands for. -/
theorem toJson_of_accepted :
    (∀ levels v n, Node.decode levels (.ofJson v) = .ok n →
      n.toJson.sorted = v.sorted.normal .node) ∧
    ∀ text n, Node.read text = .ok n →
      ∃ v, Json.readValue text = .ok v ∧ n.toJson.sorted = v.normal .node := by
  constructor
  · intro levels v n h
    obtain ⟨w, value, -, same⟩ := tells_decode levels h
    rw [same, Json.Draft.eq_sorted_of_toJson_ofJson value]
  · intro text n h
    obtain ⟨decoded, ends⟩ := Json.read_eq_ok_iff.mp h
    obtain ⟨v, value, -, same⟩ := tells_decode _ decoded
    exact ⟨v, Json.read_eq_ok_iff.mpr ⟨value, ends⟩, same⟩

/-- A node of a kind that is not known here, with most of what can be normalised. -/
def emphasis : Json :=
  .object [("type", .string "emphasis"), ("position", .object [("line", .whole 3)]),
    ("name", .null), ("children", .array []),
    ("data", .object [("hName", .object [("a", .null)]), ("hProperties", .object [("href", .null)]),
      ("note", .null)])]

theorem toJson_of_accepted_emphasis :
    ∃ n, Node.decode Json.nesting (.ofJson emphasis) = .ok n ∧
      Node.read (emphasis.write .indented) = .ok n ∧
      n.toJson.sorted = emphasis.sorted.normal .node ∧
      (∃ v, Json.readValue (emphasis.write .indented) = .ok v ∧
        n.toJson.sorted = v.normal .node) ∧
      emphasis.sorted.normal .node =
        .object [("children", .array []),
          ("data", .object [("hName", .string "a"), ("note", .null)]),
          ("position", .object [("line", .whole 3)]), ("type", .string "emphasis")] := by
  have accepted : (Node.decode Json.nesting (.ofJson emphasis)).toOption.isSome = true := by
    decide +kernel
  cases decoded : Node.decode Json.nesting (.ofJson emphasis) with
  | error e => simp [decoded, Except.toOption] at accepted
  | ok n =>
    have read : Node.read (emphasis.write .indented) = .ok n := by
      rw [← decoded]
      exact Json.read_write Node.decode .indented (by decide)
    exact ⟨n, rfl, read, toJson_of_accepted.1 _ _ _ decoded, toJson_of_accepted.2 _ _ read, rfl⟩

end Node

end MailMerge
