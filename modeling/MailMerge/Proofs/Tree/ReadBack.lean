import MailMerge.Proofs.Json.Members
import MailMerge.Proofs.Tree.Accepted

/-!
# Written documents read back

The object of a node is a record: the fields that are there, and all other keys behind them. It is
read from front to back, so every field finds its slot empty and fills it, and every other key is
kept. That gives back the node, provided that no other key is one with a meaning: that would come as
a second field. Documents that were read are well-formed, and what becomes of them stays so.

## Main definitions

* `Node.Obtained`: documents that have been read, and what becomes of them.

## Main results

* `readMembers_optional`, `listOf_nodesJson`: the fields of a record.
* `Node.decode_toJson`: a well-formed node is read back from its object.
* `Node.read_write_of_obtained`: a document is read back from its text.
-/

namespace MailMerge

open Json (Draft Read Decoder)

/-! ## Reading a record back -/

section Record

variable {α σ : Type} {levels : Nat}

/-- An optional field is read back if the value in it is. -/
theorem readMembers_optional {step : σ → String → Draft → Read σ} {key : String} {o : Option α}
    {write : α → Json} (put : Option (Option α) → σ)
    (reads : ∀ a, o = some a →
      step (put none) key (.ofJson (write a)) = .ok (put (some (some a)))) :
    readMembers step (put none) (Json.memberOf key (o.map write)) = .ok (put (o.map some)) := by
  cases o with
  | none => rfl
  | some a => exact bind_eq_ok_iff.mpr ⟨_, reads a rfl, rfl⟩

/-- A list is read back if each of its nodes is. -/
theorem listOf_nodesJson {read : Draft → Read Node} {ns : List Node}
    (reads : ∀ n ∈ ns, read (.ofJson n.toJson) = .ok n) :
    Decoder.listOf (fun _ => read) (levels + 1) (.ofJson (nodesJson ns)) = .ok ns := by
  have each : (ns.map fun n => Draft.ofJson n.toJson).mapM read = .ok ns := by
    rw [mapM_eq_ok_iff, List.forall₂_map_left_iff, List.forall₂_same]
    exact reads
  rw [nodesJson, Draft.ofJson, Draft.ofItems_eq, List.map_map, Decoder.listOf]
  exact bind_eq_ok_iff.mpr ⟨ns, each, rfl⟩

end Record

/-- A record nests one array or object more than the deepest of its fields and other keys. -/
theorem depth_record_le_iff {fields : List (String × Option Json)} {others : Dict Json}
    {levels : Nat} :
    (Json.object (recordMembers fields others)).depth ≤ levels + 1 ↔
      (∀ f ∈ fields, ∀ v, f.2 = some v → v.depth ≤ levels) ∧
        ∀ e ∈ others.entries, e.2.depth ≤ levels := by
  rw [Json.depth_object_le_iff, recordMembers, List.forall_mem_append]
  refine and_congr_left fun _ => ?_
  simp only [List.mem_flatMap]
  constructor
  · rintro h ⟨key, o⟩ mem v rfl
    exact h (key, v) ⟨(key, some v), mem, List.mem_singleton.mpr rfl⟩
  · rintro h m ⟨⟨key, o⟩, mem, here⟩
    cases o with
    | none => cases here
    | some v =>
      obtain rfl := List.mem_singleton.mp here
      exact h (key, some v) mem v rfl

theorem depth_lt_of_field {fields : List (String × Option Json)} {key : String} {v : Json}
    (mem : (key, some v) ∈ fields) (others : Dict Json) :
    v.depth < (Json.object (recordMembers fields others)).depth := by
  obtain ⟨levels, eq⟩ : ∃ levels, (Json.object (recordMembers fields others)).depth = levels + 1 :=
    exists_levels_of_depth_object le_rfl
  rw [eq]
  exact Nat.lt_succ_of_le ((depth_record_le_iff.mp eq.le).1 _ mem v rfl)

theorem depth_lt_of_node {ns : List Node} {n : Node} (mem : n ∈ ns) :
    n.toJson.depth < (nodesJson ns).depth := by
  obtain ⟨levels, eq⟩ : ∃ levels, (nodesJson ns).depth = levels + 1 :=
    exists_levels_of_depth_array le_rfl
  rw [eq]
  exact Nat.lt_succ_of_le (Json.depth_array_le_iff.mp eq.le _ (List.mem_map_of_mem mem))

/-! ## Reading the three records back -/

/-- The properties of an element are read back. -/
theorem decodeProperties_record {levels : Nat} {href : Option String} {others : Dict Json}
    (foreign : Foreign NodeData.propertyKeys others)
    (flat : (Json.object (recordMembers (propertyFields href) others)).depth ≤ levels) :
    decodeProperties levels (.ofJson (.object (recordMembers (propertyFields href) others))) =
      .ok (href, others) := by
  obtain ⟨levels, rfl⟩ := exists_levels_of_depth_object flat
  obtain ⟨-, flat⟩ := depth_record_le_iff.mp flat
  unfold decodeProperties
  rw [members_ofJson]
  refine bind_eq_ok_iff.mpr ⟨⟨href.map some, others⟩, ?_, by cases href <;> rfl⟩
  apply readMembers_append ⟨href.map some, .empty⟩
  · apply readMembers_append ⟨href.map some, .empty⟩ _ rfl
    exact readMembers_optional (PropertyFields.mk · .empty) fun s _ => rfl
  · refine readMembers_others (PropertyFields.mk (href.map some)) fun e mem d => ?_
    obtain ⟨unknown, sorted⟩ := foreign.of_mem mem
    dsimp only
    rw [if_neg (by simpa [NodeData.propertyKeys] using unknown),
      anything_ofJson sorted (flat e mem)]
    rfl

theorem eq_of_propertiesJson? {href : Option String} {others : Dict Json} {v : Json}
    (h : propertiesJson? href others = some v) :
    v = .object (recordMembers (propertyFields href) others) := by
  rw [propertiesJson?] at h
  split at h
  · cases h
  · exact (Option.some.inj h).symm

/-- What is read of properties that are left out when there are none. -/
theorem getD_propertiesJson? (href : Option String) (others : Dict Json) :
    ((propertiesJson? href others).map fun _ => (href, others)).getD (none, .empty) =
      (href, others) := by
  rw [propertiesJson?]
  split
  · -- without members there are neither a target nor other keys
    rename_i without
    obtain ⟨field, rest⟩ := List.append_eq_nil_iff.mp without
    obtain ⟨entries, _⟩ := others
    obtain rfl : entries = [] := rest
    cases href with
    | none => rfl
    | some s => cases field
  · rfl

/-- Annotations are read back if the nodes in them are. -/
theorem NodeData.decode_toJson {levels : Nat} {d : NodeData Node} {node : Draft → Read Node}
    (others : Foreign NodeData.knownKeys d.others)
    (otherProperties : Foreign NodeData.propertyKeys d.otherProperties)
    (reads : ∀ n ∈ d.shown.getD [], node (.ofJson n.toJson) = .ok n)
    (flat : d.toJson.depth ≤ levels) : NodeData.decode node levels (.ofJson d.toJson) = .ok d := by
  obtain ⟨levels, rfl⟩ := exists_levels_of_depth_object flat
  obtain ⟨flat, flatOthers⟩ := depth_record_le_iff.mp flat
  let found := (propertiesJson? d.href d.otherProperties).map fun _ => (d.href, d.otherProperties)
  have written : found.getD (none, .empty) = (d.href, d.otherProperties) :=
    getD_propertiesJson? d.href d.otherProperties
  unfold NodeData.decode
  rw [NodeData.toJson, members_ofJson]
  refine bind_eq_ok_iff.mpr ⟨⟨d.tag.map some, found, d.shown.map some, d.others⟩, ?_, ?_⟩
  · apply readMembers_append ⟨d.tag.map some, found, d.shown.map some, .empty⟩
    · -- the fields come first, and each of them finds its slot empty
      apply readMembers_append ⟨d.tag.map some, none, none, .empty⟩
      · refine readMembers_optional (DataFields.mk · none none .empty) fun t _ => ?_
        cases t <;> rfl
      apply readMembers_append ⟨d.tag.map some, found, none, .empty⟩
      · -- properties without entries are not written, so the slot stays empty then
        cases here : propertiesJson? d.href d.otherProperties with
        | none => simp only [found, here, Option.map_none]; rfl
        | some v =>
          have low := flat _ (List.mem_cons_of_mem _ List.mem_cons_self) v here
          rw [eq_of_propertiesJson? here] at low ⊢
          simp only [found, here, Option.map_some]
          refine bind_eq_ok_iff.mpr ⟨_, bind_eq_ok_iff.mpr ⟨_, once_of_ok ?_, rfl⟩, rfl⟩
          exact decodeProperties_record otherProperties low
      apply readMembers_append ⟨d.tag.map some, found, d.shown.map some, .empty⟩ _ rfl
      refine readMembers_optional (DataFields.mk (d.tag.map some) found · .empty) fun ns shown => ?_
      have low := flat ("hChildren", some (nodesJson ns))
        (by simp [NodeData.fields, shown]) _ rfl
      obtain ⟨levels, rfl⟩ := exists_levels_of_depth_array low
      rw [shown] at reads
      exact once_optional _ (by intro null; cases null) (listOf_nodesJson reads)
    · -- behind them all other keys are kept
      refine readMembers_others (DataFields.mk (d.tag.map some) found (d.shown.map some))
        fun e mem d => ?_
      obtain ⟨unknown, sorted⟩ := others.of_mem mem
      simp only [NodeData.knownKeys, List.mem_cons, List.not_mem_nil, or_false, not_or] at unknown
      dsimp only
      rw [if_neg unknown.1, if_neg unknown.2.1, if_neg unknown.2.2,
        anything_ofJson sorted (flatOthers e mem)]
      rfl
  · dsimp only
    rw [written, join_map_some, join_map_some]
    rfl

namespace Node

/-- A node is read back if its children and the nodes shown in their place are. -/
theorem decodeWith_toJson {levels : Nat} {n : Node} {child shown : Draft → Read Node}
    (proper : n.Proper) (children : ∀ m ∈ n.childList, child (.ofJson m.toJson) = .ok m)
    (shownNodes : ∀ m ∈ n.shown?.getD [], shown (.ofJson m.toJson) = .ok m)
    (flat : n.toJson.depth ≤ levels) :
    Node.decodeWith child shown levels (.ofJson n.toJson) = .ok n := by
  rw [toJson_eq] at flat ⊢
  obtain ⟨levels, rfl⟩ := exists_levels_of_depth_object flat
  obtain ⟨flat, flatOthers⟩ := depth_record_le_iff.mp flat
  unfold Node.decodeWith
  rw [members_ofJson]
  let name := n.name.map some
  let attributes := n.attributes.map some
  let childNodes := n.children.map some
  let value := n.value.map some
  let data := n.data.map some
  refine bind_eq_ok_iff.mpr
    ⟨⟨some n.kind, name, attributes, childNodes, value, data, n.others⟩, ?_, ?_⟩
  · apply readMembers_append ⟨some n.kind, name, attributes, childNodes, value, data, .empty⟩
    · -- as in annotations, the fields come first; only the kind is always there
      apply readMembers_append ⟨some n.kind, none, none, none, none, none, .empty⟩
      · refine bind_eq_ok_iff.mpr ⟨_, bind_eq_ok_iff.mpr ⟨_, once_of_ok ?_, rfl⟩, rfl⟩
        exact congrArg Except.ok proper.kind
      apply readMembers_append ⟨some n.kind, name, none, none, none, none, .empty⟩
      · exact readMembers_optional (NodeFields.mk (some n.kind) · none none none none .empty)
          fun s _ => rfl
      apply readMembers_append ⟨some n.kind, name, attributes, none, none, none, .empty⟩
      · refine readMembers_optional
          (NodeFields.mk (some n.kind) name · none none none .empty) fun d here => ?_
        have low := flat ("attributes", some (.ofTexts d)) (by simp [fields, here]) _ rfl
        obtain ⟨levels, rfl⟩ := exists_levels_of_depth_object low
        exact once_optional _ (by intro null; cases null) (dictOf_ofTexts d)
      apply readMembers_append ⟨some n.kind, name, attributes, childNodes, none, none, .empty⟩
      · refine readMembers_optional
          (NodeFields.mk (some n.kind) name attributes · none none .empty) fun ns here => ?_
        have low := flat ("children", some (nodesJson ns)) (by simp [fields, here]) _ rfl
        obtain ⟨levels, rfl⟩ := exists_levels_of_depth_array low
        rw [childList, here] at children
        exact once_optional _ (by intro null; cases null) (listOf_nodesJson children)
      apply readMembers_append ⟨some n.kind, name, attributes, childNodes, value, none, .empty⟩
      · exact readMembers_optional
          (NodeFields.mk (some n.kind) name attributes childNodes · none .empty) fun s _ => rfl
      apply readMembers_append ⟨some n.kind, name, attributes, childNodes, value, data, .empty⟩ _
        rfl
      refine readMembers_optional
        (NodeFields.mk (some n.kind) name attributes childNodes value · .empty) fun d here => ?_
      have low := flat ("data", some d.toJson) (by simp [fields, here]) _ rfl
      refine once_optional _ (by intro null; cases null) ?_
      have others := proper.dataOthers
      have otherProperties := proper.otherProperties
      rw [dataOrBlank, here] at others otherProperties
      rw [shown?, here] at shownNodes
      exact NodeData.decode_toJson others otherProperties shownNodes low
    · refine readMembers_others
        (NodeFields.mk (some n.kind) name attributes childNodes value data) fun e mem d => ?_
      obtain ⟨unknown, sorted⟩ := proper.others.of_mem mem
      simp only [knownKeys, List.mem_cons, List.not_mem_nil, or_false, not_or] at unknown
      dsimp only
      rw [if_neg unknown.1, if_neg unknown.2.1, if_neg unknown.2.2.1, if_neg unknown.2.2.2.1,
        if_neg unknown.2.2.2.2.1, if_neg unknown.2.2.2.2.2,
        anything_ofJson sorted (flatOthers e mem)]
      rfl
  · simp only [name, attributes, childNodes, value, data, join_map_some]
    cases n
    rfl

/-- A child is two levels below its node. -/
theorem depth_child {n m : Node} (mem : m ∈ n.childList) :
    m.toJson.depth + 2 ≤ n.toJson.depth := by
  cases here : n.children with
  | none =>
    rw [childList, here] at mem
    cases mem
  | some ns =>
    have field : ("children", some (nodesJson ns)) ∈ n.fields := by simp [fields, here]
    rw [childList, here, Option.getD_some] at mem
    have inList := depth_lt_of_node mem
    have inNode := depth_lt_of_field field n.others
    rw [← toJson_eq] at inNode
    omega

/-- A node shown in place of the children is three levels below its node. -/
theorem depth_shown {n m : Node} (mem : m ∈ n.shown?.getD []) :
    m.toJson.depth + 3 ≤ n.toJson.depth := by
  cases here : n.shown? with
  | none =>
    rw [here] at mem
    cases mem
  | some ns =>
    obtain ⟨d, noted, shown⟩ := Option.bind_eq_some_iff.mp here
    have field : ("hChildren", some (nodesJson ns)) ∈ d.fields := by
      simp [NodeData.fields, shown]
    have data : ("data", some d.toJson) ∈ n.fields := by simp [fields, noted]
    rw [here, Option.getD_some] at mem
    have inList := depth_lt_of_node mem
    have inData := depth_lt_of_field field d.others
    have inNode := depth_lt_of_field data n.others
    rw [← toJson_eq] at inNode
    rw [← NodeData.toJson] at inData
    omega

/-- **A well-formed node is read back from its object**, as long as that does not nest too deep. -/
theorem decode_toJson {n : Node} (wf : n.WellFormed) {levels : Nat}
    (flat : n.toJson.depth ≤ levels) : Node.decode levels (.ofJson n.toJson) = .ok n := by
  -- with less than three levels left there are no nodes where none can be read
  induction levels using Node.decode.induct generalizing n with
  | case1 | case2 =>
    exact decodeWith_toJson wf.proper (fun m mem => absurd (depth_child mem) (by omega))
      (fun m mem => absurd (depth_shown mem) (by omega)) flat
  | case3 child =>
    exact decodeWith_toJson wf.proper
      (fun m mem => child (wf.children m mem)
        (Nat.le_of_add_le_add_right ((depth_child mem).trans flat)))
      (fun m mem => absurd (depth_shown mem) (by omega)) flat
  | case4 levels child shown =>
    exact decodeWith_toJson wf.proper
      (fun m mem => child (wf.children m mem)
        (Nat.le_of_add_le_add_right ((depth_child mem).trans flat)))
      (fun m mem => shown (wf.shown m mem)
        (Nat.le_of_add_le_add_right ((depth_shown mem).trans flat))) flat

/-! ## Documents and what becomes of them -/

/-- Documents that have been read, and what becomes of them when they are filled in or rendered
without a failure. -/
inductive Obtained : Node → Prop
  | decoded {levels : Nat} {draft : Draft} {t : Node} (ok : Node.decode levels draft = .ok t) :
    Obtained t
  | walked {t : Node} (obtained : Obtained t) {c : Context} {found : Found}
    (ok : (t.walk c).outcome = .ok found) : Obtained (t.walk c).result
  | rendered {t : Node} (obtained : Obtained t) {σ : Type} {service : FormService σ} {c : Context}
    {s : σ} {rendered : Rendered} (ok : (t.render service c s).result = .ok rendered) :
    Obtained rendered.tree

theorem Obtained.of_read {text : String} {t : Node} (h : Node.read text = .ok t) : t.Obtained :=
  .decoded (Json.read_eq_ok_iff.mp h).1

theorem Obtained.wellFormed {t : Node} (h : t.Obtained) : t.WellFormed := by
  induction h with
  | decoded ok => exact wellFormed_of_decode ok
  | walked obtained ok ih => exact ih.walk ok
  | rendered obtained ok ih => exact ih.render ok

/-- **Written documents read back.** Whatever has become of a document that was read, its text is
read as that same document again, whether it is written in one line or indented: with absent fields
absent, empty ones empty, and all unknown keys. For that its numbers, all of which stand under
unknown keys, have to be whole and fit a word, and it must not nest too deep for the reader. -/
theorem read_write_of_obtained {t : Node} (obtained : t.Obtained) (words : t.toJson.Words)
    (flat : t.toJson.depth ≤ Json.nesting) (style : Json.Style) :
    Node.read (t.write style) = .ok t := by
  rw [Node.read, Node.write, Json.read_write Node.decode style words]
  exact decode_toJson obtained.wellFormed flat

/-- A letter with a greeting, and with empty annotations and a key that is not known here. -/
def greeting : Json :=
  .object [("type", .string "root"), ("data", .object []), ("children", .array [
    .object [("type", .string "textDirective"), ("name", .string "recipientName"),
      ("position", .object [("line", .whole 3)])]])]

theorem read_write_of_obtained_greeting :
    ∃ t found, Node.read (greeting.write .compact) = .ok t ∧
      (t.walk .sample).outcome = .ok found ∧
      ∀ style, Node.read ((t.walk .sample).result.write style) = .ok (t.walk .sample).result := by
  have text : Node.read (greeting.write .compact) = Node.decode Json.nesting (.ofJson greeting) :=
    Json.read_write Node.decode .compact (by decide)
  have holds : ((Node.decode Json.nesting (.ofJson greeting)).toOption.any fun t =>
      (t.walk .sample).outcome.toOption.isSome &&
        decide ((t.walk .sample).result.toJson.Words ∧
          (t.walk .sample).result.toJson.depth ≤ Json.nesting)) = true := by
    decide +kernel
  rw [← text] at holds
  cases accepted : Node.read (greeting.write .compact) with
  | error e => simp [accepted, Except.toOption] at holds
  | ok t =>
    cases filled : (t.walk .sample).outcome with
    | error e => simp [accepted, filled, Except.toOption] at holds
    | ok found =>
      obtain ⟨words, flat⟩ : (t.walk .sample).result.toJson.Words ∧
          (t.walk .sample).result.toJson.depth ≤ Json.nesting := by
        simpa [accepted, filled, Except.toOption] using holds
      exact ⟨t, found, rfl, filled,
        read_write_of_obtained (.walked (.of_read accepted) filled) words flat⟩

end Node

end MailMerge
