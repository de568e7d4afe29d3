import MailMerge.Proofs.Tree.WellFormed
import MailMerge.Tree.Codec

/-!
# The objects of nodes

A node, its annotations and the properties in them are written in the same way: first the fields
that are there, then all other keys. So each of them is a record, and what a record has under a key
follows from its fields and its other keys alone.

## Main definitions

* `recordMembers`: the members of a record.
* `Node.fields`, `NodeData.fields`, `propertyFields`: the fields of the three records.
* `NodeData.toJson`, `propertiesJson?`: annotations and properties on their own.

## Main results

* `Node.toJson_eq`: the object of a node as a record.
* `get?_recordMembers`: what a record has under a key.
-/

namespace MailMerge

/-- The members of a record: the fields that are there, and all other keys behind them. -/
def recordMembers (fields : List (String × Option Json)) (others : Dict Json) :
    List (String × Json) :=
  (fields.flatMap fun f => Json.memberOf f.1 f.2) ++ others.entries

/-! ## The three records -/

/-- The fields of the properties of an element. -/
def propertyFields (href : Option String) : List (String × Option Json) :=
  [("href", href.map .string)]

/-- The properties of an element, nothing when there are none. -/
def propertiesJson? (href : Option String) (others : Dict Json) : Option Json :=
  match recordMembers (propertyFields href) others with
  | [] => none
  | members => some (.object members)

/-- The list of the objects of nodes. -/
def nodesJson (ns : List Node) : Json := .array (ns.map Node.toJson)

namespace NodeData

/-- The fields of annotations. -/
def fields (d : NodeData Node) : List (String × Option Json) :=
  [("hName", d.tag.map fun t => .string t.name),
    ("hProperties", propertiesJson? d.href d.otherProperties),
    ("hChildren", d.shown.map nodesJson)]

/-- The object of annotations. -/
def toJson (d : NodeData Node) : Json := .object (recordMembers d.fields d.others)

end NodeData

theorem nodup_propertyFields (href : Option String) :
    ((propertyFields href).map Prod.fst).Nodup :=
  List.nodup_singleton _

theorem NodeData.nodup_fields (d : NodeData Node) : (d.fields.map Prod.fst).Nodup :=
  (by decide : NodeData.knownKeys.Nodup)

namespace Node

/-- The fields of a node. -/
def fields (n : Node) : List (String × Option Json) :=
  [("type", some (.string n.kind.name)), ("name", n.name.map .string),
    ("attributes", n.attributes.map .ofTexts), ("children", n.children.map nodesJson),
    ("value", n.value.map .string), ("data", n.data.map NodeData.toJson)]

theorem nodup_fields (n : Node) : (n.fields.map Prod.fst).Nodup :=
  (by decide : knownKeys.Nodup)

theorem nodesToJson_eq (ns : List Node) : nodesToJson ns = ns.map toJson := by
  induction ns with
  | nil => rfl
  | cons n ns ih => rw [nodesToJson, ih, List.map_cons]

theorem nodesMember_eq (key : String) (ns : Option (List Node)) :
    nodesMember key ns = Json.memberOf key (ns.map nodesJson) := by
  cases ns with
  | none => rfl
  | some ns => rw [nodesMember, nodesToJson_eq]; rfl

theorem propertiesMember_eq (href : Option String) (others : Dict Json) :
    propertiesMember href others = Json.memberOf "hProperties" (propertiesJson? href others) := by
  have same : Json.memberOf "href" (href.map .string) ++ others.entries =
      recordMembers (propertyFields href) others := by
    simp [recordMembers, propertyFields]
  rw [propertiesMember, same, propertiesJson?]
  cases recordMembers (propertyFields href) others with
  | nil => rfl
  | cons m members => rfl

theorem dataMember_eq (data : Option (NodeData Node)) :
    dataMember data = Json.memberOf "data" (data.map NodeData.toJson) := by
  match data with
  | none => rfl
  | some ⟨tag, href, otherProperties, shown, others⟩ =>
    simp [dataMember, nodesMember_eq, propertiesMember_eq, Json.memberOf, NodeData.toJson,
      NodeData.fields, recordMembers]

/-- The object of a node is the record of its fields. -/
theorem toJson_eq (n : Node) : n.toJson = .object (recordMembers n.fields n.others) := by
  obtain ⟨kind, name, attributes, children, value, data, others⟩ := n
  simp [toJson, nodesMember_eq, dataMember_eq, fields, recordMembers, Json.memberOf]

end Node

/-! ## Looking keys up -/

variable {fields : List (String × Option Json)}

theorem get?_insertAll_memberOf (d : Dict Json) (key : String) (o : Option Json) (k : String) :
    (d.insertAll (Json.memberOf key o)).get? k = if key = k then o.or (d.get? k) else d.get? k := by
  cases o with
  | none => simp [Json.memberOf]
  | some v => simp [Json.memberOf]

/-- What fields with different keys add to a dictionary. -/
theorem get?_insertAll_fields (distinct : (fields.map Prod.fst).Nodup) (d : Dict Json)
    (key : String) :
    (d.insertAll (fields.flatMap fun f => Json.memberOf f.1 f.2)).get? key =
      (Dict.lookup key fields).join.or (d.get? key) := by
  induction fields generalizing d with
  | nil => rfl
  | cons f fields ih =>
    rw [List.map_cons, List.nodup_cons] at distinct
    rw [List.flatMap_cons, Dict.insertAll_append, ih distinct.2, get?_insertAll_memberOf,
      Dict.lookup]
    split
    · rename_i eq
      rw [Dict.lookup_eq_none_of_not_mem (eq ▸ distinct.1)]
      rfl
    · rfl

/-- What a record has under a key: what is written last, so another key goes before a field. -/
theorem get?_recordMembers (distinct : (fields.map Prod.fst).Nodup) (others : Dict Json)
    (key : String) :
    (Dict.ofList (recordMembers fields others)).get? key =
      (others.get? key).or (Dict.lookup key fields).join := by
  rw [Dict.ofList, recordMembers, Dict.insertAll_append, Dict.get?_insertAll_entries,
    get?_insertAll_fields distinct, Dict.get?_empty, Option.or_none]

/-- A record with all values in key order is a record. -/
theorem map_sorted_recordMembers (fields : List (String × Option Json)) (others : Dict Json) :
    ((recordMembers fields others).map fun m => (m.1, m.2.sorted)) =
      recordMembers (fields.map fun f => (f.1, f.2.map Json.sorted)) (others.map Json.sorted) := by
  have member : ∀ f : String × Option Json,
      ((Json.memberOf f.1 f.2).map fun m => (m.1, m.2.sorted)) =
        Json.memberOf f.1 (f.2.map Json.sorted) := by
    rintro ⟨key, o⟩
    cases o <;> rfl
  rw [recordMembers, List.map_append, List.map_flatMap, recordMembers, List.flatMap_map]
  simp only [member]
  rfl

end MailMerge
