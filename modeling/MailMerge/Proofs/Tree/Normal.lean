import MailMerge.Proofs.Tree.Object

/-!
# The normal form of a document

A document that is read and written again comes back with all its keys and values, but for one
fixed normalisation: optional keys that were null are gone, properties without entries are gone, and
a tag that was written as an object is written as a string. Nothing else is lost, however the
document is made up and whatever its nodes are.

What is done to a value depends on the role it plays in the document, and that follows from the key
it stands under and the role of the object around it. Values without a role stay as they are.

## Main definitions

* `Role`, `Role.below`, `Role.omits`: what a value is in a document.
* `Json.normal`: the normalisation.
* `Json.kept`: what is left of a value under a key.

## Main results

* `lookup_normalMembers`: what the normal form of an object has under a key.
* `kept_properties`, `kept_data`, `kept_node`: keys without a meaning stay.
* `sorted_record`: a record whose fields are the normalised members of an object is that object,
  normalised.
-/

namespace MailMerge

/-! ## The normalisation -/

/-- What a value is in a document. -/
inductive Role where
  | node
  | nodes
  | data
  | properties
  | tag
  | foreign
deriving DecidableEq, Repr

namespace Role

/-- What a value under a key is, in an object with a role. -/
def below (role : Role) (key : String) : Role :=
  match role with
  | .node =>
    if key = "children" then .nodes
    else if key = "data" then .data
    else .foreign
  | .data =>
    if key = "hName" then .tag
    else if key = "hProperties" then .properties
    else if key = "hChildren" then .nodes
    else .foreign
  | _ => .foreign

/-- True for the members of an object with a role that are left out: optional keys that are null,
and properties without entries. -/
def omits (role : Role) (key : String) : Json → Bool
  | .null =>
    match role with
    | .node => ["name", "attributes", "children", "value", "data"].contains key
    | .data => ["hName", "hChildren"].contains key
    | .properties => key == "href"
    | _ => false
  | .object [] => role == .data && key == "hProperties"
  | _ => false

theorem omits_object {role : Role} {key : String} (ne : role ≠ .data)
    (members : List (String × Json)) : role.omits key (.object members) = false := by
  rw [Role.omits.eq_def]
  split <;> simp_all

end Role

namespace Json

/-- A tag that is written as an object becomes the string that is its key. -/
def plainTag : Json → Json
  | .object [(name, .null)] =>
    if name = "a" ∨ name = "span" then .string name else .object [(name, .null)]
  | value => value

mutual

/-- The normal form of a value with a role. -/
def normal : Role → Json → Json
  | .nodes, .array items => .array (normalNodes items)
  | .node, .object members => .object (normalMembers .node members)
  | .data, .object members => .object (normalMembers .data members)
  | .properties, .object members => .object (normalMembers .properties members)
  | .tag, value => plainTag value
  | _, value => value

/-- The normal forms of nodes in a row. -/
def normalNodes : List Json → List Json
  | [] => []
  | item :: items => normal .node item :: normalNodes items

/-- The normal forms of the members of an object with a role, without those that are left out. -/
def normalMembers (role : Role) : List (String × Json) → List (String × Json)
  | [] => []
  | (key, value) :: members =>
    let value := normal (role.below key) value
    if role.omits key value then normalMembers role members
    else (key, value) :: normalMembers role members

end

/-- What is left of a value under a key, in an object with a role. -/
def kept (role : Role) (key : String) (value : Json) : Option Json :=
  let value := normal (role.below key) value
  if role.omits key value then none else some value

theorem normalNodes_eq (items : List Json) : normalNodes items = items.map (normal .node) := by
  induction items with
  | nil => rfl
  | cons item items ih => rw [normalNodes, ih, List.map_cons]

theorem normalMembers_eq (role : Role) (members : List (String × Json)) :
    normalMembers role members =
      members.filterMap fun m => (kept role m.1 m.2).map fun value => (m.1, value) := by
  induction members with
  | nil => rfl
  | cons m members ih =>
    obtain ⟨key, value⟩ := m
    rw [normalMembers, List.filterMap_cons, kept, ih]
    dsimp only
    split <;> rfl

/-- Members in key order stay in key order. -/
theorem increasing_normalMembers (role : Role) {members : List (String × Json)}
    (h : members.Pairwise fun a b => a.1 < b.1) :
    (normalMembers role members).Pairwise fun a b => a.1 < b.1 := by
  rw [normalMembers_eq]
  refine h.filterMap _ fun a b lt a' ha b' hb => ?_
  obtain ⟨v, -, rfl⟩ := Option.map_eq_some_iff.mp ha
  obtain ⟨w, -, rfl⟩ := Option.map_eq_some_iff.mp hb
  exact lt

theorem lookup_normalMembers (role : Role) {members : List (String × Json)}
    (h : members.Pairwise fun a b => a.1 < b.1) (key : String) :
    Dict.lookup key (normalMembers role members) =
      (Dict.lookup key members).bind (kept role key) := by
  induction members with
  | nil => rfl
  | cons m members ih =>
    obtain ⟨k, value⟩ := m
    obtain ⟨first, rest⟩ := List.pairwise_cons.mp h
    rw [normalMembers_eq, List.filterMap_cons, ← normalMembers_eq, Dict.lookup]
    by_cases eq : k = key
    · subst eq
      rw [if_pos rfl, Option.bind_some]
      cases here : kept role k value with
      | none =>
        -- the key does not come again, so a member that is left out is gone
        rw [Option.map_none]
        dsimp only
        rw [ih rest, Dict.lookup_eq_none_of_lt first]
        rfl
      | some value => rw [Option.map_some, Dict.lookup, if_pos rfl]
    · rw [if_neg eq, ← ih rest]
      cases kept role k value with
      | none => rfl
      | some value => rw [Option.map_some, Dict.lookup, if_neg eq]

/-! ### What is left of a value under a key -/

variable {role : Role} {key : String}

theorem kept_of_normal {v w : Json} (h : v.normal (role.below key) = w)
    (stays : role.omits key w = false) : kept role key v = some w := by
  rw [kept, h]
  simp [stays]

theorem kept_null (h : role.omits key .null = true) : kept role key .null = none := by
  have null : null.normal (role.below key) = .null := by cases role.below key <;> rfl
  rw [kept, null]
  simp [h]

/-- Keys without a meaning stay. -/
theorem kept_foreign (below : role.below key = .foreign)
    (stays : ∀ v, role.omits key v = false) (v : Json) : kept role key v = some v :=
  kept_of_normal (by rw [below]; cases v <;> rfl) (stays v)

theorem kept_properties (unknown : key ∉ NodeData.propertyKeys) (v : Json) :
    kept .properties key v = some v := by
  simp only [NodeData.propertyKeys, List.mem_singleton] at unknown
  refine kept_foreign rfl (fun v => ?_) v
  rw [Role.omits.eq_def]
  split <;> simp [unknown]

theorem kept_data (unknown : key ∉ NodeData.knownKeys) (v : Json) :
    kept .data key v = some v := by
  simp only [NodeData.knownKeys, List.mem_cons, List.not_mem_nil, or_false, not_or] at unknown
  refine kept_foreign (by simp [Role.below, unknown]) (fun v => ?_) v
  rw [Role.omits.eq_def]
  split <;> simp [unknown]

theorem kept_node (unknown : key ∉ Node.knownKeys) (v : Json) :
    kept .node key v = some v := by
  simp only [Node.knownKeys, List.mem_cons, List.not_mem_nil, or_false, not_or] at unknown
  refine kept_foreign (by simp [Role.below, unknown]) (fun v => ?_) v
  rw [Role.omits.eq_def]
  split <;> simp [unknown]

theorem kept_string (below : role.below key = .foreign) (s : String) :
    kept role key (.string s) = some (Json.string s).sorted :=
  kept_of_normal (by rw [below]; rfl) (by rw [Role.omits.eq_def]; rfl)

theorem kept_texts (ne : role ≠ .data) (below : role.below key = .foreign) (d : Dict String) :
    kept role key (.ofTexts d) = some (ofTexts d).sorted := by
  have sorted : (ofTexts d).sorted = ofTexts d := by
    apply sorted_ofDict
    intro m mem
    obtain ⟨e, -, rfl⟩ := List.mem_map.mp mem
    rfl
  rw [sorted]
  exact kept_of_normal (by rw [below]; rfl) (Role.omits_object ne _)

end Json

/-! ## Records -/

/-- A record is the normal form of an object if each field is what is left of the value under its
key, and the other keys are those of the object. -/
theorem sorted_record {role : Role} {fields : List (String × Option Json)} {others d : Dict Json}
    (object : (Json.ofDict d).normal role = .object (Json.normalMembers role d.entries))
    (distinct : (fields.map Prod.fst).Nodup) (foreign : Foreign (fields.map Prod.fst) others)
    (known : ∀ f ∈ fields, (d.get? f.1).bind (Json.kept role f.1) = f.2.map Json.sorted)
    (unknown : ∀ key, key ∉ fields.map Prod.fst →
      others.get? key = d.get? key ∧ ∀ v, Json.kept role key v = some v) :
    (Json.object (recordMembers fields others)).sorted = (Json.ofDict d).normal role := by
  have distinct' :
      ((fields.map fun f => (f.1, f.2.map Json.sorted)).map Prod.fst).Nodup := by
    rwa [List.map_map]
  rw [Json.sorted_object, map_sorted_recordMembers, object, Json.ofDict]
  congr 1
  apply Dict.eq_of_lookup_eq (Dict.increasing _) (Json.increasing_normalMembers role d.increasing)
  intro key
  rw [Json.lookup_normalMembers role d.increasing]
  change (Dict.ofList _).get? key = (d.get? key).bind _
  rw [get?_recordMembers distinct', Dict.get?_map, Dict.lookup_map]
  by_cases mem : key ∈ fields.map Prod.fst
  · obtain ⟨f, field, rfl⟩ := List.mem_map.mp mem
    rw [foreign.unknown f.1 mem, Dict.lookup_of_mem distinct field, known f field]
    rfl
  · obtain ⟨same, all⟩ := unknown key mem
    rw [Dict.lookup_eq_none_of_not_mem mem, ← same]
    cases found : others.get? key with
    | none => rfl
    | some v => simp [foreign.sorted key v found, all]

end MailMerge
