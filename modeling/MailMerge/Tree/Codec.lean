import MailMerge.Json.Decode
import MailMerge.Tree.Node

/-!
# Documents as JSON

A node is an object. The keys `type`, `name`, `attributes`, `children`, `value` and `data`
have a meaning and a fixed order when written; all other keys are kept and written behind
them in key order. The same holds for the annotations under `data` and for the properties
in them. A known key that is null counts as absent, and so do properties without entries.

## Main definitions

* `Node.toJson`: the object of a node.
* `Node.decode`, `Node.read`: the node of an object.
-/

namespace MailMerge

open Json (Draft Read Decoder faulty unfit once required valueOf mismatch)

/-! ### Writing -/

/-- The member under `key` if there is a value. -/
def Json.memberOf (key : String) : Option Json → List (String × Json)
  | some value => [(key, value)]
  | none => []

/-- The properties of an element, left out when there are none. -/
def propertiesMember (href : Option String) (others : Dict Json) : List (String × Json) :=
  match Json.memberOf "href" (href.map .string) ++ others.entries with
  | [] => []
  | members => [("hProperties", .object members)]

mutual

/-- The object of a node. -/
def Node.toJson : Node → Json
  | ⟨kind, name, attributes, children, value, data, others⟩ =>
    .object <|
      ("type", .string kind.name) ::
        (Json.memberOf "name" (name.map .string)
          ++ Json.memberOf "attributes" (attributes.map .ofTexts)
          ++ nodesMember "children" children
          ++ Json.memberOf "value" (value.map .string)
          ++ dataMember data
          ++ others.entries)

/-- The list of nodes under `key` if there is one. -/
def nodesMember (key : String) : Option (List Node) → List (String × Json)
  | none => []
  | some nodes => [(key, .array (nodesToJson nodes))]

/-- The objects of nodes in a row. -/
def nodesToJson : List Node → List Json
  | [] => []
  | n :: ns => n.toJson :: nodesToJson ns

/-- The annotations of a node if there are any. -/
def dataMember : Option (NodeData Node) → List (String × Json)
  | none => []
  | some ⟨tag, href, otherProperties, shown, others⟩ =>
    [("data", .object <|
      Json.memberOf "hName" (tag.map fun t => .string t.name)
        ++ propertiesMember href otherProperties
        ++ nodesMember "hChildren" shown
        ++ others.entries)]

end

/-! ### Reading -/

/-- The tag with a name. -/
def Tag.ofName? (name : String) : Read Tag :=
  if name = "span" then .ok .span
  else if name = "a" then .ok .a
  else unfit (.unknownVariant name "`span` or `a`")

/-- A tag: its name, or an object with its name as the only key and null as the value. -/
def Tag.decode : Decoder Tag
  | _, .string text => do Tag.ofName? (← valueOf text)
  | 0, .object _ _ => faulty .tooDeep
  | _ + 1, .object [] (some here) => faulty here.reading
  | _ + 1, .object ((key, value) :: more) stop => do
    let tag ← Tag.ofName? (← valueOf key)
    match value with
    | .null => pure ()
    | value => mismatch "unit" value
    match more, stop with
    | [], none => return tag
    | [], some ⟨.endInObject, _⟩ => faulty .endInObject
    | _, _ => faulty .expectedValue
  | _, .broken none here | _, .broken (some '"') here => faulty here.reading
  | _, _ => faulty .expectedValue

/-- The properties of an element while they are being read. -/
structure PropertyFields where
  href : Option (Option String)
  others : Dict Json

/-- The properties of an element: its target and all other keys. -/
def decodeProperties : Decoder (Option String × Dict Json) := fun levels draft => do
  let f ← Decoder.members "struct EmittedProperties"
    (fun levels (f : PropertyFields) key value =>
      if key = "href" then do
        return { f with href := ← once key f.href (Decoder.optional .string levels value) }
      else do
        return { f with others := f.others.insert key (← Decoder.anything levels value) })
    ⟨none, .empty⟩ levels draft
  return (f.href.join, f.others)

/-- The annotations of a node while they are being read. -/
structure DataFields where
  tag : Option (Option Tag)
  properties : Option (Option String × Dict Json)
  shown : Option (Option (List Node))
  others : Dict Json

/-- The annotations of a node, where `node` reads the nodes shown in place of its children. -/
def NodeData.decode (node : Draft → Read Node) : Decoder (NodeData Node) := fun levels draft => do
  let f ← Decoder.members "struct NodeData"
    (fun levels (f : DataFields) key value =>
      if key = "hName" then do
        return { f with tag := ← once key f.tag (Decoder.optional Tag.decode levels value) }
      else if key = "hProperties" then do
        return { f with properties := ← once key f.properties (decodeProperties levels value) }
      else if key = "hChildren" then do
        return { f with
          shown := ← once key f.shown
            (Decoder.optional (Decoder.listOf fun _ => node) levels value) }
      else do
        return { f with others := f.others.insert key (← Decoder.anything levels value) })
    ⟨none, none, none, .empty⟩ levels draft
  let (href, otherProperties) := f.properties.getD (none, .empty)
  return ⟨f.tag.join, href, otherProperties, f.shown.join, f.others⟩

/-- A node while it is being read. -/
structure NodeFields where
  kind : Option Kind
  name : Option (Option String)
  attributes : Option (Option (Dict String))
  children : Option (Option (List Node))
  value : Option (Option String)
  data : Option (Option (NodeData Node))
  others : Dict Json

/-- A node, where `child` reads its children and `shown` the nodes shown in their place. -/
def Node.decodeWith (child shown : Draft → Read Node) : Decoder Node := fun levels draft => do
  let f ← Decoder.members "struct Node"
    (fun levels (f : NodeFields) key value =>
      if key = "type" then do
        return { f with kind := ← once key f.kind ((Decoder.string levels value).map Kind.ofName) }
      else if key = "name" then do
        return { f with name := ← once key f.name (Decoder.optional .string levels value) }
      else if key = "attributes" then do
        return { f with
          attributes := ← once key f.attributes
            (Decoder.optional (Decoder.dictOf .string) levels value) }
      else if key = "children" then do
        return { f with
          children := ← once key f.children
            (Decoder.optional (Decoder.listOf fun _ => child) levels value) }
      else if key = "value" then do
        return { f with value := ← once key f.value (Decoder.optional .string levels value) }
      else if key = "data" then do
        return { f with
          data := ← once key f.data (Decoder.optional (NodeData.decode shown) levels value) }
      else do
        return { f with others := f.others.insert key (← Decoder.anything levels value) })
    ⟨none, none, none, none, none, none, .empty⟩ levels draft
  let kind ← required "type" f.kind
  return ⟨kind, f.name.join, f.attributes.join, f.children.join, f.value.join, f.data.join,
    f.others⟩

/-- Nothing fits into the nesting that is left. -/
def noRoom {α : Type} : Draft → Read α := fun _ => faulty .tooDeep

/-- A node that nests at most `levels` arrays and objects. A child is two levels below its
node, and a node shown in place of the children is three levels below it. -/
def Node.decode : Decoder Node
  | 0 => Node.decodeWith noRoom noRoom 0
  | 1 => Node.decodeWith noRoom noRoom 1
  | 2 => Node.decodeWith (Node.decode 0) noRoom 2
  | levels + 3 => Node.decodeWith (Node.decode (levels + 1)) (Node.decode levels) (levels + 3)

/-- Reads a document. -/
def Node.read (text : String) : Read Node := Json.read Node.decode text

/-- The text of a document. -/
def Node.write (style : Json.Style) (n : Node) : String := n.toJson.write style

end MailMerge
