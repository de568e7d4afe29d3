import MailMerge.Json.Scan
import MailMerge.Json.Write
import MailMerge.Text.Quoted

/-!
# Reading typed data from drafts

A decoder takes a draft apart from front to back and fails at the first thing that is
wrong, be it a fault of the text or a value of the wrong kind. It is given the number of
arrays and objects that may still be nested.

Records are objects, and some of them may also be lists of all their fields in order; a
`Row` is such a list while it is being read.

## Main definitions

* `Decoder`: readers of drafts.
* `Decoder.string`, `Decoder.word`, `Decoder.optional`, `Decoder.listOf`, `Decoder.dictOf`:
  decoders of simple data.
* `Decoder.members`: a record from the members of an object.
* `once`, `required`: the rules for fields, which must not repeat and may not be left out.
* `Row`, `Row.take`, `Row.takeOr`, `fromRow`: a record from a list.
-/

namespace MailMerge.Json

/-- Readers of drafts that nest a bounded number of arrays and objects. -/
abbrev Decoder (α : Type) := Nat → Draft → Read α

/-- How a message names a number. -/
def describeNumber : Number → String
  | .whole i => "integer `" ++ String.ofList (Number.whole i).chars ++ "`"
  | .double d => "floating point `" ++ String.ofList (Number.double d).chars ++ "`"

/-- How a message names the kind of a draft; the text may turn out to be faulty. -/
def describe : Draft → Read String
  | .null => .ok "null"
  | .bool true => .ok "boolean `true`"
  | .bool false => .ok "boolean `false`"
  | .number value => do return describeNumber (← valueOf value)
  | .string text => do return "string " ++ Text.quoted (← valueOf text)
  | .array _ _ => .ok "sequence"
  | .object _ _ => .ok "map"
  | .broken _ here => faulty here.reading

/-- Fails because a draft is not of the kind that is expected. -/
def mismatch {α : Type} (expected : String) (draft : Draft) : Read α := do
  unfit (.invalidType (← describe draft) expected)

namespace Decoder

/-- Any value. -/
def anything : Decoder Json := Draft.toJson

/-- A string. -/
def string : Decoder String
  | _, .string text => valueOf text
  | _, draft => mismatch "a string" draft

/-- A whole number that fits an unsigned word. -/
def word : Decoder Nat
  | _, .number value => do
    match ← valueOf value with
    | .whole i =>
      if 0 ≤ i then return i.toNat
      else unfit (.invalidValue (describeNumber (.whole i)) "u64")
    | n => unfit (.invalidType (describeNumber n) "u64")
  | _, draft => mismatch "u64" draft

/-- A value or null. A value that starts like null is taken for it. -/
def optional {α : Type} (decode : Decoder α) : Decoder (Option α)
  | _, .null => .ok none
  | _, .broken (some 'n') here => faulty here.reading
  | levels, draft => do return some (← decode levels draft)

/-- A list. -/
def listOf {α : Type} (decode : Decoder α) : Decoder (List α)
  | 0, .array _ _ => faulty .tooDeep
  | levels + 1, .array items stop => do
    let items ← items.mapM (decode levels)
    endOf stop
    return items
  | _, draft => mismatch "a sequence" draft

/-- The members of an object from front to back, collected by `step`. -/
def members {σ : Type} (expected : String) (step : Nat → σ → String → Draft → Read σ)
    (start : σ) : Decoder σ
  | 0, .object _ _ => faulty .tooDeep
  | levels + 1, .object ms stop => do
    let result ← ms.foldlM
      (fun s m => do
        let key ← valueOf m.1
        step levels s key m.2) start
    endOf stop
    return result
  | _, draft => mismatch expected draft

/-- A dictionary; the last member under a key wins. -/
def dictOf {α : Type} (decode : Decoder α) : Decoder (Dict α) :=
  members "a map"
    (fun levels d key draft => do return d.insert key (← decode levels draft)) Dict.empty

end Decoder

/-- A field that must not have been read before. -/
def once {α : Type} (field : String) (found : Option α) (value : Read α) : Read (Option α) :=
  if found.isSome then unfit (.duplicateField field) else value.map some

/-- A field that may not be left out. -/
def required {α : Type} (field : String) : Option α → Read α
  | some a => .ok a
  | none => unfit (.missingField field)

/-! ### Records written as lists -/

/-- The part of a list that has not been read yet. -/
structure Row where
  items : List Draft
  stop : Option Break

/-- Readers of the next items of a list. -/
abbrev RowReader (α : Type) := StateT Row (Except ReadError) α

namespace Row

/-- The next item, none at the end of the list. -/
def next? : RowReader (Option Draft) := fun row =>
  match row.items with
  | item :: items => .ok (some item, { row with items })
  | [] => do endOf row.stop; return (none, row)

/-- The field at `index` of a record that is described as `expected`. -/
def take {α : Type} (index : Nat) (expected : String) (decode : Draft → Read α) :
    RowReader α := do
  match ← next? with
  | some item => decode item
  | none => unfit (α := α) (.invalidLength index expected)

/-- A field that has a value of its own if the list ends before it. -/
def takeOr {α : Type} (default : α) (decode : Draft → Read α) : RowReader α := do
  match ← next? with
  | some item => decode item
  | none => return default

/-- Nothing may follow the last field. Whatever it is that follows, it is not looked at. -/
def finish (row : Row) : Read Unit :=
  match row.items, row.stop with
  | [], none => .ok ()
  | [], some ⟨.endInList, _⟩ => faulty .endInList
  | [], some ⟨.trailingComma, _⟩ => faulty .trailingComma
  | _, _ => faulty .trailingCharacters

end Row

/-- A record from the list of its fields. -/
def fromRow {α : Type} (fields : Nat → RowReader α) : Nat → List Draft → Option Break → Read α
  | 0, _, _ => faulty .tooDeep
  | levels + 1, items, stop => do
    let (record, rest) ← (fields levels).run ⟨items, stop⟩
    rest.finish
    return record

end MailMerge.Json
