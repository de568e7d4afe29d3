import MailMerge.Json.Value
import MailMerge.Json.Fault

/-!
# Drafts: texts read as far as they go

A document can have two things wrong with it, and the one that stands first in the text is
the one to report. A `Draft` is what the text says up to its first fault, with the fault
kept in the place where it stands. Whoever reads a draft from front to back meets a fault
of the text only after everything that precedes it.

A reader that passes over a part of the document is more lenient than one that needs its
value: numbers may be out of range and escapes need not form characters. So numbers and
strings of a draft are values or faults themselves, and where the two readers would report
a different end of the text, the draft keeps both.

## Main definitions

* `Draft`: the value as it is written.
* `Draft.toJson`: the value of a draft, for a bounded nesting.
* `Draft.skip`: passing over a draft.
* `Draft.ofJson`: the draft of a sound document.
-/

namespace MailMerge.Json

/-- The place where a text stops being JSON: the fault for a reader that needs the value
and the fault for one that passes over it. -/
structure Break where
  reading : Fault
  skipping : Fault
deriving DecidableEq, Repr

/-- A break on which both readers agree. -/
def Break.both (fault : Fault) : Break := ⟨fault, fault⟩

/-- A value as it is written, up to the first fault of its text. A value that broke off before
its kind was certain keeps the character it starts with, if it starts at all. -/
inductive Draft where
  | null
  | bool (b : Bool)
  | number (value : Except Fault Number)
  | string (text : Except Fault String)
  | array (items : List Draft) (stop : Option Break)
  | object (members : List (Except Fault String × Draft)) (stop : Option Break)
  | broken (start : Option Char) (here : Break)
deriving Inhabited

/-- The result of reading a part of a document. -/
abbrev Read (α : Type) := Except ReadError α

/-- Fails with a fault of the text. -/
def faulty {α : Type} (fault : Fault) : Read α := .error (.text fault)

/-- Fails with an error of the data. -/
def unfit {α : Type} (error : DataError) : Read α := .error (.data error)

/-- The value of a string or a number, unless it has none. -/
def valueOf {α : Type} : Except Fault α → Read α
  | .ok a => .ok a
  | .error fault => faulty fault

/-- Nothing follows unless the text broke off. -/
def endOf : Option Break → Read Unit
  | none => .ok ()
  | some b => faulty b.reading

namespace Draft

/-- The value of a draft that nests at most `levels` arrays and objects. Members end up in
key order and the last one under a key wins. -/
def toJson : Nat → Draft → Read Json
  | _, .null => .ok .null
  | _, .bool b => .ok (.bool b)
  | _, .number value => do return .number (← valueOf value)
  | _, .string text => do return .string (← valueOf text)
  | _, .broken _ b => faulty b.reading
  | 0, .array _ _ => faulty .tooDeep
  | 0, .object _ _ => faulty .tooDeep
  | levels + 1, .array items stop => do
    let items ← items.mapM (toJson levels)
    endOf stop
    return .array items
  | levels + 1, .object members stop => do
    let members ← members.mapM fun m => do
      let key ← valueOf m.1
      let value ← toJson levels m.2
      return (key, value)
    endOf stop
    return .ofDict (.ofList members)

/-- What a reader reports who passes over the rest of a list or an object. -/
def skipEnd : Option Break → Read Unit
  | none => .ok ()
  | some b => faulty b.skipping

mutual

/-- Passes over a draft: only the shape of the text matters. -/
def skip : Draft → Read Unit
  | .null | .bool _ | .number _ | .string _ => .ok ()
  | .broken _ b => faulty b.skipping
  | .array items stop => do skipItems items; skipEnd stop
  | .object members stop => do skipMembers members; skipEnd stop

/-- Passes over the items of a list. -/
def skipItems : List Draft → Read Unit
  | [] => .ok ()
  | item :: items => do item.skip; skipItems items

/-- Passes over the members of an object. -/
def skipMembers : List (Except Fault String × Draft) → Read Unit
  | [] => .ok ()
  | (_, value) :: members => do value.skip; skipMembers members

end

mutual

/-- The draft of a sound document that holds the value. -/
def ofJson : Json → Draft
  | .null => .null
  | .bool b => .bool b
  | .number n => .number (.ok n)
  | .string s => .string (.ok s)
  | .array items => .array (ofItems items) none
  | .object members => .object (ofMembers members) none

/-- The drafts of the items of a list. -/
def ofItems : List Json → List Draft
  | [] => []
  | item :: items => ofJson item :: ofItems items

/-- The drafts of the members of an object. -/
def ofMembers : List (String × Json) → List (Except Fault String × Draft)
  | [] => []
  | (key, value) :: members => (.ok key, ofJson value) :: ofMembers members

end

end Draft

end MailMerge.Json
