/-!
# Tables of a settings file

A settings file is a table of keys and values. Tables are made in several ways: by a header of
their own, by the header of a table inside them, by a key with dots, or in braces. What may be
added to a table later depends on how it has been made.

## Main definitions

* `Value`: values, tables among them.
* `Origin`: how a table has been made.
* `alter`: changing the table that a path leads to.
* `define`, `append`, `assign`: a header, a header in double brackets, and a key with a value.

## Main results

* `alter_nil`, `define_of_absent`: the simplest cases.
-/

namespace MailMerge.Toml

/-- How a table has been made: by its own header, on the way to another table, by a key with
dots, or in braces. -/
inductive Origin where
  | headed
  | passed
  | dotted
  | braced
deriving DecidableEq, Repr

/-- A value. Dates and times are only recognised, and so are fractions. A list is made up of
tables if every item has a header of its own. -/
inductive Value where
  | string (s : String)
  | whole (i : Int)
  | fraction
  | bool (b : Bool)
  | moment
  | list (ofTables : Bool) (items : List Value)
  | table (origin : Origin) (rows : List (String × Value))
deriving Repr, Inhabited

/-- The rows of a table in the order in which they have been made. -/
abbrev Rows := List (String × Value)

/-- Replaces the value under a key. -/
def replace (key : String) (value : Value) (rows : Rows) : Rows :=
  rows.map fun row => if row.1 = key then (key, value) else row

/-- Changes the table that a path leads to. Tables that are missing on the way are made, the
last table of a list stands for the list, and tables in braces are closed. A key with dots
(`dotted`) does not lead into a table with a header. -/
def alter (dotted : Bool) (change : Origin → Rows → Option (Origin × Rows)) :
    List String → Origin → Rows → Option (Origin × Rows)
  | [], origin, rows => change origin rows
  | key :: path, origin, rows =>
    match rows.lookup key with
    | none => do
      let (o, inner) ← alter dotted change path (if dotted then .dotted else .passed) []
      return (origin, rows ++ [(key, .table o inner)])
    | some (.table o inner) =>
      if o = .braced ∨ (dotted ∧ o = .headed) then none
      else do
        let (o, inner) ← alter dotted change path o inner
        return (origin, replace key (.table o inner) rows)
    | some (.list true items) =>
      match items.getLast? with
      | some (.table o inner) => do
        let (o, inner) ← alter dotted change path o inner
        return (origin, replace key (.list true (items.dropLast ++ [.table o inner])) rows)
      | _ => none
    | some _ => none

/-- Gives a table its header. Only a table that has been made on the way to another one may
be there already. -/
def define (path : List String) (key : String) (rows : Rows) : Option Rows := do
  let (_, rows) ← alter false (fun origin rows =>
    match rows.lookup key with
    | none => some (origin, rows ++ [(key, .table .headed [])])
    | some (.table .passed inner) => some (origin, replace key (.table .headed inner) rows)
    | some _ => none) path .headed rows
  return rows

/-- Adds a table to a list of tables. -/
def append (path : List String) (key : String) (rows : Rows) : Option Rows := do
  let (_, rows) ← alter false (fun origin rows =>
    match rows.lookup key with
    | none => some (origin, rows ++ [(key, .list true [.table .headed []])])
    | some (.list true items) =>
      some (origin, replace key (.list true (items ++ [.table .headed []])) rows)
    | some _ => none) path .headed rows
  return rows

/-- Gives a key of a table its value. Keys with dots go into tables that such keys have made,
other keys into all others. -/
def assign (path : List String) (key : String) (value : Value) (origin : Origin) (rows : Rows) :
    Option (Origin × Rows) :=
  alter true (fun origin rows =>
    if (origin == .dotted) = path.isEmpty ∨ (rows.lookup key).isSome then none
    else some (origin, rows ++ [(key, value)])) path origin rows

@[simp] theorem alter_nil (dotted : Bool) (change : Origin → Rows → Option (Origin × Rows))
    (origin : Origin) (rows : Rows) : alter dotted change [] origin rows = change origin rows :=
  rfl

/-- A table that is not there yet is made. -/
theorem define_of_absent {key : String} {rows : Rows} (h : rows.lookup key = none) :
    define [] key rows = some (rows ++ [(key, .table .headed [])]) := by
  simp [define, h]

end MailMerge.Toml
