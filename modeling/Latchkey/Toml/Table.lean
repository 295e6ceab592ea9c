import Latchkey.Settings.Raw

set_option autoImplicit false

/-! # TOML tables under construction

Headers and keys write down a tree bit by bit. What may still be added to a table depends on how it
came about: through its own header, on the way to another one, or by a key with dots. Values, and
the tables in them, are complete as they stand. -/

namespace Latchkey.Toml

/-- How a table came about. -/
inductive Origin
  /-- On the way to a table with a longer header; its own header may still come. -/
  | implied
  /-- Through its own header. -/
  | headed
  /-- By a key with dots. -/
  | dotted
deriving DecidableEq, Repr

/-- What a name stands for. -/
inductive Item
  | value (raw : Raw)
  | table (origin : Origin) (entries : List (String × Item))
  /-- An array of tables, of which the last one can still grow. -/
  | tables (elements : List (List (String × Item)))

/-- A table under construction; each name stands once. -/
abbrev Entries := List (String × Item)

namespace Entries

/-- Changes what a name stands for, if the change is allowed. -/
def modify? (name : String) (change : Option Item → Option Item) : Entries → Option Entries
  | [] => (change none).map fun item => [(name, item)]
  | (other, item) :: rest =>
    if name = other then (change (some item)).map fun item => (name, item) :: rest
    else (modify? name change rest).map fun rest => (other, item) :: rest

/-- Changes the last one of several tables. -/
def modifyLast? (change : Entries → Option Entries) : List Entries → Option (List Entries)
  | [] => none
  | [entries] => (change entries).map ([·])
  | entries :: rest => (modifyLast? change rest).map (entries :: ·)

/-- Changes the table under a path of headers, making tables on the way. -/
def within? (change : Entries → Option Entries) : List String → Entries → Option Entries
  | [], entries => change entries
  | name :: path, entries =>
    entries.modify? name fun
      | none => (within? change path []).map (.table .implied)
      | some (.table .dotted _) | some (.value _) => none
      | some (.table origin inner) => (within? change path inner).map (.table origin)
      | some (.tables elements) => (modifyLast? (within? change path) elements).map .tables

/-- Opens a table by its header. -/
def openTable? (path : List String) (entries : Entries) : Option Entries :=
  match path.getLast? with
  | none => none
  | some name =>
    within? (modify? name fun
      | none => some (.table .headed [])
      | some (.table .implied inner) => some (.table .headed inner)
      | some _ => none) path.dropLast entries

/-- Opens one more table of an array by its header. -/
def openElement? (path : List String) (entries : Entries) : Option Entries :=
  match path.getLast? with
  | none => none
  | some name =>
    within? (modify? name fun
      | none => some (.tables [[]])
      | some (.tables elements) => some (.tables (elements ++ [[]]))
      | some _ => none) path.dropLast entries

/-- Adds a value under a key, which may have dots. -/
def insert? (value : Raw) : List String → Entries → Option Entries
  | [], _ => none
  | [name], entries =>
    entries.modify? name fun
      | none => some (.value value)
      | some _ => none
  | name :: path, entries =>
    entries.modify? name fun
      | none => (insert? value path []).map (.table .dotted)
      | some (.table .dotted inner) => (insert? value path inner).map (.table .dotted)
      | some _ => none

end Entries

mutual

/-- The value of an item. -/
def Item.toRaw : Item → Raw
  | .value raw => raw
  | .table _ entries => .table (Item.fieldsOf entries)
  | .tables elements => .list (Item.listOf elements)

/-- The fields of a table. -/
def Item.fieldsOf : List (String × Item) → Raw.Fields
  | [] => []
  | (name, item) :: rest => (name, item.toRaw) :: Item.fieldsOf rest

/-- The tables of an array. -/
def Item.listOf : List (List (String × Item)) → List Raw
  | [] => []
  | entries :: rest => .table (Item.fieldsOf entries) :: Item.listOf rest

end

end Latchkey.Toml
