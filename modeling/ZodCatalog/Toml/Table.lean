import ZodCatalog.Document.Value

/-!
Tables of TOML while they are built. A table is opened once by its own header, and dotted keys
extend only tables that dotted keys made.
-/

namespace ZodCatalog.Toml

open Document

inductive Item
  | value (v : Value)
  /-- A table; `explicit` if a header opened it, `dotted` if a dotted key made it. -/
  | table (explicit dotted : Bool) (entries : List (String × Item))
  /-- A list of tables, the last of which is open. -/
  | tables (elements : List (List (String × Item)))

abbrev Entries := List (String × Item)

namespace Entries

/-- Changes the item of a key, or adds one at the end. -/
def update (key : String) (f : Option Item → Option Item) : Entries → Option Entries
  | [] => (f none).map fun item => [(key, item)]
  | (k, item) :: es =>
    if k = key then (f (some item)).map fun item => (k, item) :: es
    else (update key f es).map ((k, item) :: ·)

def onLast (f : Entries → Option Entries) : List Entries → Option (List Entries)
  | [] => none
  | [es] => (f es).map ([·])
  | es :: more => (onLast f more).map (es :: ·)

/--
Changes the table at a path, making the tables on the way that are missing. By a dotted key no
table is entered that a header opened. `f` is told whether a dotted key made the table.
-/
def descend (byKey : Bool) (f : Bool → Entries → Option Entries) (dotted : Bool) :
    List String → Entries → Option Entries
  | [], es => f dotted es
  | key :: keys, es =>
    es.update key fun
      | none => (descend byKey f byKey keys []).map (.table false byKey)
      | some (.value _) => none
      | some (.table explicit d inner) =>
        if byKey && explicit then none
        else (descend byKey f d keys inner).map (.table explicit d)
      | some (.tables elements) => (onLast (descend byKey f false keys) elements).map .tables

def define (key : String) (v : Value) : Entries → Option Entries :=
  update key fun
    | none => some (.value v)
    | some _ => none

/-- Gives a value to a key below a table; a dotted key has to end in a table of dotted keys. -/
def assign (path : List String) (key : String) (v : Value) : Entries → Option Entries :=
  descend true (fun dotted es => if dotted == path.isEmpty then none else es.define key v) false
    path

def openTable (path : List String) (key : String) : Entries → Option Entries :=
  descend false
    (fun _ es => es.update key fun
      | none => some (.table true false [])
      | some (.table false false inner) => some (.table true false inner)
      | some _ => none)
    false path

/-- Opens the next table of a list of tables. -/
def openElement (path : List String) (key : String) : Entries → Option Entries :=
  descend false
    (fun _ es => es.update key fun
      | none => some (.tables [[]])
      | some (.tables elements) => some (.tables (elements ++ [[]]))
      | some _ => none)
    false path

end Entries

mutual

def Item.toValue : Item → Value
  | .value v => v
  | .table _ _ entries => .record (fieldsOf entries)
  | .tables elements => .list (recordsOf elements)

def fieldsOf : List (String × Item) → Fields
  | [] => []
  | (key, item) :: rest => (key, item.toValue) :: fieldsOf rest

def recordsOf : List (List (String × Item)) → List Value
  | [] => []
  | entries :: rest => .record (fieldsOf entries) :: recordsOf rest

end

end ZodCatalog.Toml
