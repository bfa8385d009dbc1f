/-!
Kinds of relations in a catalog, and kinds of the fields in their rows.
-/

namespace ZodCatalog

inductive RelationKind
  | table
  | view
  | materializedView
  | foreignTable
  | unknown
deriving Repr, DecidableEq, Inhabited

namespace RelationKind

def all : List RelationKind := [table, view, materializedView, foreignTable, unknown]

/-- The kind for a relation code of the catalog; partitioned tables are tables. -/
def ofCode (code : String) : RelationKind :=
  match code with
  | "r" | "p" => table
  | "v" => view
  | "m" => materializedView
  | "f" => foreignTable
  | _ => unknown

/-- The spelling in descriptors. -/
def name : RelationKind → String
  | table => "table"
  | view => "view"
  | materializedView => "materialized_view"
  | foreignTable => "foreign_table"
  | unknown => "unknown"

/-- The word used in identifiers and comments. -/
def word : RelationKind → String
  | table => "table"
  | view => "view"
  | materializedView => "materialized_view"
  | foreignTable => "foreign_table"
  | unknown => "relation"

/-- Position in the order of kinds: tables come first. -/
def rank : RelationKind → Nat
  | table => 0
  | view => 1
  | materializedView => 2
  | foreignTable => 3
  | unknown => 4

theorem rank_inj {k l : RelationKind} (h : k.rank = l.rank) : k = l := by
  revert h
  cases k <;> cases l <;> decide

end RelationKind

/-- What the values of a column are, whatever the spelling of its type. -/
inductive FieldKind
  | string
  | integer
  | float
  | boolean
  | date
  | uuid
  | json
  | unknown
deriving Repr, DecidableEq, Inhabited

namespace FieldKind

def all : List FieldKind := [string, integer, float, boolean, date, uuid, json, unknown]

def name : FieldKind → String
  | string => "string"
  | integer => "integer"
  | float => "float"
  | boolean => "boolean"
  | date => "date"
  | uuid => "uuid"
  | json => "json"
  | unknown => "unknown"

end FieldKind

end ZodCatalog
