import ZodCatalog.Catalog.Classification
import ZodCatalog.Catalog.Filter
import ZodCatalog.Catalog.Schema
import ZodCatalog.Trace

/-!
Schemas from catalog rows. Rows of relations that the filter rejects are dropped, the others are
described and grouped by schema and relation. A hook may change each column before it is grouped
and each table before the tables are sorted.
-/

namespace ZodCatalog

/-- Functions that may change or refuse a descriptor. -/
structure CatalogHooks where
  column : Column → Except String Column := .ok
  table : Table → Except String Table := .ok

inductive CatalogCall
  | column (c : Column)
  | table (t : Table)
deriving Repr, DecidableEq

namespace Assembly

/-- Where a column belongs, as its row states it. -/
structure Key where
  schema : String
  table : String
deriving Repr, DecidableEq

def RawColumn.key (raw : RawColumn) : Key := ⟨raw.schemaName, raw.tableName⟩

def Key.before (k l : Key) : Bool :=
  decide (k.schema < l.schema) || (k.schema == l.schema && decide (k.table < l.table))

/-- The columns of one relation with the kind its first row states. -/
structure Group where
  key : Key
  kind : RelationKind
  columns : List Column
deriving Repr, DecidableEq

/-- Adds a column to the group of its relation, the groups being in the order of their keys. -/
def addColumn (key : Key) (kind : RelationKind) (column : Column) : List Group → List Group
  | [] => [⟨key, kind, [column]⟩]
  | g :: gs =>
    if key = g.key then { g with columns := g.columns ++ [column] } :: gs
    else if key.before g.key then ⟨key, kind, [column]⟩ :: g :: gs
    else g :: addColumn key kind column gs

/-- The table of a group, its columns in the order of their positions. -/
def Group.table (g : Group) : Table where
  schemaName := g.key.schema
  name := g.key.table
  kind := g.kind
  columns := stableSort
    (fun c d => decide (c.ordinalPosition.toInt ≤ d.ordinalPosition.toInt)) g.columns

/-- Groups the described rows, the column hook being called for each. -/
def groupRows (hooks : CatalogHooks) (groups : List Group) :
    List RawColumn → Traced CatalogCall Error (List Group)
  | [] => return groups
  | raw :: rows => do
    let described := raw.describe
    let column ← Traced.call (.column described) ((hooks.column described).mapError .hook)
    groupRows hooks (addColumn (RawColumn.key raw) raw.tableKind column groups) rows

/-- The tables of the groups, the table hook being called for each. -/
def groupTables (hooks : CatalogHooks) : List Group → Traced CatalogCall Error (List Table)
  | [] => return []
  | g :: gs => do
    let t ← Traced.call (.table g.table) ((hooks.table g.table).mapError .hook)
    let ts ← groupTables hooks gs
    return t :: ts

end Assembly

open Assembly in
/-- The schema of all rows whose relations the filter allows. -/
def assembleSchema (name : String) (rows : List RawColumn) (filter : TableFilter)
    (hooks : CatalogHooks) : Traced CatalogCall Error Schema := do
  let groups ← groupRows hooks [] (rows.filter fun raw => filter.allows raw.tableName)
  let tables ← groupTables hooks groups
  return Schema.sortTables { name, tables }

end ZodCatalog
