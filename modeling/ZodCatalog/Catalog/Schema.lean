import ZodCatalog.Catalog.Column
import ZodCatalog.Sorting

/-!
Tables and schemas. Tables of a schema are listed by kind and name.
-/

namespace ZodCatalog

structure Table where
  schemaName : String
  name : String
  kind : RelationKind
  columns : List Column
deriving Repr, DecidableEq

structure Schema where
  name : String
  tables : List Table
deriving Repr, DecidableEq

namespace Table

/-- The order of tables in a schema: by kind, then by name. -/
def before (s t : Table) : Bool :=
  s.kind.rank < t.kind.rank || (s.kind.rank == t.kind.rank && !decide (t.name < s.name))

end Table

def Schema.sortTables (s : Schema) : Schema :=
  { s with tables := stableSort Table.before s.tables }

end ZodCatalog
