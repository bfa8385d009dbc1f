import ZodCatalog.Catalog.Schema
import ZodCatalog.Error
import ZodCatalog.Naming.Family
import ZodCatalog.Trace
import ZodCatalog.Zod.Render

/-!
The model of a module: a table with all names resolved and all expressions rendered. A hook may
change each column and then the whole table; what a column hook leaves alone is derived again
from what it changed.
-/

namespace ZodCatalog

/-- A column with its names and its two expressions. -/
structure ColumnModel extends BoundColumn where
  propertyName : String
  readType : String
  writeType : String
deriving Repr, DecidableEq

structure EnumValue where
  value : String
  isLast : Bool
deriving Repr, DecidableEq

/-- The constant, schema and type of a column that takes listed values. -/
structure EnumDefinition where
  columnName : String
  constantName : String
  schemaName : String
  typeName : String
  values : List EnumValue
deriving Repr, DecidableEq

structure JsonImport where
  name : String
  isLast : Bool
deriving Repr, DecidableEq

/-- Identifiers of the three record schemas and their types. -/
structure TableNames where
  selectSchema : String
  insertSchema : String
  updateSchema : String
  selectType : String
  insertType : String
  updateType : String
deriving Repr, DecidableEq

structure TableModel where
  schemaName : String
  tableName : String
  kind : RelationKind
  /-- The name of the module without its ending. -/
  fileName : String
  columns : List ColumnModel
  writableColumns : List ColumnModel
  enums : List EnumDefinition
  jsonImports : List JsonImport
  jsonImportLocation : Option String
  names : TableNames
  supportsWrite : Bool
deriving Repr, DecidableEq

structure ModelBuilder where
  naming : Naming
  profile : DialectProfile
  options : RenderOptions
  jsonImportLocation : Option String
deriving Repr, DecidableEq

/-- Functions that may change or refuse a model. -/
structure ModelHooks where
  column : ColumnModel → Except String ColumnModel := .ok
  table : TableModel → Except String TableModel := .ok

inductive ModelCall
  | column (m : ColumnModel)
  | table (m : TableModel)
deriving Repr, DecidableEq

/-- Pairs each element with whether it is the last. -/
def markLast {α : Type} : List α → List (α × Bool)
  | [] => []
  | [x] => [(x, true)]
  | x :: xs => (x, false) :: markLast xs

theorem map_fst_markLast {α : Type} (xs : List α) : (markLast xs).map Prod.fst = xs := by
  fun_induction markLast xs <;> simp_all

namespace ModelBuilder

variable (b : ModelBuilder)

def enumConstant? (table : String) (c : Column) : Option String :=
  if c.isEnum then some (b.naming.enumConstant table c.name) else none

def jsonSchema? (table : String) (c : Column) : Option String :=
  if c.kind = .json ∧ b.jsonImportLocation.isSome then
    some (b.naming.jsonSchema table c.name)
  else none

def readType (c : BoundColumn) : String := (Zod.readExpr b.options c).text b.profile

def writeType (c : BoundColumn) : String := (Zod.writeExpr b.options c).text b.profile

/-- The model of a column before any hook. -/
def columnModel (table : String) (c : Column) : ColumnModel :=
  let bound : BoundColumn := ⟨c, b.enumConstant? table c, b.jsonSchema? table c⟩
  { bound with
    propertyName := b.naming.property c.name
    readType := b.readType bound
    writeType := b.writeType bound }

/--
A column model after a hook: the names that are as in `base` are derived again from the column,
then the expressions that are as in `base` are rendered again with the names.
-/
def settle (table : String) (base edited : ColumnModel) : ColumnModel :=
  let bound : BoundColumn := {
    column := edited.column
    enumConstant :=
      if edited.enumConstant = base.enumConstant then b.enumConstant? table edited.column
      else edited.enumConstant
    jsonSchemaName :=
      if edited.jsonSchemaName = base.jsonSchemaName then b.jsonSchema? table edited.column
      else edited.jsonSchemaName }
  { bound with
    propertyName := edited.propertyName
    readType := if edited.readType = base.readType then b.readType bound else edited.readType
    writeType :=
      if edited.writeType = base.writeType then b.writeType bound else edited.writeType }

def enumDefinition? (table : String) (m : ColumnModel) : Option EnumDefinition :=
  if m.column.isEnum then
    m.enumConstant.map fun constant => {
      columnName := m.column.name
      constantName := constant
      schemaName := b.naming.enumSchema table m.column.name
      typeName := b.naming.enumType table m.column.name
      values := (markLast m.column.enumValues).map fun (v, isLast) => ⟨v, isLast⟩ }
  else none

def jsonImports (columns : List ColumnModel) : List JsonImport :=
  if b.jsonImportLocation.isSome then
    let names := columns.filterMap fun m =>
      if m.column.kind = .json then m.jsonSchemaName else none
    (markLast names).map fun (name, isLast) => ⟨name, isLast⟩
  else []

def tableNames (table : String) (kind : RelationKind) : TableNames where
  selectSchema := b.naming.tableSchema .select table kind
  insertSchema := b.naming.tableSchema .insert table kind
  updateSchema := b.naming.tableSchema .update table kind
  selectType := b.naming.recordType .select table
  insertType := b.naming.recordType .insert table
  updateType := b.naming.recordType .update table

/-- The model of a table with the given column models, before the table hook. -/
def tableModel (t : Table) (columns : List ColumnModel) : TableModel :=
  let writable := columns.filter (·.column.isWritable)
  { schemaName := t.schemaName
    tableName := t.name
    kind := t.kind
    fileName := moduleStem t.name
    columns
    writableColumns := writable
    enums := columns.filterMap (b.enumDefinition? t.name)
    jsonImports := b.jsonImports columns
    jsonImportLocation := b.jsonImportLocation
    names := b.tableNames t.name t.kind
    supportsWrite := !writable.isEmpty }

def buildColumn (hooks : ModelHooks) (table : String) (c : Column) :
    Traced ModelCall Error ColumnModel := do
  let base := b.columnModel table c
  let edited ← Traced.call (.column base) ((hooks.column base).mapError .hook)
  return b.settle table base edited

def buildColumns (hooks : ModelHooks) (table : String) :
    List Column → Traced ModelCall Error (List ColumnModel)
  | [] => return []
  | c :: cs => do
    let m ← b.buildColumn hooks table c
    let ms ← buildColumns hooks table cs
    return m :: ms

/-- The model of a table, the hooks being called for each column in order and then for the table. -/
def build (hooks : ModelHooks) (t : Table) : Traced ModelCall Error TableModel := do
  let columns ← b.buildColumns hooks t.name t.columns
  let model := b.tableModel t columns
  Traced.call (.table model) ((hooks.table model).mapError .hook)

end ModelBuilder

end ZodCatalog
