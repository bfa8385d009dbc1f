import ZodCatalog.Generator.Hooks
import ZodCatalog.Module.Document

/-!
Hooks given as rules. A rule names the table and the column it is for, and says which keys of the
descriptor, model or module to set. The rules that fit are applied in order, a rule being chosen
by the names that were there before the first of them.
-/

namespace ZodCatalog

open Document

/-- An edit of everything that fits `table` and `column`. -/
structure EditRule where
  table : Option String := none
  column : Option String := none
  settings : Fields := []
  /-- Refuses with this text instead of editing. -/
  refusal : Option String := none
  /-- Text put in front of a module. -/
  heading : Option String := none
  reverseColumns : Bool := false
  dropColumns : List String := []
deriving Repr

namespace EditRule

/-- The refusal of a setting of the wrong type. -/
def badSetting : String := "bad hook value"

/-- A rule for a column fits no table. -/
def fits (r : EditRule) (table : String) (column : Option String) : Bool :=
  r.table.all (· == table) && r.column.all fun name => column == some name

def refuseOrEdit (edit : EditRule → α → Option α) (x : α) (r : EditRule) : Except String α :=
  match r.refusal with
  | some text => .error text
  | none => (edit r x).elim (.error badSetting) .ok

/-- Applies the rules that fit, in order. -/
def applyAll (edit : EditRule → α → Option α) (table : String) (column : Option String)
    (rules : List EditRule) (x : α) : Except String α :=
  (rules.filter (·.fits table column)).foldlM (refuseOrEdit edit) x

/-- Drops columns by name, then reverses the others if the rule says so. -/
def arrange (r : EditRule) (name : α → String) (columns : List α) : List α :=
  let kept := columns.filter fun c => !r.dropColumns.contains (name c)
  if r.reverseColumns then kept.reverse else kept

def editColumn (r : EditRule) (c : Column) : Option Column :=
  Column.ofFields? (r.settings ++ c.toFields)

def editTable (r : EditRule) (t : Table) : Option Table := do
  let t ← Table.ofFields? (r.settings ++ t.toFields)
  return { t with columns := r.arrange (·.name) t.columns }

/-- The settings in `column` are for the descriptor. -/
def editColumnModel (r : EditRule) (m : ColumnModel) : Option ColumnModel := do
  let columnSettings ← r.settings.orElse "column" [] Value.named?
  return {
    column := ← Column.ofFields? (columnSettings ++ m.column.toFields)
    propertyName := ← r.settings.orElse "property_name" m.propertyName Value.asText?
    enumConstant :=
      ← r.settings.orElse "enum_constant" m.enumConstant (Value.nullable? Value.asText?)
    jsonSchemaName :=
      ← r.settings.orElse "json_schema_name" m.jsonSchemaName (Value.nullable? Value.asText?)
    readType := ← r.settings.orElse "read_type" m.readType Value.asText?
    writeType := ← r.settings.orElse "write_type" m.writeType Value.asText? }

def editNames (settings : Fields) (n : TableNames) : Option TableNames := do
  return {
    selectSchema := ← settings.orElse "select_schema" n.selectSchema Value.asText?
    insertSchema := ← settings.orElse "insert_schema" n.insertSchema Value.asText?
    updateSchema := ← settings.orElse "update_schema" n.updateSchema Value.asText?
    selectType := ← settings.orElse "select_type" n.selectType Value.asText?
    insertType := ← settings.orElse "insert_type" n.insertType Value.asText?
    updateType := ← settings.orElse "update_type" n.updateType Value.asText? }

/-- Whether the table is written is not derived again from the columns. -/
def editTableModel (r : EditRule) (m : TableModel) : Option TableModel := do
  let fs := r.settings
  return {
    schemaName := ← fs.orElse "schema_name" m.schemaName Value.asText?
    tableName := ← fs.orElse "table_name" m.tableName Value.asText?
    kind := ← fs.orElse "kind" m.kind (RelationKind.ofValue? .json)
    fileName := ← fs.orElse "file_name" m.fileName Value.asText?
    columns := r.arrange (·.column.name) m.columns
    writableColumns := r.arrange (·.column.name) m.writableColumns
    enums := ← fs.orElse "enums" m.enums (Value.asList? EnumDefinition.ofValue?)
    jsonImports := ← fs.orElse "json_imports" m.jsonImports (Value.asList? JsonImport.ofValue?)
    jsonImportLocation :=
      ← fs.orElse "json_import_location" m.jsonImportLocation (Value.nullable? Value.asText?)
    names := ← editNames (← fs.orElse "names" [] Value.named?) m.names
    supportsWrite := ← fs.orElse "supports_write" m.supportsWrite Value.asBool? }

def editRendered (r : EditRule) (m : RenderedModule) : Option RenderedModule := do
  let content ← r.settings.orElse "content" m.content Value.asText?
  return {
    fileName := ← r.settings.orElse "file_name" m.fileName Value.asText?
    content := r.heading.getD "" ++ content
    indexLine := ← r.settings.orElse "index_line" m.indexLine Value.asText? }

end EditRule

structure EditRules where
  columnDescriptor : List EditRule := []
  tableDescriptor : List EditRule := []
  columnModel : List EditRule := []
  tableModel : List EditRule := []
  rendered : List EditRule := []
deriving Repr

namespace EditRules

open EditRule

def catalogHooks (rs : EditRules) : CatalogHooks where
  column c := applyAll editColumn c.tableName (some c.name) rs.columnDescriptor c
  table t := applyAll editTable t.name none rs.tableDescriptor t

def modelHooks (rs : EditRules) : ModelHooks where
  column m := applyAll editColumnModel m.column.tableName (some m.column.name) rs.columnModel m
  table m := applyAll editTableModel m.tableName none rs.tableModel m

def hooks (rs : EditRules) : GeneratorHooks where
  catalog := rs.catalogHooks
  model := rs.modelHooks
  rendered m r := applyAll editRendered m.tableName none rs.rendered r

end EditRules

end ZodCatalog
