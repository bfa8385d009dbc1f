import ZodCatalog.Generator.Hooks
import ZodCatalog.Generator.Source
import ZodCatalog.Generator.Writer

/-!
A generator run: check the configuration, fetch the schema, and write one module for each table
and an index of them all. The calls of a run are recorded in order, each before its effect.
-/

namespace ZodCatalog

/-- The stages of a run that are reported while it lasts. -/
inductive ProgressEvent
  | connecting
  | fetchingSchema
  | generating (tables : Nat)
  | done
deriving Repr, DecidableEq

/-- What a run calls, with the arguments. -/
inductive GeneratorCall
  | progress (event : ProgressEvent)
  | catalog (call : CatalogCall)
  | model (call : ModelCall)
  | rendered (model : TableModel) (module : RenderedModule)
  | prepare
  | writeTable (module : RenderedModule)
  | writeIndex (content : String)
deriving Repr, DecidableEq

structure TableReport where
  schema : String
  table : String
  kind : RelationKind
  fileName : String
  columns : Nat
  writableColumns : Nat
  enums : Nat
deriving Repr, DecidableEq

structure GenerationReport where
  schema : String
  dialect : Dialect
  tables : List TableReport
deriving Repr, DecidableEq

def TableReport.ofModel (m : TableModel) (fileName : String) : TableReport where
  schema := m.schemaName
  table := m.tableName
  kind := m.kind
  fileName
  columns := m.columns.length
  writableColumns := m.writableColumns.length
  enums := m.enums.length

namespace Generator

/-- The first table whose module name an earlier table has, with that name. -/
def firstShared? (seen : List String) : List Table → Option (String × String)
  | [] => none
  | t :: ts =>
    let stem := moduleStem t.name
    if seen.contains stem then some (t.name, stem) else firstShared? (stem :: seen) ts

/-- Refuses a schema in which two tables have one module name. -/
def checkModules (s : Schema) : Except Error Unit :=
  match firstShared? [] s.tables with
  | some (table, stem) => .error (.configuration (.sharedModule table stem))
  | none => .ok ()

variable {σ : Type}

def report (event : ProgressEvent) : Process σ GeneratorCall Error Unit :=
  Process.call (.progress event) (.ok ())

/-- The model of a table and its module, all hooks being called. -/
def renderTable (builder : ModelBuilder) (hooks : GeneratorHooks) (t : Table) :
    Process σ GeneratorCall Error (TableModel × RenderedModule) := do
  let model ← Process.ofTraced ((builder.build hooks.model t).mapCalls .model)
  let emitted := model.emit builder.profile
  let rendered ← Process.call (.rendered model emitted)
    ((hooks.rendered model emitted).mapError .hook)
  return (model, rendered)

/-- What has been written: the lines of the index and the reports, in order. -/
structure Written where
  lines : List String := []
  reports : List TableReport := []
deriving Repr, DecidableEq

def Written.add (w : Written) (m : TableModel) (r : RenderedModule) : Written where
  lines := w.lines ++ [r.indexLine]
  reports := w.reports ++ [TableReport.ofModel m r.fileName]

/--
Writes the module of each table in turn. The writer is prepared before the first, and no two
modules may have one file name.
-/
def writeTables (builder : ModelBuilder) (hooks : GeneratorHooks) (writer : Writer σ)
    (written : Written) : List Table → Process σ GeneratorCall Error Written
  | [] => return written
  | t :: ts => do
    if written.reports.isEmpty then
      Process.callOn .prepare writer.prepare
    let (model, rendered) ← renderTable builder hooks t
    if written.reports.any (·.fileName == rendered.fileName) then
      Process.lift
        (.error (.configuration (.sharedModule model.tableName rendered.fileName)))
    Process.callOn (.writeTable rendered) (writer.writeTable rendered)
    writeTables builder hooks writer (written.add model rendered) ts

/-- Writes the index of what has been written, unless there is nothing. -/
def writeIndex (writer : Writer σ) (written : Written) : Process σ GeneratorCall Error Unit :=
  if written.lines.isEmpty then return ()
  else
    let content := ModuleText.index written.lines
    Process.callOn (.writeIndex content) (writer.writeIndex content)

/-- A whole run. One that finds no table ends in an error, but is reported as done. -/
def run (config : GeneratorConfig) (source : SchemaSource) (hooks : GeneratorHooks)
    (writer : Writer σ) : Process σ GeneratorCall Error GenerationReport := do
  Process.lift config.validate
  report .connecting
  report .fetchingSchema
  let schema ← Process.ofTraced ((source config hooks.catalog).mapCalls .catalog)
  report (.generating schema.tables.length)
  Process.lift (checkModules schema)
  let written ← writeTables config.modelBuilder hooks writer {} schema.tables
  writeIndex writer written
  report .done
  if written.reports.isEmpty then
    Process.lift (.error (.noTablesMatched config.schema))
  return ⟨schema.name, config.dialect, written.reports⟩

end Generator

end ZodCatalog
