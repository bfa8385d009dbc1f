import ZodCatalog.Catalog.Document
import ZodCatalog.Generator.Run

/-!
Reports of runs as documents, and the calls of a run as lines.
-/

namespace ZodCatalog

open Document

namespace TableReport

def toValue (r : TableReport) : Value :=
  .record
    [("schema", .text r.schema), ("table", .text r.table), ("kind", r.kind.toValue),
     ("file_name", .text r.fileName), ("columns", .int r.columns),
     ("writable_columns", .int r.writableColumns), ("enums", .int r.enums)]

end TableReport

def GenerationReport.toFields (r : GenerationReport) : Fields :=
  [("schema", .text r.schema), ("dialect", .text r.dialect.label),
   ("tables", .list (r.tables.map TableReport.toValue))]

def GenerationReport.toValue (r : GenerationReport) : Value := .record r.toFields

namespace ProgressEvent

def toValue : ProgressEvent → Value
  | connecting => .text "connecting"
  | fetchingSchema => .text "fetching_schema"
  | generating tables => .record [("generating", .int tables)]
  | done => .text "done"

def line : ProgressEvent → String
  | connecting => "event Connecting"
  | fetchingSchema => "event FetchingSchema"
  | generating tables => "event Generating \x7b tables: " ++ toString tables ++ " \x7d"
  | done => "event Done"

end ProgressEvent

def CatalogCall.line : CatalogCall → String
  | column c => "column_descriptor " ++ c.tableName ++ "." ++ c.name
  | table t => "table_descriptor " ++ t.name

def ModelCall.line : ModelCall → String
  | column m =>
    "column_model " ++ m.column.tableName ++ "." ++ m.column.name ++ " read=" ++ m.readType ++
      " write=" ++ m.writeType
  | table m => "table_model " ++ m.tableName

namespace GeneratorCall

def line : GeneratorCall → String
  | progress event => event.line
  | catalog call => call.line
  | model call => call.line
  | rendered m r => "rendered " ++ m.tableName ++ " " ++ r.fileName
  | prepare => "prepare"
  | writeTable r => "write_table " ++ r.fileName
  | writeIndex _ => "write_index"

def isHook : GeneratorCall → Bool
  | catalog _ => true
  | model _ => true
  | rendered _ _ => true
  | _ => false

def event? : GeneratorCall → Option ProgressEvent
  | progress event => some event
  | _ => none

end GeneratorCall

end ZodCatalog
