import ZodCatalog.Catalog.Document
import ZodCatalog.Module.Text

/-!
Models and rendered modules as documents.
-/

namespace ZodCatalog

open Document

namespace ColumnModel

def toValue (m : ColumnModel) : Value :=
  .record
    [("column", m.column.toValue), ("property_name", .text m.propertyName),
     ("enum_constant", .ofText? m.enumConstant), ("json_schema_name", .ofText? m.jsonSchemaName),
     ("read_type", .text m.readType), ("write_type", .text m.writeType)]

end ColumnModel

namespace EnumValue

def toValue (v : EnumValue) : Value :=
  .record [("value", .text v.value), ("is_last", .bool v.isLast)]

def ofValue? (v : Value) : Option EnumValue := do
  let fs ← v.allFields? ["value", "is_last"]
  return ⟨← fs.required "value" Value.asText?, ← fs.required "is_last" Value.asBool?⟩

end EnumValue

namespace EnumDefinition

def keys : List String := ["column_name", "constant_name", "schema_name", "type_name", "values"]

def toValue (d : EnumDefinition) : Value :=
  .record
    [("column_name", .text d.columnName), ("constant_name", .text d.constantName),
     ("schema_name", .text d.schemaName), ("type_name", .text d.typeName),
     ("values", .list (d.values.map EnumValue.toValue))]

def ofValue? (v : Value) : Option EnumDefinition := do
  let fs ← v.allFields? keys
  return {
    columnName := ← fs.required "column_name" Value.asText?
    constantName := ← fs.required "constant_name" Value.asText?
    schemaName := ← fs.required "schema_name" Value.asText?
    typeName := ← fs.required "type_name" Value.asText?
    values := ← fs.required "values" (Value.asList? EnumValue.ofValue?) }

end EnumDefinition

namespace JsonImport

def toValue (i : JsonImport) : Value :=
  .record [("name", .text i.name), ("is_last", .bool i.isLast)]

def ofValue? (v : Value) : Option JsonImport := do
  let fs ← v.allFields? ["name", "is_last"]
  return ⟨← fs.required "name" Value.asText?, ← fs.required "is_last" Value.asBool?⟩

end JsonImport

namespace TableNames

def toValue (n : TableNames) : Value :=
  .record
    [("select_schema", .text n.selectSchema), ("insert_schema", .text n.insertSchema),
     ("update_schema", .text n.updateSchema), ("select_type", .text n.selectType),
     ("insert_type", .text n.insertType), ("update_type", .text n.updateType)]

end TableNames

def TableModel.toValue (m : TableModel) : Value :=
  .record
    [("schema_name", .text m.schemaName), ("table_name", .text m.tableName),
     ("kind", m.kind.toValue), ("file_name", .text m.fileName),
     ("columns", .list (m.columns.map ColumnModel.toValue)),
     ("writable_columns", .list (m.writableColumns.map ColumnModel.toValue)),
     ("enums", .list (m.enums.map EnumDefinition.toValue)),
     ("json_imports", .list (m.jsonImports.map JsonImport.toValue)),
     ("json_import_location", .ofText? m.jsonImportLocation), ("names", m.names.toValue),
     ("supports_write", .bool m.supportsWrite)]

def RenderedModule.toValue (r : RenderedModule) : Value :=
  .record
    [("file_name", .text r.fileName), ("content", .text r.content),
     ("index_line", .text r.indexLine)]

end ZodCatalog
