import ZodCatalog.Catalog.Schema
import ZodCatalog.Document.JsonReader

/-!
Descriptors as documents. A column is one flat record of what the catalog states and what was
derived from it.
-/

namespace ZodCatalog

open Document

def RelationKind.ofValue? (format : Format) (v : Value) : Option RelationKind :=
  v.asConstant? format RelationKind.all fun k => [k.name]

def RelationKind.toValue (k : RelationKind) : Value := .text k.name

def FieldKind.ofValue? (v : Value) : Option FieldKind :=
  v.asConstant? .json FieldKind.all fun k => [k.name]

def FieldKind.toValue (k : FieldKind) : Value := .text k.name

namespace RawColumn

def keys : List String :=
  ["name", "table_name", "table_kind", "schema_name", "data_type", "is_nullable", "default",
   "max_length", "description", "check_constraints", "enum_labels", "ordinal_position"]

def toFields (c : RawColumn) : Fields :=
  [("name", .text c.name), ("table_name", .text c.tableName),
   ("table_kind", c.tableKind.toValue), ("schema_name", .text c.schemaName),
   ("data_type", .text c.dataType), ("is_nullable", .bool c.isNullable),
   ("default", .ofText? c.default),
   ("max_length", (c.maxLength.map fun n => Value.int n.toInt).getD .null),
   ("description", .ofText? c.description),
   ("check_constraints", .ofTexts c.checkConstraints), ("enum_labels", .ofTexts c.enumLabels),
   ("ordinal_position", .int c.ordinalPosition.toInt)]

def toValue (c : RawColumn) : Value := .record c.toFields

def ofFields? (format : Format) (fs : Fields) : Option RawColumn := do
  return {
    name := ← fs.required "name" Value.asText?
    tableName := ← fs.required "table_name" Value.asText?
    tableKind := ← fs.required "table_kind" (RelationKind.ofValue? format)
    schemaName := ← fs.required "schema_name" Value.asText?
    dataType := ← fs.required "data_type" Value.asText?
    isNullable := ← fs.required "is_nullable" Value.asBool?
    default := ← fs.optional "default" Value.asText?
    maxLength := ← fs.optional "max_length" Value.asInt32?
    description := ← fs.optional "description" Value.asText?
    checkConstraints := ← fs.required "check_constraints" (Value.asList? Value.asText?)
    enumLabels := ← fs.required "enum_labels" (Value.asList? Value.asText?)
    ordinalPosition := ← fs.required "ordinal_position" Value.asInt16? }

def ofValue? (v : Value) : Option RawColumn :=
  (v.allFields? keys).bind (ofFields? .json)

end RawColumn

namespace Column

def toFields (c : Column) : Fields :=
  c.toRawColumn.toFields ++
    [("kind", c.kind.toValue), ("is_array", .bool c.isArray),
     ("is_auto_generated", .bool c.isAutoGenerated), ("is_writable", .bool c.isWritable),
     ("is_optional", .bool c.isOptional), ("enum_values", .ofTexts c.enumValues)]

def toValue (c : Column) : Value := .record c.toFields

def ofFields? (fs : Fields) : Option Column := do
  return {
    toRawColumn := ← RawColumn.ofFields? .jsonPart fs
    kind := ← fs.required "kind" FieldKind.ofValue?
    isArray := ← fs.required "is_array" Value.asBool?
    isAutoGenerated := ← fs.required "is_auto_generated" Value.asBool?
    isWritable := ← fs.required "is_writable" Value.asBool?
    isOptional := ← fs.required "is_optional" Value.asBool?
    enumValues := ← fs.required "enum_values" (Value.asList? Value.asText?) }

def ofValue? (v : Value) : Option Column := v.named?.bind ofFields?

end Column

namespace Table

def keys : List String := ["schema_name", "name", "kind", "columns"]

def toFields (t : Table) : Fields :=
  [("schema_name", .text t.schemaName), ("name", .text t.name), ("kind", t.kind.toValue),
   ("columns", .list (t.columns.map Column.toValue))]

def toValue (t : Table) : Value := .record t.toFields

def ofFields? (fs : Fields) : Option Table := do
  return {
    schemaName := ← fs.required "schema_name" Value.asText?
    name := ← fs.required "name" Value.asText?
    kind := ← fs.required "kind" (RelationKind.ofValue? .json)
    columns := ← fs.required "columns" (Value.asList? Column.ofValue?) }

def ofValue? (v : Value) : Option Table := (v.allFields? keys).bind ofFields?

end Table

/-- The items under a key of a record, which may be given by position. -/
def Document.Value.itemsAt (keys : List String) (key : String) (v : Value) : List Value :=
  match (v.allFields? keys).bind (·.lookup key) with
  | some (.list items) => items
  | _ => []

namespace Schema

def keys : List String := ["name", "tables"]

def toValue (s : Schema) : Value :=
  .record [("name", .text s.name), ("tables", .list (s.tables.map Table.toValue))]

def ofValue? (v : Value) : Option Schema := do
  let fs ← v.allFields? keys
  return {
    name := ← fs.required "name" Value.asText?
    tables := ← fs.required "tables" (Value.asList? Table.ofValue?) }

/-- The columns of all tables in the document of a schema. -/
def columnValues (v : Value) : List Value :=
  (v.itemsAt keys "tables").flatMap (·.itemsAt Table.keys "columns")

/--
The schema that a JSON text holds. What no field of a schema or of a table asks for is passed over,
whatever it is. A column is taken up as a whole before its fields are told apart, so that all of it
has to be within the limits; four levels are open around it.
-/
def ofJson? (text : String) : Option Schema := do
  let v ← Json.tree? text
  if (columnValues v).all (Json.withinLimits (Json.nestingLimit - 4)) then ofValue? v else none

end Schema

end ZodCatalog
