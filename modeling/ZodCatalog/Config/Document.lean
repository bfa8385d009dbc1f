import ZodCatalog.Config.Basic
import ZodCatalog.Document.JsonReader
import ZodCatalog.Naming.Document

/-!
Configurations as documents. Every key may be left out and has a default. Filters and the import
location are written only where they are set, all other keys always.
-/

namespace ZodCatalog

open Document

namespace Dialect

def ofValue? (format : Format) (v : Value) : Option Dialect :=
  v.asConstant? format all fun d => d.name :: d.aliases

def toValue (d : Dialect) : Value := .text d.name

end Dialect

namespace ConnectionConfig

def keys : List String :=
  ["host", "port", "database", "user", "password", "ssl_mode", "connection_string"]

def toValue (c : ConnectionConfig) : Value :=
  .record
    [("host", .ofText? c.host), ("port", .int c.port.toNat), ("database", .ofText? c.database),
     ("user", .ofText? c.user), ("password", .ofText? c.password),
     ("ssl_mode", .ofText? c.sslMode), ("connection_string", .ofText? c.connectionString)]

def ofFields? (fs : Fields) : Option ConnectionConfig := do
  return {
    host := ← fs.optional "host" Value.asText?
    port := ← fs.orElse "port" 5432 Value.asUInt16?
    database := ← fs.optional "database" Value.asText?
    user := ← fs.optional "user" Value.asText?
    password := ← fs.optional "password" Value.asText?
    sslMode := ← fs.optional "ssl_mode" Value.asText?
    connectionString := ← fs.optional "connection_string" Value.asText? }

def ofValue? (format : Format) (v : Value) : Option ConnectionConfig :=
  (v.someFields? format keys).bind ofFields?

end ConnectionConfig

namespace FilterSpec

def toValue : FilterSpec → Value
  | pattern text => .text text
  | names ns => .ofTexts ns

def ofValue? : Value → Option FilterSpec
  | .text s => some (pattern s)
  | v => (v.asList? Value.asText?).map names

end FilterSpec

namespace FilterConfig

def keys : List String := ["include", "exclude"]

def toFields (c : FilterConfig) : Fields :=
  (c.including.map fun s => ("include", s.toValue)).toList ++
    (c.excluding.map fun s => ("exclude", s.toValue)).toList

def toValue (c : FilterConfig) : Value := .record c.toFields

def ofFields? (fs : Fields) : Option FilterConfig := do
  return {
    including := ← fs.optional "include" FilterSpec.ofValue?
    excluding := ← fs.optional "exclude" FilterSpec.ofValue? }

def ofValue? (format : Format) (v : Value) : Option FilterConfig :=
  (v.someFields? format keys).bind ofFields?

end FilterConfig

namespace StringTransforms

def keys : List String := ["trim", "lowercase", "uppercase", "normalize"]

def toValue (t : StringTransforms) : Value :=
  .record
    [("trim", .bool t.trim), ("lowercase", .bool t.lowercase), ("uppercase", .bool t.uppercase),
     ("normalize", .bool t.normalize)]

def ofFields? (fs : Fields) : Option StringTransforms := do
  return {
    trim := ← fs.orElse "trim" false Value.asBool?
    lowercase := ← fs.orElse "lowercase" false Value.asBool?
    uppercase := ← fs.orElse "uppercase" false Value.asBool?
    normalize := ← fs.orElse "normalize" false Value.asBool? }

def ofValue? (format : Format) (v : Value) : Option StringTransforms :=
  (v.someFields? format keys).bind ofFields?

end StringTransforms

namespace GeneratorConfig

def toFields (c : GeneratorConfig) : Fields :=
  [("connection", c.connection.toValue), ("schema", .text c.schema)] ++ c.filter.toFields ++
    [("field_name_casing", c.fieldNameCasing.toValue),
     ("object_name_casing", c.objectNameCasing.toValue), ("dialect", c.dialect.toValue)] ++
    (c.jsonSchemaImportLocation.map fun s =>
      ("json_schema_import_location", Value.text s)).toList ++
    [("stringify_json", .bool c.stringifyJson), ("stringify_dates", .bool c.stringifyDates),
     ("default_empty_array", .bool c.defaultEmptyArray), ("singularize", .bool c.singularize),
     ("string_transforms", c.stringTransforms.toValue),
     ("non_negative_numbers", .bool c.nonNegativeNumbers), ("output_dir", .text c.outputDir),
     ("clean_output", .bool c.cleanOutput), ("debug", .bool c.debug)]

def toValue (c : GeneratorConfig) : Value := .record c.toFields

def ofFields? (format : Format) (fs : Fields) : Option GeneratorConfig := do
  return {
    connection := ← fs.orElse "connection" {} (ConnectionConfig.ofValue? format)
    schema := ← fs.orElse "schema" "public" Value.asText?
    filter := ← FilterConfig.ofFields? fs
    fieldNameCasing := ← fs.orElse "field_name_casing" .camel (Casing.ofValue? format)
    objectNameCasing := ← fs.orElse "object_name_casing" .pascal (Casing.ofValue? format)
    dialect := ← fs.orElse "dialect" .default (Dialect.ofValue? format)
    jsonSchemaImportLocation := ← fs.optional "json_schema_import_location" Value.asText?
    stringifyJson := ← fs.orElse "stringify_json" false Value.asBool?
    stringifyDates := ← fs.orElse "stringify_dates" false Value.asBool?
    defaultEmptyArray := ← fs.orElse "default_empty_array" false Value.asBool?
    singularize := ← fs.orElse "singularize" true Value.asBool?
    stringTransforms := ← fs.orElse "string_transforms" {} (StringTransforms.ofValue? format)
    nonNegativeNumbers := ← fs.orElse "non_negative_numbers" false Value.asBool?
    outputDir := ← fs.orElse "output_dir" "generated" Value.asText?
    cleanOutput := ← fs.orElse "clean_output" false Value.asBool?
    debug := ← fs.orElse "debug" false Value.asBool? }

def ofValue? (format : Format) (v : Value) : Option GeneratorConfig :=
  v.named?.bind (ofFields? format)

/-- The fields other than the filters. -/
def ownKeys : List String :=
  ["connection", "schema", "field_name_casing", "object_name_casing", "dialect",
   "json_schema_import_location", "stringify_json", "stringify_dates", "default_empty_array",
   "singularize", "string_transforms", "non_negative_numbers", "output_dir", "clean_output",
   "debug"]

/--
The configuration that a JSON text holds. What none of its own fields asks for is taken up as a
whole before the filters are told apart from it, so that it has to be within the limits.
-/
def ofJson? (text : String) : Option GeneratorConfig := do
  let v ← Json.tree? text
  let fs ← v.named?
  let others := fs.filter fun f => !ownKeys.contains f.1
  if others.all fun f => Json.withinLimits (Json.nestingLimit - 1) f.2 then ofFields? .json fs
  else none

end GeneratorConfig

end ZodCatalog
