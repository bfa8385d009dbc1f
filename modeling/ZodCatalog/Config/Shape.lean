import ZodCatalog.Config.Document
import ZodCatalog.Document.Shape

/-!
The JSON Schema of configurations.
-/

namespace ZodCatalog

open Document

def ConnectionConfig.definition : Definition where
  name := "ConnectionConfig"
  description := some ("Parameters used to reach the database.\n\n" ++
    "Either `connection_string` or the discrete `host`/`database`/`user` fields must be present.")
  fields :=
    let optionalText (name : String) (description : Option String) : Property :=
      { name, shape := .nullable .text, description, default := some .null }
    Property.recordFields
      [optionalText "host" none,
       { name := "port", shape := .integer "uint16" true, default := some (.int 5432) },
       optionalText "database" none, optionalText "user" none, optionalText "password" none,
       optionalText "ssl_mode"
        (some "Postgres `sslmode` value (`disable`, `prefer`, `require`, ...)."),
       optionalText "connection_string"
        (some "Pre-built connection URL; takes precedence over the discrete fields.")]

def FilterSpec.definition : Definition where
  name := "FilterSpec"
  description := "A relation filter: a single regular expression or an explicit name list."
  fields := (Shape.either .text (.list .text)).fields

def Casing.definition : Definition where
  name := "Casing"
  description := "Case style applied to generated identifiers."
  fields := (Shape.constants (all.map name)).fields

def Dialect.definition : Definition where
  name := "Dialect"
  description := "Output dialect of the target validation library."
  fields := (Shape.constants (all.map name)).fields

def StringTransforms.definition : Definition where
  name := "StringTransforms"
  description := "Write-side string transforms, applied before length constraints."
  fields := Property.recordFields (keys.map fun name =>
    { name, shape := .flag, default := some (.bool false) })

namespace GeneratorConfig

/-- The defaults, read off the empty configuration. -/
def defaultFor (key : String) : Option Value := ({} : GeneratorConfig).toFields.lookup key

def properties : List Property :=
  let plain (name : String) (shape : Shape) (description : Option String) : Property :=
    { name, shape, description, default := defaultFor name }
  [{ name := "connection", shape := .named "ConnectionConfig",
     default := (defaultFor "connection").map Value.sortFields },
   plain "schema" .text "Database schema to introspect.",
   plain "include" (.nullable (.named "FilterSpec")) none,
   plain "exclude" (.nullable (.named "FilterSpec")) none,
   plain "field_name_casing" (.named "Casing") none,
   plain "object_name_casing" (.named "Casing") none,
   plain "dialect" (.named "Dialect") none,
   plain "json_schema_import_location" (.nullable .text)
    "Module path the JSON sub-schemas are imported from.",
   plain "stringify_json" .flag none, plain "stringify_dates" .flag none,
   plain "default_empty_array" .flag none, plain "singularize" .flag none,
   { name := "string_transforms", shape := .named "StringTransforms",
     default := (defaultFor "string_transforms").map Value.sortFields },
   plain "non_negative_numbers" .flag none, plain "output_dir" .text none,
   plain "clean_output" .flag "Delete previously generated modules before writing.",
   plain "debug" .flag none]

def schemaDocument : Value :=
  Document.schemaDocument "GeneratorConfig" "Fully resolved generator configuration." properties
    [Casing.definition, ConnectionConfig.definition, Dialect.definition, FilterSpec.definition,
     StringTransforms.definition]

end GeneratorConfig

end ZodCatalog
