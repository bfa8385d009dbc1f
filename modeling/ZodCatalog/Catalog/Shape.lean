import ZodCatalog.Catalog.Document
import ZodCatalog.Document.Shape

/-!
The JSON Schema of schema descriptors.
-/

namespace ZodCatalog

open Document

def requiredField (name : String) (shape : Shape) (description : Option String) : Property :=
  { name, shape, description, required := true }

def Column.definition : Definition where
  name := "ColumnDescriptor"
  description := "A raw column enriched with its classification."
  fields := Property.recordFields
    [requiredField "name" .text none, requiredField "table_name" .text none,
     requiredField "table_kind" (.named "RelationKind") none,
     requiredField "schema_name" .text none,
     requiredField "data_type" .text "Underlying type name, e.g. `int4` or `_text` for `text[]`.",
     requiredField "is_nullable" .flag none,
     { name := "default", shape := .nullable .text },
     { name := "max_length", shape := .nullable (.integer "int32" false) },
     { name := "description", shape := .nullable .text },
     requiredField "check_constraints" (.list .text) "Raw CHECK clauses attached to this column.",
     requiredField "enum_labels" (.list .text)
      "Labels of the column's native enum type, if it has one.",
     requiredField "ordinal_position" (.integer "int16" false) none,
     requiredField "kind" (.named "FieldKind") none, requiredField "is_array" .flag none,
     requiredField "is_auto_generated" .flag none, requiredField "is_writable" .flag none,
     requiredField "is_optional" .flag none, requiredField "enum_values" (.list .text) none]

def FieldKind.definition : Definition where
  name := "FieldKind"
  description := "Semantic field kind a column maps onto."
  fields := (Shape.constants (all.map name)).fields

def RelationKind.definition : Definition where
  name := "RelationKind"
  description := "Kind of relation reported by the catalog.\n\n" ++
    "Declaration order is the sort order used for deterministic output."
  fields := (Shape.constants (all.map name)).fields

def Table.definition : Definition where
  name := "TableDescriptor"
  description := "A relation with its ordered columns."
  fields := Property.recordFields
    [requiredField "schema_name" .text none, requiredField "name" .text none,
     requiredField "kind" (.named "RelationKind") none,
     requiredField "columns" (.list (.named "ColumnDescriptor")) none]

def Schema.schemaDocument : Value :=
  Document.schemaDocument "SchemaDescriptor"
    "All relations captured for one schema, sorted by `(kind, name)`."
    [requiredField "name" .text none,
     requiredField "tables" (.list (.named "TableDescriptor")) none]
    [Column.definition, FieldKind.definition, RelationKind.definition, Table.definition]

end ZodCatalog
