import ZodCatalog.Catalog.Filter
import ZodCatalog.Connection.Config
import ZodCatalog.Module.Model
import ZodCatalog.Naming.Casing

/-!
The configuration of a generator run, and what can be checked of it before anything is opened.
-/

namespace ZodCatalog

open Text

structure GeneratorConfig where
  connection : ConnectionConfig := {}
  schema : String := "public"
  filter : FilterConfig := {}
  fieldNameCasing : Casing := .camel
  objectNameCasing : Casing := .pascal
  dialect : Dialect := .default
  jsonSchemaImportLocation : Option String := none
  stringifyJson : Bool := false
  stringifyDates : Bool := false
  defaultEmptyArray : Bool := false
  singularize : Bool := true
  stringTransforms : StringTransforms := {}
  nonNegativeNumbers : Bool := false
  outputDir : String := "generated"
  cleanOutput : Bool := false
  debug : Bool := false
deriving Repr, DecidableEq

namespace GeneratorConfig

/-- The schema name comes first, then the transforms, the connection and the filter. -/
def validate (c : GeneratorConfig) : Except Error Unit := do
  if allBlank c.schema.toList then throw (.configuration .emptySchemaName)
  if c.stringTransforms.lowercase && c.stringTransforms.uppercase then
    throw (.configuration .conflictingCases)
  c.connection.validate
  let _ ← c.filter.compile
  return ()

def naming (c : GeneratorConfig) : Naming where
  fieldCasing := c.fieldNameCasing
  objectCasing := c.objectNameCasing
  singularize := c.singularize

def renderOptions (c : GeneratorConfig) : RenderOptions where
  stringifyJson := c.stringifyJson
  stringifyDates := c.stringifyDates
  defaultEmptyArray := c.defaultEmptyArray
  stringTransforms := c.stringTransforms
  nonNegativeNumbers := c.nonNegativeNumbers

/-- A blank import location counts as none. -/
def modelBuilder (c : GeneratorConfig) : ModelBuilder where
  naming := c.naming
  profile := c.dialect.profile
  options := c.renderOptions
  jsonImportLocation := c.jsonSchemaImportLocation.filter fun s => !allBlank s.toList

end GeneratorConfig

end ZodCatalog
