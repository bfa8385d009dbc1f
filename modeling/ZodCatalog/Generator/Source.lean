import ZodCatalog.Catalog.Assembly
import ZodCatalog.Config.Basic
import ZodCatalog.Connection.Options

/-!
Where a run gets its schema from.
-/

namespace ZodCatalog

/-- Fetches the schema that a configuration asks for, calling the hooks on what it describes. -/
abbrev SchemaSource := GeneratorConfig → CatalogHooks → Traced CatalogCall Error Schema

namespace SchemaSource

def failing (e : Error) : SchemaSource := fun _ _ => Traced.lift (.error e)

/-- A source that has its schema at hand. -/
def fixed (schema : Schema) : SchemaSource := fun _ _ => return schema

def ofRows (rows : List RawColumn) : SchemaSource := fun config hooks => do
  Traced.lift config.connection.validate
  let filter ← Traced.lift config.filter.compile
  assembleSchema config.schema rows filter hooks

end SchemaSource

/-- What a database is opened with; the filter is checked before the connection. -/
def GeneratorConfig.fetchOptions (c : GeneratorConfig)
    (machine : ConnectOptions := .ofUser "root") : Except Error ConnectOptions := do
  let _ ← c.filter.compile
  c.connection.validate
  c.connection.options machine

/-- Checks what a connection needs and then finds no database to open. -/
def SchemaSource.unreachable : SchemaSource := fun config _ => do
  let _ ← Traced.lift config.fetchOptions
  Traced.lift (.error (.connection "no database driver is available"))

end ZodCatalog
