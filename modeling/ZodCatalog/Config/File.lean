import ZodCatalog.Config.Document
import ZodCatalog.Toml.Reader
import ZodCatalog.Toml.Writer

/-!
Configuration files.
-/

namespace ZodCatalog.GeneratorConfig

def ofToml? (text : String) : Option GeneratorConfig :=
  (Toml.read? text).bind (ofFields? .toml)

def toToml (c : GeneratorConfig) : String := Toml.write c.toFields

end ZodCatalog.GeneratorConfig
