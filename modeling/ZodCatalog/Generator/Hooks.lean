import ZodCatalog.Catalog.Assembly
import ZodCatalog.Module.Text

/-!
The functions that a generator run calls on descriptors, models and modules, each of which may
change its argument or refuse it.
-/

namespace ZodCatalog

structure GeneratorHooks where
  catalog : CatalogHooks := {}
  model : ModelHooks := {}
  /-- Sees the model that a module was emitted from. -/
  rendered : TableModel → RenderedModule → Except String RenderedModule := fun _ r => .ok r

end ZodCatalog
