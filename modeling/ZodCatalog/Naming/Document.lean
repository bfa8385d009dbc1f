import ZodCatalog.Document.Value
import ZodCatalog.Naming.Casing

/-!
Case styles in documents. Each has one spelling that is written and may have others that are
read.
-/

namespace ZodCatalog.Casing

open Document

def ofValue? (format : Format) (v : Value) : Option Casing :=
  v.asConstant? format all fun c => c.name :: c.aliases

def toValue (c : Casing) : Value := .text c.name

end ZodCatalog.Casing
