/-!
Dialects of the validation library: how a schema is imported, how the scalars that differ between
versions are spelled, and whether wrappers are written as methods or as functions.
-/

namespace ZodCatalog

inductive Dialect
  | default
  | zod3
  | zod4
  | zod4Mini
deriving Repr, DecidableEq, Inhabited

namespace Dialect

def all : List Dialect := [default, zod3, zod4, zod4Mini]

/-- The spelling used in configurations. -/
def name : Dialect → String
  | default => "default"
  | zod3 => "zod3"
  | zod4 => "zod4"
  | zod4Mini => "zod4_mini"

def aliases : Dialect → List String
  | default => []
  | zod3 => ["3"]
  | zod4 => ["4"]
  | zod4Mini => ["4-mini", "zod4-mini"]

/-- The name used in reports. -/
def label : Dialect → String
  | default => "Default"
  | zod3 => "Zod3"
  | zod4 => "Zod4"
  | zod4Mini => "Zod4Mini"

end Dialect

/-- How checks, wrappers and transforms are put around an expression. -/
inductive Composition
  /-- Methods of the expression, as in `z.string().nullable()`. -/
  | chained
  /-- Functions of the expression, as in `z.nullable(z.string())`. -/
  | functional
deriving Repr, DecidableEq

def Composition.name : Composition → String
  | .chained => "chained"
  | .functional => "functional"

/-- What differs between dialects. -/
structure DialectProfile where
  importLine : String
  email : String
  url : String
  uuid : String
  integer : String
  json : String
  composition : Composition
deriving Repr, DecidableEq

namespace DialectProfile

def classic : DialectProfile where
  importLine := "import \x7b z \x7d from 'zod';"
  email := "z.string().email()"
  url := "z.string().url()"
  uuid := "z.string().uuid()"
  integer := "z.number().int()"
  json := "z.any()"
  composition := .chained

def topLevel : DialectProfile where
  importLine := "import \x7b z \x7d from 'zod';"
  email := "z.email()"
  url := "z.url()"
  uuid := "z.uuid()"
  integer := "z.int()"
  json := "z.json()"
  composition := .chained

def mini : DialectProfile :=
  { topLevel with
    importLine := "import \x7b z \x7d from 'zod/mini';"
    composition := .functional }

end DialectProfile

def Dialect.profile : Dialect → DialectProfile
  | .default => .classic
  | .zod3 => .classic
  | .zod4 => .topLevel
  | .zod4Mini => .mini

end ZodCatalog
