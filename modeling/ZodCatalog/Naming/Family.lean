import ZodCatalog.Catalog.Relation
import ZodCatalog.Naming.Casing
import ZodCatalog.Naming.Inflection

/-!
The names a module uses for a table: identifiers of its schemas, types and constants, property
names, and its file name. Each depends on the names of table and column alone.
-/

namespace ZodCatalog

open Text

/-- What a record schema validates. -/
inductive Operation
  | select
  | insert
  | update
deriving Repr, DecidableEq

def Operation.word : Operation → String
  | .select => "select"
  | .insert => "insert"
  | .update => "update"

/-- How names are formed. -/
structure Naming where
  fieldCasing : Casing := .camel
  objectCasing : Casing := .pascal
  singularize : Bool := true
deriving Repr, DecidableEq

namespace Naming

/-- The non-empty parts of an identifier joined and put in the style of objects. -/
def object (n : Naming) (parts : List String) : String :=
  n.objectCasing.apply (String.intercalate "_" (parts.filter (· != "")))

/-- The name of one record of a table. -/
def entity (n : Naming) (table : String) : String :=
  if n.singularize then ZodCatalog.singularize table else table

def property (n : Naming) (column : String) : String := n.fieldCasing.apply column

def tableSchema (n : Naming) (op : Operation) (table : String) (kind : RelationKind) : String :=
  n.object [op.word, table, kind.word, "schema"]

def recordType (n : Naming) (op : Operation) (table : String) : String :=
  n.object [op.word, n.entity table]

/-- The schema that is imported for a column of JSON values. -/
def jsonSchema (n : Naming) (table column : String) : String :=
  n.object [n.entity table, column, "schema"]

/-- The constant that lists the values of a column. -/
def enumConstant (n : Naming) (table column : String) : String :=
  String.ofList (shouting (n.entity table ++ "_" ++ pluralize column).toList)

def enumSchema (n : Naming) (table column : String) : String :=
  n.object [n.entity table, column, "schema"]

def enumType (n : Naming) (table column : String) : String :=
  n.object [n.entity table, column]

end Naming

/-- The name of the module of a table, without its ending. -/
def moduleStem (table : String) : String := Casing.kebab.apply table

end ZodCatalog
