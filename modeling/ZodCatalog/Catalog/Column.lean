import ZodCatalog.Catalog.Relation

/-!
Columns as the catalog states them and as the generator describes them.
-/

namespace ZodCatalog

/-- A column as read from the catalog. -/
structure RawColumn where
  name : String
  tableName : String
  tableKind : RelationKind
  schemaName : String
  dataType : String
  isNullable : Bool
  default : Option String
  maxLength : Option Int32
  description : Option String
  checkConstraints : List String
  enumLabels : List String
  ordinalPosition : Int16
deriving Repr, DecidableEq

/-- A column with its kind and what follows from it for reading and writing. -/
structure Column extends RawColumn where
  kind : FieldKind
  isArray : Bool
  isAutoGenerated : Bool
  isWritable : Bool
  isOptional : Bool
  enumValues : List String
deriving Repr, DecidableEq

namespace Column

/--
A column of a table is writable unless its values are generated; a column may be left out on
writing when it is nullable or has a default.
-/
def ofRaw (raw : RawColumn) (kind : FieldKind) (isArray isAutoGenerated : Bool)
    (enumValues : List String) : Column :=
  { raw with
    kind
    isArray
    isAutoGenerated
    isWritable := !isAutoGenerated && raw.tableKind == .table
    isOptional := raw.isNullable || raw.default.isSome
    enumValues }

def isEnum (c : Column) : Bool := !c.enumValues.isEmpty

end Column

end ZodCatalog
