import ZodCatalog.Catalog.Column

/-!
Rows of the catalog query, one for each column of each relation.
-/

namespace ZodCatalog

structure CatalogRow where
  schemaName : String
  tableName : String
  relationCode : String
  columnName : String
  ordinalPosition : Int16
  typeName : String
  isNullable : Bool
  columnDefault : Option String
  maxLength : Option Int32
  description : Option String
  checkConstraints : List String
  enumLabels : List String
deriving Repr, DecidableEq

def CatalogRow.toRaw (r : CatalogRow) : RawColumn where
  name := r.columnName
  tableName := r.tableName
  tableKind := .ofCode r.relationCode
  schemaName := r.schemaName
  dataType := r.typeName
  isNullable := r.isNullable
  default := r.columnDefault
  maxLength := r.maxLength
  description := r.description
  checkConstraints := r.checkConstraints
  enumLabels := r.enumLabels
  ordinalPosition := r.ordinalPosition

end ZodCatalog
