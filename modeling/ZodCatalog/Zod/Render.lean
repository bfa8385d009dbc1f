import ZodCatalog.Catalog.Column
import ZodCatalog.Text.LetterCase
import ZodCatalog.Zod.Expr

/-!
The expressions that validate a column. Reading and writing have expressions of their own;
the one for writing carries the configured string transforms, bounds and conversions.
-/

namespace ZodCatalog

/-- Transforms of written strings, applied before the length is checked. -/
structure StringTransforms where
  trim : Bool := false
  lowercase : Bool := false
  uppercase : Bool := false
  normalize : Bool := false
deriving Repr, DecidableEq

/-- What the configuration says about expressions. -/
structure RenderOptions where
  stringifyJson : Bool := false
  stringifyDates : Bool := false
  defaultEmptyArray : Bool := false
  stringTransforms : StringTransforms := {}
  nonNegativeNumbers : Bool := false
deriving Repr, DecidableEq

/-- A column with the names that its expressions refer to. -/
structure BoundColumn where
  column : Column
  enumConstant : Option String
  jsonSchemaName : Option String
deriving Repr, DecidableEq

namespace Zod

open Text

/-- Columns named for an email address or a location have a schema of their own. -/
def stringScalar (columnName : String) : Scalar :=
  let name := lower columnName.toList
  if name = "email".toList || "_email".toList.isSuffixOf name then .email
  else if name = "url".toList || "_url".toList.isSuffixOf name then .url
  else .string

/-- The constant whose values a column takes, if it takes any. -/
def enumReference (b : BoundColumn) : Option String :=
  if b.column.isEnum then b.enumConstant else none

/-- The schema of a value by its kind alone; `dates` says how dates are read. -/
def baseExpr (dates : Scalar) (b : BoundColumn) : Expr :=
  match b.column.kind with
  | .string => .scalar (stringScalar b.column.name)
  | .uuid => .scalar .uuid
  | .integer => .scalar .integer
  | .float => .scalar .number
  | .boolean => .scalar .boolean
  | .date => .scalar dates
  | .json =>
    match b.jsonSchemaName with
    | some name => .verbatim name
    | none => .scalar .json
  | .unknown => .scalar .any

/-- The length bound of a column, if it is positive. -/
def lengthBound (maxLength : Option Int32) : List Check :=
  match maxLength with
  | some n => if 0 < n.toInt then [.maxLength n] else []
  | none => []

def StringTransforms.checks (t : StringTransforms) : List Check :=
  (if t.trim then [.trim] else []) ++ (if t.lowercase then [.lowercase] else []) ++
    (if t.uppercase then [.uppercase] else []) ++ (if t.normalize then [.normalize] else [])

/-- The checks on a value that is written. -/
def writeChecks (o : RenderOptions) (c : Column) : List Check :=
  match c.kind with
  | .string => StringTransforms.checks o.stringTransforms ++ lengthBound c.maxLength
  | .integer => if o.nonNegativeNumbers then [.nonNegative] else []
  | .float => if o.nonNegativeNumbers then [.nonNegative] else []
  | _ => []

def arrayIf (isArray : Bool) (e : Expr) : Expr := if isArray then .array e else e

/-- The schema of a non-null value that is read. -/
def readBase (b : BoundColumn) : Expr :=
  arrayIf b.column.isArray <|
    match enumReference b with
    | some constant => .enum constant
    | none => baseExpr .coercedDate b

/-- The schema of a non-null value that is written; checks bind the elements of an array. -/
def writeBase (o : RenderOptions) (b : BoundColumn) : Expr :=
  arrayIf b.column.isArray <|
    match enumReference b with
    | some constant => .enum constant
    | none => .checked (baseExpr .date b) (writeChecks o b.column)

def defaultsToEmptyArray (o : RenderOptions) (c : Column) : Bool :=
  o.defaultEmptyArray && c.isArray

/-- The conversion of a column to text that the options ask for. -/
def conversion? (o : RenderOptions) (c : Column) : Option Conversion :=
  match c.kind with
  | .date => if o.stringifyDates then some (if c.isArray then .isoDates else .isoDate) else none
  | .json => if o.stringifyJson && !c.isArray then some .jsonText else none
  | _ => none

/-- The schema of a value read from the database. -/
def readExpr (o : RenderOptions) (b : BoundColumn) : Expr :=
  if b.column.isNullable then
    .transform (.nullable (readBase b))
      (if defaultsToEmptyArray o b.column then .orEmptyArray else .orUndefined)
  else readBase b

def nullableIf (isNullable : Bool) (e : Expr) : Expr := if isNullable then .nullable e else e

/-- The conversion follows the null wrapper, so it is guarded where null passes. -/
def convertedExpr (o : RenderOptions) (b : BoundColumn) : Expr :=
  let e := nullableIf b.column.isNullable (writeBase o b)
  match enumReference b, conversion? o b.column with
  | none, some c => .transform e (.convert c b.column.isNullable)
  | _, _ => e

def coalescedExpr (o : RenderOptions) (b : BoundColumn) : Expr :=
  let e := convertedExpr o b
  if b.column.isNullable || b.column.isOptional then
    .transform e
      (if defaultsToEmptyArray o b.column then .definedOrEmptyArray else .orUndefined)
  else e

/-- The schema of a value about to be written to the database. -/
def writeExpr (o : RenderOptions) (b : BoundColumn) : Expr :=
  let e := coalescedExpr o b
  if b.column.isOptional then .optional e else e

end Zod

end ZodCatalog
