import ZodCatalog.Catalog.Column
import ZodCatalog.Check.Clause

/-!
Classification of columns by their type names. The spelling of a type does not matter: its case,
blanks around it, a modifier in parentheses and either way of writing an array type.
-/

namespace ZodCatalog

open Text

namespace Classification

def serialTypes : List String :=
  ["serial", "serial2", "serial4", "serial8", "smallserial", "bigserial"]

/-- The known type names in lower case with the kind of their values. -/
def kindsOfTypes : List (FieldKind × List String) :=
  [(.string,
     ["text", "varchar", "character varying", "char", "character", "bpchar", "citext", "name",
      "inet", "cidr", "macaddr", "macaddr8", "time", "timetz", "time without time zone",
      "time with time zone", "interval", "xml", "bit", "varbit", "bit varying", "tsvector",
      "money"]),
   (.integer, ["int2", "int4", "int8", "smallint", "integer", "int", "bigint", "oid"]),
   (.float, ["float4", "float8", "real", "double precision", "numeric", "decimal"]),
   (.boolean, ["bool", "boolean"]),
   (.date,
     ["date", "timestamp", "timestamptz", "timestamp without time zone",
      "timestamp with time zone"]),
   (.uuid, ["uuid"]),
   (.json, ["json", "jsonb"]),
   (.integer, serialTypes)]

def kindOfName (name : List Char) : FieldKind :=
  match kindsOfTypes.find? fun (_, names) => names.any (·.toList == name) with
  | some (kind, _) => kind
  | none => .unknown

/-- The name of a type in lower case, without a modifier in parentheses. -/
def baseName (dataType : List Char) : List Char :=
  let low := lower (trim dataType)
  match cutFirst (· == '(') low with
  | some (name, _) => trim name
  | none => low

/-- The element type of an array type, or the type itself, with whether it is an array. -/
def splitArrayChars (dataType : List Char) : List Char × Bool :=
  let trimmed := trim dataType
  match after? ['_'] trimmed with
  | some element => (element, true)
  | none =>
    match before? ['[', ']'] trimmed with
    | some element => (trimEnd element, true)
    | none => (trimmed, false)

/-- A default that takes the next value of a sequence. -/
def usesSequence (default : Option String) : Bool :=
  match default with
  | some expr => eqIgnoringAsciiCase ((trimStart expr.toList).take 8) "nextval(".toList
  | none => false

def isSerial (base : List Char) : Bool :=
  serialTypes.any fun serial => eqIgnoringAsciiCase serial.toList base

end Classification

/-- What a column holds, as far as its type and default tell. -/
structure Classification where
  kind : FieldKind
  isArray : Bool
  isAutoGenerated : Bool
deriving Repr, DecidableEq

open Classification in
def splitArrayType (dataType : String) : String × Bool :=
  let (element, isArray) := splitArrayChars dataType.toList
  (String.ofList element, isArray)

open Classification in
def FieldKind.ofType (dataType : String) : FieldKind := kindOfName (baseName dataType.toList)

open Classification in
/-- Types with labels of their own hold strings. -/
def RawColumn.classify (raw : RawColumn) : Classification :=
  let (base, isArray) := splitArrayChars raw.dataType.toList
  let known := kindOfName (baseName base)
  { kind := if known = .unknown ∧ raw.enumLabels ≠ [] then .string else known
    isArray
    isAutoGenerated := usesSequence raw.default || isSerial base }

/-- The values of a column's checks or, if these limit nothing, the labels of its type. -/
def RawColumn.allowedValues (raw : RawColumn) : List String :=
  match Check.enumValues raw.name raw.checkConstraints with
  | [] => raw.enumLabels
  | values => values

def RawColumn.describe (raw : RawColumn) : Column :=
  let c := raw.classify
  .ofRaw raw c.kind c.isArray c.isAutoGenerated raw.allowedValues

end ZodCatalog
