import ZodCatalog.CommandLine.Flag
import ZodCatalog.Config.Document
import ZodCatalog.Connection.Options

/-!
Flags that override the configuration. What no flag is given for stays as it is.
-/

namespace ZodCatalog.CommandLine

open Document

/-- A flag with what its values make of a configuration. -/
structure OverrideFlag extends Flag where
  change : List String → GeneratorConfig → GeneratorConfig

namespace OverrideFlag

def ofText (name valueName about : String) (set : String → GeneratorConfig → GeneratorConfig) :
    OverrideFlag where
  name
  valueName
  about
  change values c := values.foldl (fun c v => set v c) c

/-- A flag whose value has to be read; one that cannot be read is rejected. -/
def ofReader {α : Type} (name valueName about : String) (read : String → Option α)
    (set : α → GeneratorConfig → GeneratorConfig) : OverrideFlag where
  name
  valueName
  about
  fault v := if (read v).isSome then none else some .rejectedValue
  change values c := (values.filterMap read).foldl (fun c v => set v c) c

def ofTexts (name valueName about : String)
    (set : List String → GeneratorConfig → GeneratorConfig) : OverrideFlag where
  name
  valueName
  about
  arity := .repeated
  change := set

def ofSwitch (name about : String) (set : GeneratorConfig → GeneratorConfig) : OverrideFlag where
  name
  about
  arity := .switch
  change _ := set

def emptyPath (v : String) : Option UsageError := if v.isEmpty then some .missingValue else none

def onConnection (f : ConnectionConfig → ConnectionConfig) (c : GeneratorConfig) :
    GeneratorConfig := { c with connection := f c.connection }

def onTransforms (f : StringTransforms → StringTransforms) (c : GeneratorConfig) :
    GeneratorConfig := { c with stringTransforms := f c.stringTransforms }

def setIncluding (spec : FilterSpec) (c : GeneratorConfig) : GeneratorConfig :=
  { c with filter := { c.filter with including := some spec } }

def setExcluding (spec : FilterSpec) (c : GeneratorConfig) : GeneratorConfig :=
  { c with filter := { c.filter with excluding := some spec } }

def connectionFlags : List OverrideFlag :=
  [ofText "connection-string" "URL" "Full connection URL, e.g. postgres://user@host/db"
     fun v => onConnection ({ · with connectionString := some v }),
   ofText "host" "HOST" "" fun v => onConnection ({ · with host := some v }),
   ofReader "port" "PORT" "" (ConnectOptions.decimal? 16)
     fun n => onConnection ({ · with port := UInt16.ofNat n }),
   ofText "database" "DATABASE" "" fun v => onConnection ({ · with database := some v }),
   ofText "user" "USER" "" fun v => onConnection ({ · with user := some v }),
   ofText "password" "PASSWORD" "" fun v => onConnection ({ · with password := some v }),
   ofText "ssl-mode" "MODE" "" fun v => onConnection ({ · with sslMode := some v })]

/-- Patterns and lists of names; each side takes one or the other. -/
def filterFlags : List OverrideFlag :=
  [ofText "schema" "SCHEMA" "Database schema to introspect" fun v c => { c with schema := v },
   { ofText "include" "REGEX" "Regular expression selecting relations"
       fun v => setIncluding (.pattern v) with
     conflicts := ["include-table"] },
   { ofText "exclude" "REGEX" "Regular expression rejecting relations; wins over include"
       fun v => setExcluding (.pattern v) with
     conflicts := ["exclude-table"] },
   ofTexts "include-table" "NAME" "Relation to select by exact name (repeatable)"
     fun vs => setIncluding (.names vs),
   ofTexts "exclude-table" "NAME" "Relation to reject by exact name (repeatable)"
     fun vs => setExcluding (.names vs)]

def casing? (v : String) : Option Casing := Casing.ofValue? .json (.text v)

def namingFlags : List OverrideFlag :=
  [ofReader "field-name-casing" "CASING" "" casing?
     fun casing c => { c with fieldNameCasing := casing },
   ofReader "object-name-casing" "CASING" "" casing?
     fun casing c => { c with objectNameCasing := casing },
   ofReader "dialect" "DIALECT" "default, zod3, zod4 or zod4_mini"
     (fun v => Dialect.ofValue? .json (.text v)) fun dialect c => { c with dialect },
   ofText "json-schema-import-location" "MODULE" ""
     fun v c => { c with jsonSchemaImportLocation := some v }]

def renderingFlags : List OverrideFlag :=
  [ofSwitch "stringify-json" "" fun c => { c with stringifyJson := true },
   ofSwitch "stringify-dates" "" fun c => { c with stringifyDates := true },
   ofSwitch "default-empty-array" "" fun c => { c with defaultEmptyArray := true },
   ofSwitch "no-singularize" "Keep table names as they are in record and enum names"
     fun c => { c with singularize := false },
   ofSwitch "trim" "" (onTransforms ({ · with trim := true })),
   { ofSwitch "lowercase" "" (onTransforms ({ · with lowercase := true })) with
     conflicts := ["uppercase"] },
   ofSwitch "uppercase" "" (onTransforms ({ · with uppercase := true })),
   ofSwitch "normalize" "" (onTransforms ({ · with normalize := true })),
   ofSwitch "non-negative-numbers" "" fun c => { c with nonNegativeNumbers := true }]

def outputFlags : List OverrideFlag :=
  [{ ofText "out-dir" "DIR" "" fun v c => { c with outputDir := v } with fault := emptyPath },
   ofSwitch "clean" "Delete previously generated modules before writing"
     fun c => { c with cleanOutput := true }]

def all : List OverrideFlag :=
  connectionFlags ++ filterFlags ++ namingFlags ++ renderingFlags ++ outputFlags

def flags : List Flag := all.map (·.toFlag)

/-- The configuration with the given flags put over it. -/
def apply (g : Given) (c : GeneratorConfig) : GeneratorConfig :=
  all.foldl (fun c f => if g.has f.name then f.change (g.valuesOf f.name) c else c) c

end OverrideFlag

end ZodCatalog.CommandLine
