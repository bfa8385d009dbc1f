import ZodCatalog.Document.Value
import ZodCatalog.Sorting

/-!
Descriptions of documents in the vocabulary of JSON Schema, draft 7.
-/

namespace ZodCatalog.Document

/-- A record with its fields in the order of their names. -/
def Value.sortFields : Value → Value
  | .record fields => .record (stableSort (fun f g => decide (f.1 ≤ g.1)) fields)
  | v => v

/-- What a value may be. -/
inductive Shape
  | text
  | flag
  | integer (format : String) (nonNegative : Bool)
  | constants (names : List String)
  | list (item : Shape)
  /-- The definition of that name. -/
  | named (name : String)
  | either (first second : Shape)
  | nullable (shape : Shape)
deriving Repr, DecidableEq

namespace Shape

def fields : Shape → Fields
  | text => [("type", .text "string")]
  | flag => [("type", .text "boolean")]
  | integer format nonNegative =>
    [("type", .text "integer"), ("format", .text format)] ++
      if nonNegative then [("minimum", .decimal "0.0")] else []
  | constants names => [("type", .text "string"), ("enum", .ofTexts names)]
  | list item => [("type", .text "array"), ("items", .record item.fields)]
  | named name => [("$ref", .text ("#/definitions/" ++ name))]
  | either first second => [("anyOf", .list [.record first.fields, .record second.fields])]
  | nullable shape =>
    match shape.fields with
    | ("type", .text kind) :: rest => ("type", .ofTexts [kind, "null"]) :: rest
    | other => [("anyOf", .list [.record other, .record [("type", .text "null")]])]

end Shape

/-- A field of a record. -/
structure Property where
  name : String
  shape : Shape
  description : Option String := none
  default : Option Value := none
  required : Bool := false
deriving Repr

def described (description : Option String) (fs : Fields) : Fields :=
  (description.map fun s => ("description", Value.text s)).toList ++ fs

namespace Property

/-- The property as a document. A reference stands alone, so notes go around it. -/
def toValue (p : Property) : Value :=
  let notes := described p.description (p.default.map fun v => ("default", v)).toList
  match notes, p.shape with
  | [], shape => .record shape.fields
  | notes, .named name => .record (notes ++ [("allOf", .list [.record (Shape.named name).fields])])
  | notes, shape => .record (notes ++ shape.fields)

/-- The fields that describe a record, with its properties in the order of their names. -/
def recordFields (properties : List Property) : Fields :=
  let sorted := stableSort (fun p q => decide (p.name ≤ q.name)) properties
  let required := (sorted.filter (·.required)).map (·.name)
  [("type", .text "object")] ++
    (if required.isEmpty then [] else [("required", .ofTexts required)]) ++
    [("properties", .record (sorted.map fun p => (p.name, p.toValue)))]

end Property

/-- A named part of a document. -/
structure Definition where
  name : String
  description : Option String
  fields : Fields
deriving Repr

/-- The schema of a record with the definitions it refers to. -/
def schemaDocument (title : String) (description : String) (properties : List Property)
    (definitions : List Definition) : Value :=
  .record
    ([("$schema", .text "http://json-schema.org/draft-07/schema#"), ("title", .text title),
      ("description", .text description)] ++ Property.recordFields properties ++
      [("definitions",
        .record (definitions.map fun d => (d.name, .record (described d.description d.fields))))])

end ZodCatalog.Document
