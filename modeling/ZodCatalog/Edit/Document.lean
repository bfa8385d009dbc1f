import ZodCatalog.Edit.Rule

/-!
Edit rules read from documents.
-/

namespace ZodCatalog

open Document

def EditRule.ofValue? (v : Value) : Option EditRule := do
  let fs ← v.named?
  return {
    table := ← fs.optional "table" Value.asText?
    column := ← fs.optional "column" Value.asText?
    settings := ← fs.orElse "set" [] Value.named?
    refusal := ← fs.optional "fail" Value.asText?
    heading := ← fs.optional "prepend" Value.asText?
    reverseColumns := ← fs.orElse "reverse_columns" false Value.asBool?
    dropColumns := ← fs.orElse "drop_columns" [] (Value.asList? Value.asText?) }

def EditRules.ofValue? (v : Value) : Option EditRules := do
  let fs ← v.named?
  let rules (key : String) : Option (List EditRule) :=
    fs.orElse key [] (Value.asList? EditRule.ofValue?)
  return {
    columnDescriptor := ← rules "column_descriptor"
    tableDescriptor := ← rules "table_descriptor"
    columnModel := ← rules "column_model"
    tableModel := ← rules "table_model"
    rendered := ← rules "rendered" }

end ZodCatalog
