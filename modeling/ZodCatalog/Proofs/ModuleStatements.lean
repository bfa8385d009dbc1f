import ZodCatalog.Module.Text

/-! The statements of a module after its heading, and the names they declare. A module is the text
of its statements, so what is declared can be read off the model. -/

namespace ZodCatalog

/-- A statement of a module, or the empty line between two of them. -/
inductive Statement
  | imports (imports : List JsonImport) (location : String)
  | value (name body : String)
  | type (name body : String)
  | gap

namespace Statement

open ModuleText

def text : Statement → String
  | imports is location =>
    "import \x7b " ++ importList is ++ " \x7d from " ++ singleQuoted location ++ ";\n"
  | value name body => "export const " ++ name ++ " = " ++ body ++ ";\n"
  | type name body => "export type " ++ name ++ " = " ++ body ++ ";\n"
  | gap => "\n"

@[simp] theorem text_imports (is : List JsonImport) (location : String) :
    text (.imports is location) =
      "import \x7b " ++ importList is ++ " \x7d from " ++ singleQuoted location ++ ";\n" := rfl

@[simp] theorem text_value (name body : String) :
    text (.value name body) = "export const " ++ name ++ " = " ++ body ++ ";\n" := rfl

@[simp] theorem text_type (name body : String) :
    text (.type name body) = "export type " ++ name ++ " = " ++ body ++ ";\n" := rfl

@[simp] theorem text_gap : text .gap = "\n" := rfl

/-- The names a statement binds to values. -/
def values : Statement → List String
  | imports is _ => is.map (·.name)
  | value name _ => [name]
  | type .. | gap => []

/-- The names a statement declares as types. -/
def types : Statement → List String
  | type name _ => [name]
  | imports .. | value .. | gap => []

end Statement

namespace ModuleText

open Statement

def jsonStatements (m : TableModel) : List Statement :=
  match m.jsonImportLocation with
  | some location => if m.jsonImports.isEmpty then [] else [.imports m.jsonImports location]
  | none => []

def enumStatements (d : EnumDefinition) : List Statement :=
  [.value d.constantName ("[" ++ enumLiterals d.values ++ "] as const"),
    .value d.schemaName ("z.enum(" ++ d.constantName ++ ")"),
    .type d.typeName ("z.infer<typeof " ++ d.schemaName ++ ">"), .gap]

def objectBody (columns : List ColumnModel) (expression : ColumnModel → String) : String :=
  "z.object(\x7b\n" ++ String.join (columns.map (property expression)) ++ "\x7d)"

def selectStatements (m : TableModel) : List Statement :=
  [.value m.names.selectSchema (objectBody m.columns (·.readType)),
    .type m.names.selectType ("z.infer<typeof " ++ m.names.selectSchema ++ ">")]

def writeStatements (p : DialectProfile) (m : TableModel) : List Statement :=
  [.gap, .value m.names.insertSchema (objectBody m.writableColumns (·.writeType)),
    .type m.names.insertType ("z.input<typeof " ++ m.names.insertSchema ++ ">"), .gap,
    .value m.names.updateSchema (Zod.Expr.text p (.partialOf (.verbatim m.names.insertSchema))),
    .type m.names.updateType ("z.input<typeof " ++ m.names.updateSchema ++ ">")]

/-- The statements of a module after the lines that all modules share. -/
def statements (p : DialectProfile) (m : TableModel) : List Statement :=
  jsonStatements m ++ .gap :: m.enums.flatMap enumStatements ++ selectStatements m ++
    if m.supportsWrite then writeStatements p m else []

/-- The text of statements in their order. -/
def statementText (ss : List Statement) : String := String.join (ss.map text)

@[simp] theorem statementText_nil : statementText [] = "" := rfl

@[simp] theorem statementText_cons (s : Statement) (ss : List Statement) :
    statementText (s :: ss) = s.text ++ statementText ss := by
  simp [statementText]

@[simp] theorem statementText_append (ss ss' : List Statement) :
    statementText (ss ++ ss') = statementText ss ++ statementText ss' := by
  simp [statementText]

theorem jsonImport_eq (m : TableModel) : jsonImport m = statementText (jsonStatements m) := by
  -- `delta` here and below: equations of definitions that append many texts are slow to make.
  delta jsonImport jsonStatements
  cases m.jsonImportLocation with
  | none => rfl
  | some location => cases hnone : m.jsonImports.isEmpty <;> simp

theorem enumDefinition_eq (d : EnumDefinition) :
    enumDefinition d = statementText (enumStatements d) := by
  have hopen : " = [" = " = " ++ "[" := by decide
  have hclose : "] as const;\n" = "] as const" ++ ";\n" := by decide
  have henum : " = z.enum(" = " = " ++ "z.enum(" := by decide
  have hend : ");\n" = ")" ++ ";\n" := by decide
  have htype : " = z.infer<typeof " = " = " ++ "z.infer<typeof " := by decide
  have hgap : ">;\n\n" = ">" ++ ";\n" ++ "\n" := by decide
  delta enumDefinition enumStatements
  simp only [statementText_cons, statementText_nil, text_value, text_type, text_gap, hopen,
    hclose, henum, hend, htype, hgap, String.append_assoc, String.append_empty]

theorem objectSchema_eq (name : String) (columns : List ColumnModel)
    (expression : ColumnModel → String) :
    objectSchema name columns expression = text (.value name (objectBody columns expression)) := by
  have hopen : " = z.object(\x7b\n" = " = " ++ "z.object(\x7b\n" := by decide
  have hclose : "\x7d);\n" = "\x7d)" ++ ";\n" := by decide
  delta objectSchema objectBody
  simp only [text_value, hopen, hclose, String.append_assoc]

theorem selectPart_eq (m : TableModel) : selectPart m = statementText (selectStatements m) := by
  have htype : " = z.infer<typeof " = " = " ++ "z.infer<typeof " := by decide
  have hend : ">;\n" = ">" ++ ";\n" := by decide
  delta selectPart selectStatements
  simp only [objectSchema_eq, statementText_cons, statementText_nil, text_value, text_type, htype,
    hend, String.append_assoc, String.append_empty]

theorem writePart_eq (p : DialectProfile) (m : TableModel) :
    writePart p m = statementText (writeStatements p m) := by
  have htype : " = z.input<typeof " = " = " ++ "z.input<typeof " := by decide
  have hend : ">;\n" = ">" ++ ";\n" := by decide
  have hgap : ">;\n\n" = ">" ++ ";\n" ++ "\n" := by decide
  delta writePart writeStatements
  simp only [objectSchema_eq, statementText_cons, statementText_nil, text_value, text_type,
    text_gap, htype, hend, hgap, String.append_assoc, String.append_empty]

theorem join_map_enumDefinition (ds : List EnumDefinition) :
    String.join (ds.map enumDefinition) = statementText (ds.flatMap enumStatements) := by
  induction ds with
  | nil => rfl
  | cons d ds ih => simp [enumDefinition_eq, ih]

/-- The content of a module is its heading and then its statements. -/
theorem content_eq (p : DialectProfile) (m : TableModel) :
    content p m = preamble m ++ p.importLine ++ "\n" ++ statementText (statements p m) := by
  have hwrite : (if m.supportsWrite then writePart p m else "") =
      statementText (if m.supportsWrite then writeStatements p m else []) := by
    split
    · exact writePart_eq p m
    · rfl
  delta content statements
  simp only [statementText_append, statementText_cons, text_gap, jsonImport_eq,
    join_map_enumDefinition, selectPart_eq, hwrite, String.append_assoc]

end ModuleText

end ZodCatalog
