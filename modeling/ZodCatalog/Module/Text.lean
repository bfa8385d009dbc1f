import ZodCatalog.Module.Model
import ZodCatalog.Text.Blank

/-!
The source text of generated modules and of the index that exports them.
-/

namespace ZodCatalog

open Text

/-- A module ready to be written, with its line in the index. -/
structure RenderedModule where
  fileName : String
  content : String
  indexLine : String
deriving Repr, DecidableEq

namespace ModuleText

def header : String := "// Generated by pgzod. Do not edit by hand."

/-- A character inside single quotes. -/
def escapeChar (c : Char) : List Char :=
  if c = '\\' then ['\\', '\\']
  else if c = '\'' then ['\\', '\'']
  else if c = '\n' then ['\\', 'n']
  else [c]

def escape (s : String) : String := String.ofList (s.toList.flatMap escapeChar)

def singleQuoted (s : String) : String := "'" ++ escape s ++ "'"

def isIdentifierStart (c : Char) : Bool := c.isAlpha || c == '_' || c == '$'

def isIdentifierPart (c : Char) : Bool := c.isAlphanum || c == '_' || c == '$'

/-- A plain identifier of ASCII characters. -/
def isIdentifier (s : List Char) : Bool :=
  match s with
  | [] => false
  | c :: r => isIdentifierStart c && r.all isIdentifierPart

/-- A key of an object, quoted unless it is a plain identifier. -/
def propertyKey (name : String) : String :=
  if isIdentifier name.toList then name else singleQuoted name

/-- Breaks up the sequence that would end a comment. -/
def guardCommentEnd (s : List Char) : List Char := replacePair '*' '/' ['*', '\\', '/'] s

/-- The lines of a text without blanks at their ends. -/
def docLines (s : List Char) : List (List Char) := (splitOnChar '\n' s).map trimEnd

def docLine (line : List Char) : List Char :=
  if line.isEmpty then "   *\n".toList else "   * ".toList ++ line ++ ['\n']

/-- The comment for a description; none for a blank one. -/
def docComment (description : List Char) : List Char :=
  match docLines (guardCommentEnd (trim description)) with
  | [] => []
  | [line] => if line.isEmpty then [] else "  /** ".toList ++ line ++ " */\n".toList
  | lines => "  /**\n".toList ++ lines.flatMap docLine ++ "   */\n".toList

/-- One entry of an object schema, with the column's description in front of it. -/
def property (expression : ColumnModel → String) (m : ColumnModel) : String :=
  let doc := match m.column.description with
    | some description => String.ofList (docComment description.toList)
    | none => ""
  doc ++ "  " ++ propertyKey m.propertyName ++ ": " ++ expression m ++ ",\n"

def objectSchema (name : String) (columns : List ColumnModel)
    (expression : ColumnModel → String) : String :=
  "export const " ++ name ++ " = z.object(\x7b\n" ++
    String.join (columns.map (property expression)) ++ "\x7d);\n"

/-- The two comment lines at the top and the empty line after them. -/
def preamble (m : TableModel) : String :=
  header ++ "\n// Source: " ++ m.schemaName ++ "." ++ m.tableName ++ " (" ++ m.kind.word ++
    ")\n\n"

def importList (imports : List JsonImport) : String :=
  String.join (imports.map fun i => i.name ++ if i.isLast then "" else ", ")

/-- The import of the schemas for JSON columns, if there are any. -/
def jsonImport (m : TableModel) : String :=
  match m.jsonImportLocation with
  | some location =>
    if m.jsonImports.isEmpty then ""
    else "import \x7b " ++ importList m.jsonImports ++ " \x7d from " ++ singleQuoted location ++
      ";\n"
  | none => ""

def enumLiterals (values : List EnumValue) : String :=
  String.join (values.map fun v => singleQuoted v.value ++ if v.isLast then "" else ", ")

def enumDefinition (d : EnumDefinition) : String :=
  "export const " ++ d.constantName ++ " = [" ++ enumLiterals d.values ++ "] as const;\n" ++
    "export const " ++ d.schemaName ++ " = z.enum(" ++ d.constantName ++ ");\n" ++
    "export type " ++ d.typeName ++ " = z.infer<typeof " ++ d.schemaName ++ ">;\n\n"

def selectPart (m : TableModel) : String :=
  objectSchema m.names.selectSchema m.columns (·.readType) ++
    "export type " ++ m.names.selectType ++ " = z.infer<typeof " ++ m.names.selectSchema ++ ">;\n"

def writePart (p : DialectProfile) (m : TableModel) : String :=
  let n := m.names
  "\n" ++ objectSchema n.insertSchema m.writableColumns (·.writeType) ++
    "export type " ++ n.insertType ++ " = z.input<typeof " ++ n.insertSchema ++ ">;\n\n" ++
    "export const " ++ n.updateSchema ++ " = " ++
      Zod.Expr.text p (.partialOf (.verbatim n.insertSchema)) ++ ";\n" ++
    "export type " ++ n.updateType ++ " = z.input<typeof " ++ n.updateSchema ++ ">;\n"

def content (p : DialectProfile) (m : TableModel) : String :=
  preamble m ++ p.importLine ++ "\n" ++ jsonImport m ++ "\n" ++
    String.join (m.enums.map enumDefinition) ++ selectPart m ++
    if m.supportsWrite then writePart p m else ""

def index (lines : List String) : String :=
  header ++ "\n\n" ++ String.join (lines.map (· ++ "\n"))

end ModuleText

def TableModel.emit (p : DialectProfile) (m : TableModel) : RenderedModule where
  fileName := m.fileName ++ ".ts"
  content := ModuleText.content p m
  indexLine := "export * from './" ++ m.fileName ++ "';"

end ZodCatalog
