import ZodCatalog.Proofs.CallChains
import ZodCatalog.Proofs.PropertyNames

/-! The literals of a module. Its text is made of source that is written as it is and of values that
are written in quotes: where schemas are imported from, the values of enum columns, and the keys
that are not identifiers. Escaping takes line feeds out of a value, but leaves carriage returns
in. -/

namespace ZodCatalog

namespace ModuleText
open Statement (text_value text_gap)

inductive Part
  | source (text : String)
  | literal (value : String)
deriving DecidableEq

namespace Part

def text : Part → String
  | source text => text
  | literal value => singleQuoted value

def value? : Part → Option String
  | source _ => none
  | literal value => some value

end Part

def partsText (ps : List Part) : String := String.join (ps.map Part.text)

/-- The values that are written in quotes. -/
def partValues (ps : List Part) : List String := ps.filterMap Part.value?

@[simp] theorem partsText_nil : partsText [] = "" := rfl

@[simp] theorem partsText_source (text : String) (ps : List Part) :
    partsText (.source text :: ps) = text ++ partsText ps := by
  simp [partsText, Part.text]

@[simp] theorem partsText_literal (value : String) (ps : List Part) :
    partsText (.literal value :: ps) = singleQuoted value ++ partsText ps := by
  simp [partsText, Part.text]

@[simp] theorem partsText_append (ps qs : List Part) :
    partsText (ps ++ qs) = partsText ps ++ partsText qs := by
  simp [partsText]

theorem partsText_flatMap {α : Type} {f : α → List Part} {text : α → String}
    (h : ∀ a, text a = partsText (f a)) (as : List α) :
    String.join (as.map text) = partsText (as.flatMap f) := by
  induction as with
  | nil => rfl
  | cons a as ih => simp [h, ih]

@[simp] theorem partValues_nil : partValues [] = [] := rfl

@[simp] theorem partValues_source (text : String) (ps : List Part) :
    partValues (.source text :: ps) = partValues ps := rfl

@[simp] theorem partValues_literal (value : String) (ps : List Part) :
    partValues (.literal value :: ps) = value :: partValues ps := rfl

@[simp] theorem partValues_append (ps qs : List Part) :
    partValues (ps ++ qs) = partValues ps ++ partValues qs := List.filterMap_append

theorem partValues_flatMap {α : Type} (f : α → List Part) (as : List α) :
    partValues (as.flatMap f) = as.flatMap fun a => partValues (f a) := List.filterMap_flatMap

section Parts

def importParts (m : TableModel) : List Part :=
  match m.jsonImportLocation with
  | some location =>
    if m.jsonImports.isEmpty then []
    else
      [.source ("import \x7b " ++ importList m.jsonImports ++ " \x7d from "), .literal location,
        .source ";\n"]
  | none => []

def valueParts (v : EnumValue) : List Part :=
  [.literal v.value, .source (if v.isLast then "" else ", ")]

def enumParts (d : EnumDefinition) : List Part :=
  .source ("export const " ++ d.constantName ++ " = [") :: d.values.flatMap valueParts ++
    [.source ("] as const;\n" ++ statementText (enumStatements d).tail)]

/-- Only a name that is no identifier is written in quotes as a key. -/
def keyPart (name : String) : Part :=
  if isIdentifier name.toList then .source name else .literal name

def propertyParts (expression : ColumnModel → String) (m : ColumnModel) : List Part :=
  let e := entry expression m
  [.source (e.comment ++ "  "), keyPart m.propertyName, .source (": " ++ e.expression ++ ",\n")]

def objectParts (name : String) (columns : List ColumnModel) (expression : ColumnModel → String) :
    List Part :=
  .source ("export const " ++ name ++ " = z.object(\x7b\n") ::
    columns.flatMap (propertyParts expression) ++ [.source "\x7d);\n"]

def selectParts (m : TableModel) : List Part :=
  objectParts m.names.selectSchema m.columns (·.readType) ++
    [.source (statementText (selectStatements m).tail)]

def writeParts (p : DialectProfile) (m : TableModel) : List Part :=
  .source "\n" :: objectParts m.names.insertSchema m.writableColumns (·.writeType) ++
    [.source (statementText ((writeStatements p m).drop 2))]

/-- The parts of a module in the order of its text. -/
def contentParts (p : DialectProfile) (m : TableModel) : List Part :=
  .source (preamble m ++ p.importLine ++ "\n") :: importParts m ++
    .source "\n" :: m.enums.flatMap enumParts ++ selectParts m ++
      if m.supportsWrite then writeParts p m else []

end Parts

section Texts

theorem jsonImport_eq_parts (m : TableModel) : jsonImport m = partsText (importParts m) := by
  delta jsonImport importParts
  cases m.jsonImportLocation with
  | none => rfl
  | some location => cases m.jsonImports.isEmpty <;> simp [String.append_assoc]

theorem valueParts_text (v : EnumValue) :
    (singleQuoted v.value ++ if v.isLast then "" else ", ") = partsText (valueParts v) := by
  simp [valueParts]

theorem enumDefinition_eq_parts (d : EnumDefinition) :
    enumDefinition d = partsText (enumParts d) := by
  have hliterals : enumLiterals d.values = partsText (d.values.flatMap valueParts) :=
    partsText_flatMap valueParts_text d.values
  have hopen : " = [" = " = " ++ "[" := by decide
  have hclose : "] as const;\n" = "] as const" ++ ";\n" := by decide
  rw [enumDefinition_eq, enumStatements, statementText_cons, text_value, hliterals]
  delta enumParts
  simp only [List.cons_append, partsText_source, partsText_append, partsText_nil, enumStatements,
    List.tail_cons, hopen, hclose, String.append_assoc, String.append_empty]

theorem property_eq_parts (expression : ColumnModel → String) (m : ColumnModel) :
    property expression m = partsText (propertyParts expression m) := by
  have hkey (rest : String) (ps : List Part) (h : partsText ps = rest) :
      propertyKey m.propertyName ++ rest = partsText (keyPart m.propertyName :: ps) := by
    unfold propertyKey keyPart
    split <;> simp [h]
  have hentry : property expression m = (entry expression m).text := rfl
  rw [hentry, Entry.text, propertyParts, partsText_source, ← hkey _ _ rfl]
  simp only [partsText_source, partsText_nil, entry, String.append_assoc, String.append_empty]

theorem objectSchema_eq_parts (name : String) (columns : List ColumnModel)
    (expression : ColumnModel → String) :
    objectSchema name columns expression = partsText (objectParts name columns expression) := by
  have hproperties := partsText_flatMap (property_eq_parts expression) columns
  delta objectSchema objectParts
  simp only [hproperties, List.cons_append, partsText_source, partsText_append, partsText_nil,
    String.append_assoc, String.append_empty]

theorem selectPart_eq_parts (m : TableModel) : selectPart m = partsText (selectParts m) := by
  rw [selectPart_eq, selectStatements, statementText_cons, ← objectSchema_eq,
    objectSchema_eq_parts]
  delta selectParts
  simp only [partsText_append, partsText_source, partsText_nil, selectStatements, List.tail_cons,
    String.append_empty]

theorem writePart_eq_parts (p : DialectProfile) (m : TableModel) :
    writePart p m = partsText (writeParts p m) := by
  rw [writePart_eq, writeStatements, statementText_cons, statementText_cons, ← objectSchema_eq,
    objectSchema_eq_parts]
  delta writeParts
  simp only [List.cons_append, partsText_append, partsText_source, partsText_nil, writeStatements,
    List.drop_succ_cons, List.drop_zero, text_gap, String.append_empty]

/-- A module is the text of its parts. -/
theorem content_eq_parts (p : DialectProfile) (m : TableModel) :
    content p m = partsText (contentParts p m) := by
  have hwrite : (if m.supportsWrite then writePart p m else "") =
      partsText (if m.supportsWrite then writeParts p m else []) := by
    split
    · exact writePart_eq_parts p m
    · rfl
  have henums := partsText_flatMap enumDefinition_eq_parts m.enums
  delta content contentParts
  simp only [List.cons_append, partsText_append, partsText_source, jsonImport_eq_parts, henums,
    selectPart_eq_parts, hwrite, String.append_assoc]

end Texts

section Values

/-- The names among those of properties that are keys in quotes. -/
def quotedNames (columns : List ColumnModel) : List String :=
  (columns.map (·.propertyName)).filter fun name => !isIdentifier name.toList

theorem partValues_objectParts (name : String) (columns : List ColumnModel)
    (expression : ColumnModel → String) :
    partValues (objectParts name columns expression) = quotedNames columns := by
  have hproperties : partValues (columns.flatMap (propertyParts expression)) =
      quotedNames columns := by
    induction columns with
    | nil => rfl
    | cons m columns ih =>
      rw [List.flatMap_cons, partValues_append, ih]
      unfold quotedNames
      cases h : isIdentifier m.propertyName.toList <;> simp [propertyParts, keyPart, h]
  rw [objectParts, List.cons_append, partValues_source, partValues_append, hproperties]
  exact List.append_nil _

theorem partValues_enumParts (d : EnumDefinition) :
    partValues (enumParts d) = d.values.map (·.value) := by
  have hvalues : partValues (d.values.flatMap valueParts) = d.values.map (·.value) := by
    rw [partValues_flatMap, List.map_eq_flatMap]
    rfl
  rw [enumParts, List.cons_append, partValues_source, partValues_append, hvalues]
  exact List.append_nil _

end Values

section Lines

/-- No character of a text ends a line where literals may not. -/
def OneLine (s : String) : Prop := ∀ c ∈ s.toList, c ≠ '\n' ∧ c ≠ '\r'

theorem forall_mem_escapeChar (c : Char) :
    (∀ d ∈ escapeChar c, d ≠ '\n' ∧ d ≠ '\r') ↔ c ≠ '\r' := by
  unfold escapeChar
  split
  · next h => simp [h]
  split
  · next h => simp [h]
  split
  · next h => simp [h]
  · next h => simp [h]

/-- A literal is on one line exactly if its value has no carriage return. -/
theorem oneLine_singleQuoted_iff (v : String) : OneLine (singleQuoted v) ↔ '\r' ∉ v.toList := by
  have hescaped : (∀ c ∈ v.toList.flatMap escapeChar, c ≠ '\n' ∧ c ≠ '\r') ↔
      ∀ c ∈ v.toList, c ≠ '\r' := by
    simp only [List.forall_mem_flatMap, forall_mem_escapeChar]
  have hquote : '\'' ≠ '\n' ∧ '\'' ≠ '\r' := by decide
  rw [OneLine, toList_singleQuoted, quoted, List.forall_mem_cons, List.forall_mem_append,
    List.forall_mem_singleton, hescaped]
  simp only [hquote, ne_eq, not_false_eq_true, and_self, and_true, true_and,
    List.forall_mem_ne']

theorem oneLine_propertyKey_iff (name : String) :
    OneLine (propertyKey name) ↔ '\r' ∉ name.toList := by
  unfold propertyKey
  split
  · next h =>
    have hpart (c : Char) (hc : isIdentifierPart c = false) : c ∉ name.toList := by
      intro hmem
      rw [CallText.forall_isIdentifierPart h c hmem] at hc
      contradiction
    have hline := hpart '\n' (by decide)
    have hreturn := hpart '\r' (by decide)
    refine iff_of_true (fun c hc => ⟨?_, ?_⟩) hreturn
    · rintro rfl
      exact hline hc
    · rintro rfl
      exact hreturn hc
  · exact oneLine_singleQuoted_iff name

end Lines

end ModuleText

open ModuleText

namespace TableModel

/-- The values that a module has in quotes, in the order of its text. -/
def quotedValues (m : TableModel) : List String :=
  (if m.jsonImports.isEmpty then [] else m.jsonImportLocation.toList) ++
    m.enums.flatMap (fun d => d.values.map (·.value)) ++ quotedNames m.columns ++
      if m.supportsWrite then quotedNames m.writableColumns else []

theorem partValues_contentParts (p : DialectProfile) (m : TableModel) :
    partValues (contentParts p m) = m.quotedValues := by
  have himport : partValues (importParts m) =
      if m.jsonImports.isEmpty then [] else m.jsonImportLocation.toList := by
    unfold importParts
    cases m.jsonImportLocation with
    | none => simp
    | some location => cases m.jsonImports.isEmpty <;> simp
  have henums : partValues (m.enums.flatMap enumParts) =
      m.enums.flatMap fun d => d.values.map (·.value) := by
    rw [partValues_flatMap]
    exact List.flatMap_congr fun d _ => partValues_enumParts d
  have hselect : partValues (selectParts m) = quotedNames m.columns := by
    rw [selectParts, partValues_append, partValues_objectParts]
    exact List.append_nil _
  have hwrite : partValues (if m.supportsWrite then writeParts p m else []) =
      if m.supportsWrite then quotedNames m.writableColumns else [] := by
    split
    · rw [writeParts, List.cons_append, partValues_source, partValues_append,
        partValues_objectParts]
      exact List.append_nil _
    · rfl
  simp only [contentParts, quotedValues, List.cons_append, partValues_append, partValues_source,
    himport, henums, hselect, hwrite, List.append_assoc]

/-- The literals of a module are those of its quoted values, and each of them is on one line exactly
if its value has no carriage return, and so for the keys of objects, in quotes or not. -/
theorem emit_literals_oneLine_iff (p : DialectProfile) (m : TableModel) :
    (m.emit p).content = partsText (contentParts p m) ∧
      partValues (contentParts p m) = m.quotedValues ∧
      (∀ value, OneLine (Part.literal value).text ↔ '\r' ∉ value.toList) ∧
      ∀ name, OneLine (propertyKey name) ↔ '\r' ∉ name.toList :=
  ⟨content_eq_parts p m, m.partValues_contentParts p, oneLine_singleQuoted_iff,
    oneLine_propertyKey_iff⟩

end TableModel

/-- Each kind of value in quotes can have a carriage return. -/
theorem ModelBuilder.build_literals_broken :
    let b : ModelBuilder :=
      ⟨{ fieldCasing := .passthrough }, Dialect.default.profile, {}, some "./json\r"⟩
    let raw (name dataType : String) (labels : List String) : RawColumn :=
      ⟨name, "users", .view, "public", dataType, false, none, none, none, [], labels, 1⟩
    let t : Table := ⟨"public", "users", .view,
      [(raw "a\rb" "jsonb" []).describe, (raw "state" "user_state" ["on\roff"]).describe]⟩
    ∃ m, (b.build {} t).outcome = .ok m ∧ m.quotedValues = ["./json\r", "on\roff", "a\rb"] ∧
      (∀ value ∈ m.quotedValues, ¬OneLine (Part.literal value).text) ∧
      ¬OneLine (propertyKey "a\rb") := by
  intro b raw t
  have hvalues : (b.plainModel t).quotedValues = ["./json\r", "on\roff", "a\rb"] := by
    decide +kernel
  refine ⟨b.plainModel t, b.build_outcome t, hvalues, fun value hvalue => ?_, ?_⟩
  · have hreturn : '\r' ∈ value.toList := by
      rw [hvalues] at hvalue
      revert value
      decide
    exact mt (oneLine_singleQuoted_iff value).1 (not_not.2 hreturn)
  · exact mt (oneLine_propertyKey_iff _).1 (by decide)

end ZodCatalog
