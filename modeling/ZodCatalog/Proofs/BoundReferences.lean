import ZodCatalog.Proofs.ColumnEdits
import ZodCatalog.Proofs.DeclaredNames

/-! The names that the expressions of a module refer to. Whether an expression refers to a constant
or to a schema is decided where it is rendered, and whether the name is declared or imported
elsewhere; both look at the settled column, so that what a column hook does to it does not matter
as long as the hook does not write the expressions itself. -/

namespace ZodCatalog

theorem getElem?_markLast {α : Type} (xs : List α) (i : Nat) :
    (markLast xs)[i]? = xs[i]?.map fun x => (x, i + 1 == xs.length) := by
  fun_induction markLast xs generalizing i with
  | case1 => rfl
  | case2 x => cases i <;> simp
  | case3 x xs hxs ih =>
    cases i with
    | zero =>
      have hlong : xs.length ≠ 0 := fun h => hxs (List.length_eq_zero_iff.1 h)
      simpa using hlong
    | succ i => simpa using ih i

namespace Zod

/-- The expression under all arrays, checks and wrappers. -/
def Expr.core : Expr → Expr
  | scalar s => scalar s
  | verbatim text => verbatim text
  | enum constant => enum constant
  | array e => e.core
  | checked e _ => e.core
  | nullable e => e.core
  | optional e => e.core
  | transform e _ => e.core
  | partialOf e => e.core

/-- What a column is validated by under all wrappers: its constant, or a schema for its kind. -/
def element (dates : Scalar) (c : BoundColumn) : Expr :=
  match enumReference c with
  | some constant => .enum constant
  | none => baseExpr dates c

theorem core_element (dates : Scalar) (c : BoundColumn) :
    (element dates c).core = element dates c := by
  unfold element
  split
  · rfl
  · unfold baseExpr
    split <;> first | rfl | (split <;> rfl)

theorem core_arrayIf (isArray : Bool) (e : Expr) : (arrayIf isArray e).core = e.core := by
  cases isArray <;> rfl

theorem core_readBase (c : BoundColumn) : (readBase c).core = element .coercedDate c := by
  rw [readBase, core_arrayIf]
  exact core_element .coercedDate c

theorem core_writeBase (o : RenderOptions) (c : BoundColumn) :
    (writeBase o c).core = element .date c := by
  rw [writeBase, core_arrayIf, ← core_element]
  unfold element
  cases enumReference c <;> rfl

/-- No wrapper around an expression that is read changes what it refers to. -/
theorem core_readExpr (o : RenderOptions) (c : BoundColumn) :
    (readExpr o c).core = element .coercedDate c := by
  rw [← core_readBase]
  unfold readExpr
  split <;> rfl

/-- Nor does one around an expression that is written. -/
theorem core_writeExpr (o : RenderOptions) (c : BoundColumn) :
    (writeExpr o c).core = element .date c := by
  have hnullable : (nullableIf c.column.isNullable (writeBase o c)).core = element .date c := by
    rw [← core_writeBase o]
    unfold nullableIf
    split <;> rfl
  have hconverted : (convertedExpr o c).core = element .date c := by
    rw [← hnullable]
    unfold convertedExpr
    split <;> rfl
  have hcoalesced : (coalescedExpr o c).core = element .date c := by
    rw [← hconverted]
    unfold coalescedExpr
    split <;> rfl
  rw [← hcoalesced]
  unfold writeExpr
  split <;> rfl

variable {dates : Scalar} {c : BoundColumn} {name : String}

theorem element_eq_enum (h : element dates c = .enum name) :
    c.column.isEnum = true ∧ c.enumConstant = some name := by
  unfold element at h
  split at h
  · rename_i constant href
    rw [Expr.enum.inj h, enumReference] at href
    exact Option.ite_none_right_eq_some.1 href
  · unfold baseExpr at h
    split at h <;> first | contradiction | (split at h <;> contradiction)

theorem element_eq_verbatim (h : element dates c = .verbatim name) :
    c.column.kind = .json ∧ c.jsonSchemaName = some name := by
  unfold element at h
  split at h
  · contradiction
  · unfold baseExpr at h
    split at h <;> first | contradiction | skip
    rename_i hkind
    split at h
    · rename_i schema hschema
      exact ⟨hkind, hschema.trans (congrArg some (Expr.verbatim.inj h))⟩
    · contradiction

end Zod

open Zod

/-- The values of a constant are those of a column, and only the last is marked as last. -/
def EnumDefinition.Lists (d : EnumDefinition) (values : List String) : Prop :=
  d.values.map (·.value) = values ∧
    ∀ i v, d.values[i]? = some v → (v.isLast = true ↔ i + 1 = values.length)

/-- A column hook that hands back the schema to import and both expressions as it got them. -/
def KeepsExpressions (column : ColumnModel → Except String ColumnModel) : Prop :=
  ∀ base edited, column base = .ok edited → edited.jsonSchemaName = base.jsonSchemaName ∧
    edited.readType = base.readType ∧ edited.writeType = base.writeType

namespace ModelBuilder

variable (b : ModelBuilder)

/-- The expressions that read and write a column. -/
def expressions (m : ColumnModel) : List Expr :=
  [readExpr b.options m.toBoundColumn, writeExpr b.options m.toBoundColumn]

/-- The expressions of all columns refer to constants that list the values of the column and to
schemas that are imported, and the module declares these names. -/
structure ReferencesBound (model : TableModel) : Prop where
  rendered : ∀ m ∈ model.columns,
    [m.readType, m.writeType] = (b.expressions m).map (Expr.text b.profile)
  constants : ∀ m ∈ model.columns, ∀ e ∈ b.expressions m, ∀ name, e.core = .enum name →
    ∃ d ∈ model.enums, d.constantName = name ∧ d.Lists m.column.enumValues
  schemas : ∀ m ∈ model.columns, ∀ e ∈ b.expressions m, ∀ name, e.core = .verbatim name →
    model.jsonImportLocation.isSome = true ∧ name ∈ model.jsonImports.map (·.name)
  declared : ∀ m ∈ model.columns, ∀ e ∈ b.expressions m, ∀ name,
    e.core = .enum name ∨ e.core = .verbatim name → name ∈ model.valueNames b.profile

variable {b} {m : ColumnModel} {name : String}

theorem element_of_mem_expressions {e : Expr} (h : e ∈ b.expressions m) :
    ∃ dates, e.core = element dates m.toBoundColumn := by
  rcases List.mem_pair.1 h with rfl | rfl
  · exact ⟨_, core_readExpr b.options m.toBoundColumn⟩
  · exact ⟨_, core_writeExpr b.options m.toBoundColumn⟩

/-- A column settles with the schema and the expressions that follow from it. -/
theorem Settles.derived {column : ColumnModel → Except String ColumnModel} {table : String}
    {c : Column} (hkeeps : KeepsExpressions column) (h : b.Settles { column } table c m) :
    m.jsonSchemaName = b.jsonSchema? table m.column ∧
      m.readType = b.readType m.toBoundColumn ∧ m.writeType = b.writeType m.toBoundColumn := by
  obtain ⟨edited, hedited, rfl⟩ := h
  obtain ⟨hschema, hread, hwrite⟩ := hkeeps _ edited hedited
  simp [settle, hschema, hread, hwrite]

section Declared

variable {t : Table} {ms : List ColumnModel}

theorem exists_enumDefinition (hm : m ∈ ms) (henum : m.column.isEnum = true)
    (hconstant : m.enumConstant = some name) :
    ∃ d ∈ (b.tableModel t ms).enums, d.constantName = name ∧ d.Lists m.column.enumValues := by
  obtain ⟨d, hd, hname, hvalues⟩ : ∃ d, b.enumDefinition? t.name m = some d ∧
      d.constantName = name ∧
      d.values = (markLast m.column.enumValues).map fun v => ⟨v.1, v.2⟩ := by
    rw [enumDefinition?, if_pos henum, hconstant]
    exact ⟨_, rfl, rfl, rfl⟩
  refine ⟨d, List.mem_filterMap.2 ⟨m, hm, hd⟩, hname, ?_, fun i v hv => ?_⟩
  · rw [hvalues, List.map_map]
    exact map_fst_markLast m.column.enumValues
  · rw [hvalues, List.getElem?_map, getElem?_markLast, Option.map_map,
      Option.map_eq_some_iff] at hv
    obtain ⟨value, -, rfl⟩ := hv
    exact beq_iff_eq

theorem mem_jsonImports (hm : m ∈ ms) (hkind : m.column.kind = .json)
    (hschema : m.jsonSchemaName = some name) (hlocation : b.jsonImportLocation.isSome = true) :
    name ∈ (b.tableModel t ms).jsonImports.map (·.name) := by
  have hnames : (b.tableModel t ms).jsonImports.map (·.name) =
      ms.filterMap fun m => if m.column.kind = .json then m.jsonSchemaName else none := by
    show (b.jsonImports ms).map (·.name) = _
    rw [jsonImports, if_pos hlocation, List.map_map]
    exact map_fst_markLast _
  rw [hnames, List.mem_filterMap]
  exact ⟨m, hm, by rw [if_pos hkind, hschema]⟩

theorem constantName_mem_valueNames {model : TableModel} {d : EnumDefinition}
    (p : DialectProfile) (h : d ∈ model.enums) : d.constantName ∈ model.valueNames p := by
  have hmem : d.constantName ∈ model.enums.flatMap fun d => [d.constantName, d.schemaName] :=
    List.mem_flatMap.2 ⟨d, h, List.mem_cons_self⟩
  rw [TableModel.valueNames_eq]
  simp [hmem]

theorem import_mem_valueNames (p : DialectProfile)
    (h : name ∈ (b.tableModel t ms).jsonImports.map (·.name)) :
    name ∈ (b.tableModel t ms).valueNames p := by
  have hlocation : (b.tableModel t ms).jsonImportLocation = none →
      (b.tableModel t ms).jsonImports = [] := by
    intro hnone
    have hnone : b.jsonImportLocation = none := hnone
    show b.jsonImports ms = []
    rw [jsonImports, hnone]
    rfl
  rw [TableModel.valueNames_eq, TableModel.values_jsonStatements hlocation]
  simp only [List.mem_append, h, true_or]

end Declared

/-- With a column hook that does not touch the schema to import and the expressions, every name an
expression refers to is bound in the module. Only a refusal of the hook stops the model. -/
theorem build_references_bound (b : ModelBuilder)
    {column : ColumnModel → Except String ColumnModel} (hkeeps : KeepsExpressions column)
    (t : Table) :
    (∀ model, (b.build { column } t).outcome = .ok model → b.ReferencesBound model) ∧
      ∀ e, (b.build { column } t).outcome = .error e → ∃ c ∈ t.columns, ∃ detail,
        column (b.columnModel t.name c) = .error detail ∧ e = .hook detail := by
  refine ⟨fun model hbuilt => ?_, fun e => build_eq_error⟩
  obtain ⟨ms, hms, rfl⟩ := build_eq_ok_iff.1 hbuilt
  have hderived : ∀ m ∈ ms, m.jsonSchemaName = b.jsonSchema? t.name m.column ∧
      m.readType = b.readType m.toBoundColumn ∧ m.writeType = b.writeType m.toBoundColumn := by
    intro m hm
    obtain ⟨c, -, hsettles⟩ := exists_settles_of_mem hms hm
    exact hsettles.derived hkeeps
  have hconstants : ∀ m ∈ ms, ∀ e ∈ b.expressions m, ∀ name, e.core = .enum name →
      ∃ d ∈ (b.tableModel t ms).enums, d.constantName = name ∧ d.Lists m.column.enumValues := by
    intro m hm e he name hname
    obtain ⟨dates, hcore⟩ := element_of_mem_expressions he
    obtain ⟨henum, hconstant⟩ := element_eq_enum (hcore.symm.trans hname)
    exact exists_enumDefinition hm henum hconstant
  have hschemas : ∀ m ∈ ms, ∀ e ∈ b.expressions m, ∀ name, e.core = .verbatim name →
      b.jsonImportLocation.isSome = true ∧
        name ∈ (b.tableModel t ms).jsonImports.map (·.name) := by
    intro m hm e he name hname
    obtain ⟨dates, hcore⟩ := element_of_mem_expressions he
    obtain ⟨hkind, hschema⟩ := element_eq_verbatim (hcore.symm.trans hname)
    have hlocation : b.jsonImportLocation.isSome = true := by
      have hderived := (hderived m hm).1.symm.trans hschema
      exact (Option.ite_none_right_eq_some.1 hderived).1.2
    exact ⟨hlocation, mem_jsonImports hm hkind hschema hlocation⟩
  refine ⟨fun m hm => ?_, hconstants, hschemas, fun m hm e he name hname => ?_⟩
  · rw [(hderived m hm).2.1, (hderived m hm).2.2]
    rfl
  · rcases hname with hname | hname
    · obtain ⟨d, hd, rfl, -⟩ := hconstants m hm e he name hname
      exact constantName_mem_valueNames b.profile hd
    · exact import_mem_valueNames b.profile (hschemas m hm e he name hname).2

theorem build_references_bound_retyped :
    let b : ModelBuilder := ⟨{}, Dialect.zod4.profile, {}, some "./json"⟩
    let raw (name : String) : RawColumn :=
      ⟨name, "users", .table, "public", "text", false, none, none, none, [], [], 1⟩
    let t : Table := ⟨"public", "users", .table, [(raw "role").describe, (raw "meta").describe]⟩
    let column (m : ColumnModel) : Except String ColumnModel :=
      if m.column.name = "role" then
        .ok { m with
          column := { m.column with enumValues := ["admin", "guest"] }
          enumConstant := some "ROLES"
          propertyName := "kind" }
      else .ok { m with column := { m.column with kind := .json, isArray := true } }
    KeepsExpressions column ∧
      ∃ model, (b.build { column } t).outcome = .ok model ∧ b.ReferencesBound model := by
  intro b raw t column
  have hkeeps : KeepsExpressions column := by
    intro base edited hedited
    simp only [column] at hedited
    split at hedited
    · cases hedited
      exact ⟨rfl, rfl, rfl⟩
    · cases hedited
      exact ⟨rfl, rfl, rfl⟩
  refine ⟨hkeeps, ?_⟩
  have hok : (b.build { column } t).outcome.isOk = true := by decide +kernel
  cases hbuilt : (b.build { column } t).outcome with
  | ok model => exact ⟨model, rfl, (build_references_bound b hkeeps t).1 model hbuilt⟩
  | error e =>
    rw [hbuilt] at hok
    contradiction

end ModelBuilder

end ZodCatalog
