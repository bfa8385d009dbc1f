import Mathlib.Data.List.Nodup
import Mathlib.Data.List.Perm.Basic
import ZodCatalog.Catalog.Classification
import ZodCatalog.Proofs.IdentifierForms
import ZodCatalog.Proofs.ModuleStatements
import ZodCatalog.Proofs.PlainModels

/-! When a module declares no name twice. Its names are made from those of the table and the
columns by forms that forget separators and case, so that different columns can give one name.
Constants never meet schemas, and the schemas of a table never meet each other; the other ways in
which two names of a module can be equal are the conditions of `NamesApart`. -/

namespace ZodCatalog

open ModuleText

theorem nodup_map_congr {α β γ : Type} (l : List α) {f : α → β} {g : α → γ}
    (h : ∀ x y, f x = f y ↔ g x = g y) : (l.map f).Nodup ↔ (l.map g).Nodup := by
  simp only [List.nodup_iff_pairwise_ne, List.pairwise_map, ne_eq, h]

/-- The elements of two parts of a list have forms of their own exactly if no element is in both
parts and the elements of either have forms of their own. -/
theorem nodup_map_filter_append_iff {α β : Type} {p q : α → Bool} {f : α → β} {l : List α} :
    ((l.filter p ++ l.filter q).map f).Nodup ↔
      (∀ x ∈ l, ¬(p x = true ∧ q x = true)) ∧ ((l.filter fun x => p x || q x).map f).Nodup := by
  have hperm (hsingle : ∀ x ∈ l, ¬(p x = true ∧ q x = true)) :
      (l.filter p ++ l.filter q).Perm (l.filter fun x => p x || q x) := by
    have hleft : (l.filter fun x => p x || q x).filter p = l.filter p := by
      rw [List.filter_filter]
      exact List.filter_congr fun x _ => by cases p x <;> simp
    have hright : (l.filter fun x => p x || q x).filter (fun x => !p x) = l.filter q := by
      rw [List.filter_filter]
      refine List.filter_congr fun x hx => ?_
      have hx := hsingle x hx
      cases hp : p x <;> simp_all
    rw [← hleft, ← hright]
    exact List.filter_append_perm p _
  refine ⟨fun h => ?_, fun ⟨hsingle, h⟩ => ((hperm hsingle).map f).nodup_iff.2 h⟩
  have hsingle : ∀ x ∈ l, ¬(p x = true ∧ q x = true) := by
    rintro x hx ⟨hp, hq⟩
    rw [List.map_append, List.nodup_append] at h
    exact h.2.2 _ (List.mem_map_of_mem (List.mem_filter.2 ⟨hx, hp⟩)) _
      (List.mem_map_of_mem (List.mem_filter.2 ⟨hx, hq⟩)) rfl
  exact ⟨hsingle, ((hperm hsingle).map f).nodup_iff.1 h⟩

namespace TableModel

/-- The names that a module binds to values, in the order of its statements. -/
def valueNames (p : DialectProfile) (m : TableModel) : List String :=
  (statements p m).flatMap Statement.values

/-- The names that a module declares as types, in the order of its statements. -/
def typeNames (p : DialectProfile) (m : TableModel) : List String :=
  (statements p m).flatMap Statement.types

theorem valueNames_eq (p : DialectProfile) (m : TableModel) :
    m.valueNames p = (jsonStatements m).flatMap Statement.values ++
      m.enums.flatMap (fun d => [d.constantName, d.schemaName]) ++ [m.names.selectSchema] ++
      if m.supportsWrite then [m.names.insertSchema, m.names.updateSchema] else [] := by
  have henums : (m.enums.flatMap enumStatements).flatMap Statement.values =
      m.enums.flatMap (fun d => [d.constantName, d.schemaName]) := List.flatMap_assoc
  cases hwrite : m.supportsWrite <;>
    simp [valueNames, statements, hwrite, henums, selectStatements, writeStatements,
      Statement.values]

theorem flatMap_jsonStatements_eq_nil (m : TableModel) {f : Statement → List String}
    (himports : ∀ names location, f (.imports names location) = []) :
    (jsonStatements m).flatMap f = [] := by
  unfold jsonStatements
  cases m.jsonImportLocation with
  | none => rfl
  | some location => cases m.jsonImports.isEmpty <;> simp [himports]

theorem typeNames_eq (p : DialectProfile) (m : TableModel) :
    m.typeNames p = m.enums.map (·.typeName) ++ [m.names.selectType] ++
      if m.supportsWrite then [m.names.insertType, m.names.updateType] else [] := by
  have hjson : (jsonStatements m).flatMap Statement.types = [] :=
    m.flatMap_jsonStatements_eq_nil fun _ _ => rfl
  have henums : (m.enums.flatMap enumStatements).flatMap Statement.types =
      m.enums.map (·.typeName) := by
    rw [List.flatMap_assoc, List.map_eq_flatMap]
    rfl
  cases hwrite : m.supportsWrite <;>
    simp [typeNames, statements, hwrite, hjson, henums, selectStatements, writeStatements,
      Statement.types]

theorem values_jsonStatements {m : TableModel}
    (h : m.jsonImportLocation = none → m.jsonImports = []) :
    (jsonStatements m).flatMap Statement.values = m.jsonImports.map (·.name) := by
  unfold jsonStatements
  cases hlocation : m.jsonImportLocation with
  | none => simp [h hlocation]
  | some location => cases m.jsonImports <;> simp [Statement.values]

end TableModel

namespace Table

variable (t : Table)

def enumColumns : List Column := t.columns.filter (·.isEnum)

/-- The operations that the module of a table has schemas for. -/
def operations : List Operation :=
  .select :: if t.columns.any (·.isWritable) then [.insert, .update] else []

theorem operations_nodup : t.operations.Nodup := by
  unfold operations
  cases t.columns.any (·.isWritable) <;> decide

end Table

namespace ModelBuilder

variable (b : ModelBuilder) (t : Table)

/-- A column whose schema is imported. -/
def isImported (c : Column) : Bool := c.kind == .json && b.jsonImportLocation.isSome

def importedColumns : List Column := t.columns.filter b.isImported

theorem importedColumns_of_no_location (h : b.jsonImportLocation = none) :
    b.importedColumns t = [] := by
  simp [importedColumns, isImported, h]

theorem filterMap_jsonSchema? : t.columns.filterMap (b.jsonSchema? t.name) =
    (b.importedColumns t).map fun c => b.naming.jsonSchema t.name c.name := by
  rw [importedColumns, ← List.filterMap_eq_map, List.filterMap_filter]
  exact List.filterMap_congr fun c _ => by simp [jsonSchema?, isImported]

theorem jsonImports_plainModel : (b.plainModel t).jsonImports.map (·.name) =
    (b.importedColumns t).map fun c => b.naming.jsonSchema t.name c.name := by
  have hnames : (t.columns.map (b.columnModel t.name)).filterMap
      (fun m => if m.column.kind = .json then m.jsonSchemaName else none) =
        t.columns.filterMap (b.jsonSchema? t.name) := by
    rw [List.filterMap_map]
    refine List.filterMap_congr fun c _ => ?_
    by_cases hkind : c.kind = .json <;> simp [columnModel, jsonSchema?, hkind]
  show (b.jsonImports (t.columns.map (b.columnModel t.name))).map (·.name) = _
  rw [jsonImports, hnames, filterMap_jsonSchema?]
  cases hlocation : b.jsonImportLocation with
  | none => simp [importedColumns_of_no_location b t hlocation]
  | some location =>
    rw [if_pos Option.isSome_some, List.map_map]
    exact map_fst_markLast _

theorem values_jsonStatements_plainModel :
    (jsonStatements (b.plainModel t)).flatMap Statement.values =
      (b.importedColumns t).map fun c => b.naming.jsonSchema t.name c.name := by
  rw [TableModel.values_jsonStatements, jsonImports_plainModel]
  intro hlocation
  have himports := b.jsonImports_plainModel t
  rw [importedColumns_of_no_location b t hlocation] at himports
  exact List.map_eq_nil_iff.1 himports

theorem enums_plainModel : (b.plainModel t).enums = t.enumColumns.map fun c => {
    columnName := c.name
    constantName := b.naming.enumConstant t.name c.name
    schemaName := b.naming.enumSchema t.name c.name
    typeName := b.naming.enumType t.name c.name
    values := (markLast c.enumValues).map fun (v, isLast) => ⟨v, isLast⟩ } := by
  show (t.columns.map (b.columnModel t.name)).filterMap (b.enumDefinition? t.name) = _
  rw [List.filterMap_map, Table.enumColumns, ← List.filterMap_eq_map, List.filterMap_filter]
  refine List.filterMap_congr fun c _ => ?_
  cases henum : c.isEnum <;> simp [columnModel, enumDefinition?, enumConstant?, henum]

theorem supportsWrite_plainModel :
    (b.plainModel t).supportsWrite = t.columns.any (·.isWritable) := by
  show (!((t.columns.map (b.columnModel t.name)).filter (·.column.isWritable)).isEmpty) = _
  induction t.columns with
  | nil => rfl
  | cons c cs ih =>
    by_cases hc : c.isWritable <;> simp_all [columnModel]

theorem schemaNames_plainModel : [(b.plainModel t).names.selectSchema] ++
    (if (b.plainModel t).supportsWrite then
      [(b.plainModel t).names.insertSchema, (b.plainModel t).names.updateSchema] else []) =
    t.operations.map fun op => b.naming.tableSchema op t.name t.kind := by
  rw [supportsWrite_plainModel, Table.operations]
  cases t.columns.any (·.isWritable) <;> rfl

theorem valueNames_plainModel (p : DialectProfile) : ((b.plainModel t).valueNames p).Perm
    ((b.importedColumns t ++ t.enumColumns).map (fun c => b.naming.enumSchema t.name c.name) ++
      t.enumColumns.map (fun c => b.naming.enumConstant t.name c.name) ++
      t.operations.map fun op => b.naming.tableSchema op t.name t.kind) := by
  have henums : ((b.plainModel t).enums.flatMap fun d => [d.constantName, d.schemaName]).Perm
      (t.enumColumns.map (fun c => b.naming.enumSchema t.name c.name) ++
        t.enumColumns.map fun c => b.naming.enumConstant t.name c.name) := by
    rw [enums_plainModel, List.flatMap_map]
    refine (List.map_append_flatMap_perm t.enumColumns _ _).symm.trans ?_
    rw [← List.map_eq_flatMap]
    exact List.perm_append_comm
  have himports : (jsonStatements (b.plainModel t)).flatMap Statement.values =
      (b.importedColumns t).map fun c => b.naming.enumSchema t.name c.name :=
    b.values_jsonStatements_plainModel t
  rw [TableModel.valueNames_eq, List.append_assoc _ [_], schemaNames_plainModel, himports]
  simpa only [List.map_append, List.append_assoc] using (henums.append_left _).append_right _

theorem typeNames_plainModel (p : DialectProfile) : (b.plainModel t).typeNames p =
    t.enumColumns.map (fun c => b.naming.enumType t.name c.name) ++
      t.operations.map (fun op => b.naming.recordType op t.name) := by
  rw [TableModel.typeNames_eq, enums_plainModel, supportsWrite_plainModel, Table.operations,
    List.map_map, List.append_assoc]
  cases t.columns.any (·.isWritable) <;> rfl

variable {b t}

theorem valueNames_nodup_iff (h : b.naming.objectCasing = .pascal) (p : DialectProfile) :
    ((b.plainModel t).valueNames p).Nodup ↔
      ((b.importedColumns t ++ t.enumColumns).map fun c => Casing.pascal.apply c.name).Nodup ∧
      (t.enumColumns.map fun c => shouting (pluralize c.name).toList).Nodup ∧
      ∀ c ∈ b.importedColumns t ++ t.enumColumns, ∀ op ∈ t.operations,
        Casing.pascal.apply (b.naming.entity t.name) ++ Casing.pascal.apply c.name ≠
          Casing.pascal.apply op.word ++
            (Casing.pascal.apply t.name ++ Casing.pascal.apply t.kind.word) := by
  have hschemas : ((b.importedColumns t ++ t.enumColumns).map fun c =>
      b.naming.enumSchema t.name c.name).Nodup ↔ _ :=
    nodup_map_congr _ fun _ _ => Naming.enumSchema_inj h
  have hconstants : (t.enumColumns.map fun c => b.naming.enumConstant t.name c.name).Nodup ↔ _ :=
    nodup_map_congr _ fun _ _ => Naming.enumConstant_inj
  have htables : (t.operations.map fun op => b.naming.tableSchema op t.name t.kind).Nodup :=
    t.operations_nodup.map fun _ _ => Naming.tableSchema_inj h
  rw [(b.valueNames_plainModel t p).nodup_iff, List.nodup_append, List.nodup_append, hschemas,
    hconstants]
  -- Only the schemas of columns and of the table can meet, as no constant ends like a schema.
  constructor
  · rintro ⟨⟨hcolumns, hplurals, -⟩, -, hapart⟩
    refine ⟨hcolumns, hplurals, fun c hc op hop => ?_⟩
    exact mt (Naming.enumSchema_eq_tableSchema_iff h).2
      (hapart _ (List.mem_append_left _ (List.mem_map_of_mem hc)) _ (List.mem_map_of_mem hop))
  · rintro ⟨hcolumns, hplurals, hapart⟩
    have hconstant {c : Column} {s : String}
        (hs : b.naming.enumConstant t.name c.name = s ++ "Schema") : False :=
      Naming.enumConstant_ne_append_schema s hs
    refine ⟨⟨hcolumns, hplurals, ?_⟩, htables, ?_⟩
    · simp only [List.forall_mem_map]
      exact fun c _ d _ heq => hconstant (heq.symm.trans (Naming.enumSchema_pascal h))
    · rw [List.forall_mem_append]
      simp only [List.forall_mem_map]
      exact ⟨fun c hc op hop => mt (Naming.enumSchema_eq_tableSchema_iff h).1 (hapart c hc op hop),
        fun c _ op _ heq => hconstant (heq.trans (Naming.tableSchema_pascal h))⟩

theorem typeNames_nodup_iff (h : b.naming.objectCasing = .pascal) (p : DialectProfile) :
    ((b.plainModel t).typeNames p).Nodup ↔
      (t.enumColumns.map fun c => Casing.pascal.apply c.name).Nodup ∧
      ∀ c ∈ t.enumColumns, ∀ op ∈ t.operations,
        Casing.pascal.apply (b.naming.entity t.name) ++ Casing.pascal.apply c.name ≠
          Casing.pascal.apply op.word ++ Casing.pascal.apply (b.naming.entity t.name) := by
  have htypes : (t.enumColumns.map fun c => b.naming.enumType t.name c.name).Nodup ↔ _ :=
    nodup_map_congr _ fun _ _ => Naming.enumType_inj h
  have hrecords : (t.operations.map fun op => b.naming.recordType op t.name).Nodup :=
    t.operations_nodup.map fun _ _ => Naming.recordType_inj h
  rw [b.typeNames_plainModel t p, List.nodup_append, htypes, and_iff_right hrecords]
  simp only [List.forall_mem_map, ne_eq, Naming.enumType_eq_recordType_iff h]

variable (b t) in
/-- What keeps the names of a module apart. Names of columns are compared in the forms that
identifiers give them. -/
structure NamesApart : Prop where
  /-- For one column, the schema to import and the one declared would have one name. -/
  single : ∀ c ∈ t.columns, ¬(b.isImported c = true ∧ c.isEnum = true)
  /-- Columns with a schema differ in more than separators and case. -/
  columns : ((t.columns.filter fun c => b.isImported c || c.isEnum).map
    fun c => Casing.pascal.apply c.name).Nodup
  /-- So do the plurals that constants are named by. -/
  plurals : (t.enumColumns.map fun c => shouting (pluralize c.name).toList).Nodup
  /-- No schema of a column has the name of a schema of the table. -/
  schemas : ∀ c ∈ b.importedColumns t ++ t.enumColumns, ∀ op ∈ t.operations,
    Casing.pascal.apply (b.naming.entity t.name) ++ Casing.pascal.apply c.name ≠
      Casing.pascal.apply op.word ++ (Casing.pascal.apply t.name ++ Casing.pascal.apply t.kind.word)
  /-- No type of a column has the name of a type of the table. -/
  records : ∀ c ∈ t.enumColumns, ∀ op ∈ t.operations,
    Casing.pascal.apply (b.naming.entity t.name) ++ Casing.pascal.apply c.name ≠
      Casing.pascal.apply op.word ++ Casing.pascal.apply (b.naming.entity t.name)

theorem namesApart_iff (h : b.naming.objectCasing = .pascal) (p : DialectProfile) :
    b.NamesApart t ↔
      ((b.plainModel t).valueNames p).Nodup ∧ ((b.plainModel t).typeNames p).Nodup := by
  have hcolumns := nodup_map_filter_append_iff (p := b.isImported) (q := Column.isEnum)
    (f := fun c => Casing.pascal.apply c.name) (l := t.columns)
  rw [valueNames_nodup_iff h, typeNames_nodup_iff h, importedColumns, Table.enumColumns, hcolumns]
  constructor
  · rintro ⟨hsingle, hforms, hplurals, hschemas, hrecords⟩
    have hall := hcolumns.2 ⟨hsingle, hforms⟩
    rw [List.map_append] at hall
    exact ⟨⟨⟨hsingle, hforms⟩, hplurals, hschemas⟩, hall.of_append_right, hrecords⟩
  · rintro ⟨⟨⟨hsingle, hforms⟩, hplurals, hschemas⟩, -, hrecords⟩
    exact ⟨hsingle, hforms, hplurals, hschemas, hrecords⟩

/-- Under any import location, building the model of a table succeeds, and the module written for
it declares every value and every type once exactly if the names of the table are apart. -/
theorem build_declares_once_iff (h : b.naming.objectCasing = .pascal) (t : Table) :
    ∃ m, (b.build {} t).outcome = .ok m ∧
      (m.emit b.profile).content = preamble m ++ b.profile.importLine ++ "\n" ++
        statementText (statements b.profile m) ∧
      ((m.valueNames b.profile).Nodup ∧ (m.typeNames b.profile).Nodup ↔ b.NamesApart t) :=
  ⟨b.plainModel t, b.build_outcome t, content_eq b.profile _, (namesApart_iff h b.profile).symm⟩

theorem build_declares_once_users :
    let b : ModelBuilder := ⟨{}, Dialect.zod4.profile, {}, some "./json"⟩
    let raw (name dataType : String) (labels : List String) : RawColumn :=
      ⟨name, "users", .table, "public", dataType, false, none, none, none, [], labels, 1⟩
    let t : Table := ⟨"public", "users", .table,
      [(raw "id" "serial" []).describe, (raw "meta" "jsonb" []).describe,
        (raw "status" "user_status" ["new", "old"]).describe]⟩
    ∃ m, (b.build {} t).outcome = .ok m ∧
      (m.valueNames b.profile).Nodup ∧ (m.typeNames b.profile).Nodup := by
  intro b raw t
  have hapart : b.NamesApart t :=
    ⟨by decide +kernel, by decide +kernel, by decide +kernel, by decide +kernel, by decide +kernel⟩
  obtain ⟨m, hbuilt, -, honce⟩ := build_declares_once_iff (b := b) rfl t
  exact ⟨m, hbuilt, honce.2 hapart⟩

/-- Columns of different names are not enough: a column can have a schema to import and one of its
own, and two columns can differ in case alone. -/
theorem build_declares_twice :
    let b : ModelBuilder := ⟨{}, Dialect.zod4.profile, {}, some "./json"⟩
    let raw (name dataType : String) (checks labels : List String) : RawColumn :=
      ⟨name, "users", .table, "public", dataType, false, none, none, none, checks, labels, 1⟩
    let checked : Table := ⟨"public", "users", .table,
      [(raw "meta" "jsonb" ["(meta = ANY (ARRAY['1'::jsonb]))"] []).describe]⟩
    let recased : Table := ⟨"public", "users", .table,
      [(raw "user_id" "user_key" [] ["a"]).describe, (raw "userId" "user_key" [] ["a"]).describe]⟩
    ∀ t ∈ [checked, recased], (t.columns.map (·.name)).Nodup ∧
      ∃ m, (b.build {} t).outcome = .ok m ∧ ¬(m.valueNames b.profile).Nodup := by
  intro b raw checked recased t ht
  suffices hnames : (t.columns.map (·.name)).Nodup ∧
      ¬((b.plainModel t).valueNames b.profile).Nodup from
    ⟨hnames.1, b.plainModel t, b.build_outcome t, hnames.2⟩
  revert t
  decide +kernel

end ModelBuilder

end ZodCatalog
