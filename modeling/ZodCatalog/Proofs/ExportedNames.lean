import ZodCatalog.Proofs.DeclaredNames
import ZodCatalog.Proofs.KeptModules

/-! What the modules of one run export beside each other. The index exports all of them, and the
names of a module depend on its table alone: records and the columns with values are named by the
singular of the table, schemas by the table and its kind. Two modules share a name exactly if two
of these forms are equal, whatever their file names are. -/

namespace ZodCatalog

open ModuleText

/-- The names of the constants that a statement exports. -/
def Statement.constants : Statement → List String
  | value name _ => [name]
  | imports .. | type .. | gap => []

/-- The names of the constants that a module exports, in the order of its statements. -/
def TableModel.constantNames (p : DialectProfile) (m : TableModel) : List String :=
  (statements p m).flatMap Statement.constants

theorem TableModel.constantNames_eq (p : DialectProfile) (m : TableModel) :
    m.constantNames p = m.enums.flatMap (fun d => [d.constantName, d.schemaName]) ++
      [m.names.selectSchema] ++
      if m.supportsWrite then [m.names.insertSchema, m.names.updateSchema] else [] := by
  have hjson : (jsonStatements m).flatMap Statement.constants = [] :=
    m.flatMap_jsonStatements_eq_nil fun _ _ => rfl
  have henums : (m.enums.flatMap enumStatements).flatMap Statement.constants =
      m.enums.flatMap fun d => [d.constantName, d.schemaName] := by
    rw [List.flatMap_assoc]
    rfl
  cases hwrite : m.supportsWrite <;>
    simp [constantNames, statements, hwrite, hjson, henums, selectStatements, writeStatements,
      Statement.constants]

section Forms

/-- The form of an operation in the names of schemas and records. -/
def Operation.form (op : Operation) : String := Casing.pascal.apply op.word

/-- The form of a table in the names of its schemas. -/
def Table.relationForm (t : Table) : String :=
  Casing.pascal.apply t.name ++ Casing.pascal.apply t.kind.word

/-- Operations have forms of one length, so that what follows them can be told. -/
theorem Operation.form_append_inj {op op' : Operation} {x y : String} :
    op.form ++ x = op'.form ++ y ↔ op = op' ∧ x = y := by
  have hlength (op : Operation) : op.form.toList.length = 6 := by cases op <;> decide
  constructor
  · intro h
    have hlists : op.form.toList ++ x.toList = op'.form.toList ++ y.toList := by
      rw [← String.toList_append, ← String.toList_append, h]
    obtain ⟨hform, hrest⟩ := List.append_inj hlists ((hlength op).trans (hlength op').symm)
    exact ⟨Naming.pascal_word_inj (String.toList_inj.1 hform), String.toList_inj.1 hrest⟩
  · rintro ⟨rfl, rfl⟩
    rfl

theorem Operation.exists_isLower_form (op : Operation) :
    ∃ c ∈ op.form.toList, c.isLower = true := by
  cases op
  · exact ⟨'e', by decide, rfl⟩
  · exact ⟨'n', by decide, rfl⟩
  · exact ⟨'p', by decide, rfl⟩

theorem Table.select_mem_operations (t : Table) : .select ∈ t.operations := List.mem_cons_self

end Forms

namespace ModelBuilder

variable (b : ModelBuilder)

/-- The form of a table in the names of its records and of its columns. -/
def entityForm (t : Table) : String := Casing.pascal.apply (b.naming.entity t.name)

def columnForm (t : Table) (c : Column) : String := b.entityForm t ++ Casing.pascal.apply c.name

/-- No column with values is named like a schema or a record of the other table. -/
def ColumnsClear (t u : Table) : Prop :=
  ∀ c ∈ t.enumColumns, ∀ op ∈ u.operations,
    b.columnForm t c ≠ op.form ++ u.relationForm ∧ b.columnForm t c ≠ op.form ++ b.entityForm u

/-- What keeps the constants of two modules apart, and their types. -/
structure ExportsApart (t u : Table) : Prop where
  records : b.entityForm t ≠ b.entityForm u
  schemas : t.relationForm ≠ u.relationForm
  columns : ∀ c ∈ t.enumColumns, ∀ d ∈ u.enumColumns, b.columnForm t c ≠ b.columnForm u d
  plurals : ∀ c ∈ t.enumColumns, ∀ d ∈ u.enumColumns,
    b.naming.enumConstant t.name c.name ≠ b.naming.enumConstant u.name d.name
  left : b.ColumnsClear t u
  right : b.ColumnsClear u t

/-- What keeps the constants of one module apart from the types of the other. -/
structure KindsApart (t u : Table) : Prop where
  records : t.relationForm ++ "Schema" ≠ b.entityForm u
  schemas : ∀ op ∈ t.operations, ∀ d ∈ u.enumColumns,
    op.form ++ t.relationForm ++ "Schema" ≠ b.columnForm u d
  columns : ∀ c ∈ t.enumColumns, ∀ op ∈ u.operations,
    b.columnForm t c ++ "Schema" ≠ op.form ++ b.entityForm u
  types : ∀ c ∈ t.enumColumns, ∀ d ∈ u.enumColumns,
    b.columnForm t c ++ "Schema" ≠ b.columnForm u d
  plurals : ∀ c ∈ t.enumColumns, ∀ d ∈ u.enumColumns,
    b.naming.enumConstant t.name c.name ≠ b.columnForm u d

section Names

variable {b} {t u : Table} {p : DialectProfile} {x : String}

theorem mem_constantNames_plainModel (h : b.naming.objectCasing = .pascal) :
    x ∈ (b.plainModel t).constantNames p ↔
      (∃ c ∈ t.enumColumns, x = b.naming.enumConstant t.name c.name) ∨
      (∃ c ∈ t.enumColumns, x = b.columnForm t c ++ "Schema") ∨
      ∃ op ∈ t.operations, x = op.form ++ t.relationForm ++ "Schema" := by
  have hcolumn (c : Column) :
      b.naming.enumSchema t.name c.name = b.columnForm t c ++ "Schema" := Naming.enumSchema_pascal h
  have htable (op : Operation) : b.naming.tableSchema op t.name t.kind =
      op.form ++ t.relationForm ++ "Schema" := Naming.tableSchema_pascal h
  rw [TableModel.constantNames_eq, List.append_assoc, schemaNames_plainModel,
    enums_plainModel, List.flatMap_map, List.mem_append, List.mem_flatMap, List.mem_map]
  simp only [hcolumn, htable, List.mem_pair, and_or_left, exists_or, or_assoc, eq_comm (a := x)]

theorem mem_typeNames_plainModel (h : b.naming.objectCasing = .pascal) :
    x ∈ (b.plainModel t).typeNames p ↔
      (∃ c ∈ t.enumColumns, x = b.columnForm t c) ∨
      ∃ op ∈ t.operations, x = op.form ++ b.entityForm t := by
  have hcolumn (c : Column) : b.naming.enumType t.name c.name = b.columnForm t c :=
    Naming.enumType_pascal h
  have hrecord (op : Operation) : b.naming.recordType op t.name = op.form ++ b.entityForm t :=
    Naming.recordType_pascal h
  rw [typeNames_plainModel, List.mem_append, List.mem_map, List.mem_map]
  simp only [hcolumn, hrecord, eq_comm (a := x)]

/-- Names of schemas and of records begin with an operation, and every table is selected from. -/
theorem operations_append_ne_iff (t u : Table) {s r : String} :
    (∀ op ∈ t.operations, ∀ op' ∈ u.operations, op.form ++ s ≠ op'.form ++ r) ↔ s ≠ r := by
  constructor
  · intro hne heq
    exact hne _ t.select_mem_operations _ u.select_mem_operations (heq ▸ rfl)
  · intro hne op _ op' _ heq
    exact hne (Operation.form_append_inj.1 heq).2

theorem disjoint_constantNames_iff (h : b.naming.objectCasing = .pascal) :
    ((b.plainModel t).constantNames p).Disjoint ((b.plainModel u).constantNames p) ↔
      t.relationForm ≠ u.relationForm ∧
      (∀ c ∈ t.enumColumns, ∀ d ∈ u.enumColumns, b.columnForm t c ≠ b.columnForm u d) ∧
      (∀ c ∈ t.enumColumns, ∀ d ∈ u.enumColumns,
        b.naming.enumConstant t.name c.name ≠ b.naming.enumConstant u.name d.name) ∧
      (∀ c ∈ t.enumColumns, ∀ op ∈ u.operations, b.columnForm t c ≠ op.form ++ u.relationForm) ∧
      ∀ c ∈ u.enumColumns, ∀ op ∈ t.operations, b.columnForm u c ≠ op.form ++ t.relationForm := by
  have hschema {s r : String} : s ++ "Schema" = r ++ "Schema" ↔ s = r := String.append_left_inj _
  rw [List.disjoint_left]
  simp only [mem_constantNames_plainModel h]
  constructor
  · intro hdisjoint
    refine ⟨(operations_append_ne_iff t u).1 ?_, ?_, ?_, ?_, ?_⟩
    · intro op hop op' hop' heq
      exact hdisjoint (.inr (.inr ⟨op, hop, rfl⟩)) (.inr (.inr ⟨op', hop', hschema.2 heq⟩))
    · intro c hc d hd heq
      exact hdisjoint (.inr (.inl ⟨c, hc, rfl⟩)) (.inr (.inl ⟨d, hd, hschema.2 heq⟩))
    · intro c hc d hd heq
      exact hdisjoint (.inl ⟨c, hc, rfl⟩) (.inl ⟨d, hd, heq⟩)
    · intro c hc op hop heq
      exact hdisjoint (.inr (.inl ⟨c, hc, rfl⟩)) (.inr (.inr ⟨op, hop, hschema.2 heq⟩))
    · intro c hc op hop heq
      exact hdisjoint (.inr (.inr ⟨op, hop, rfl⟩)) (.inr (.inl ⟨c, hc, hschema.2 heq.symm⟩))
  · rintro ⟨hrelations, hcolumns, hplurals, hleft, hright⟩ x hx hx'
    -- A constant is never a schema, and schemas are compared without their ending.
    rcases hx with ⟨c, hc, rfl⟩ | ⟨c, hc, rfl⟩ | ⟨op, hop, rfl⟩
    · rcases hx' with ⟨d, hd, heq⟩ | ⟨d, hd, heq⟩ | ⟨op', hop', heq⟩
      · exact hplurals c hc d hd heq
      · exact Naming.enumConstant_ne_append_schema _ heq
      · exact Naming.enumConstant_ne_append_schema _ heq
    · rcases hx' with ⟨d, hd, heq⟩ | ⟨d, hd, heq⟩ | ⟨op', hop', heq⟩
      · exact Naming.enumConstant_ne_append_schema _ heq.symm
      · exact hcolumns c hc d hd (hschema.1 heq)
      · exact hleft c hc op' hop' (hschema.1 heq)
    · rcases hx' with ⟨d, hd, heq⟩ | ⟨d, hd, heq⟩ | ⟨op', hop', heq⟩
      · exact Naming.enumConstant_ne_append_schema _ heq.symm
      · exact hright d hd op hop (hschema.1 heq).symm
      · exact (operations_append_ne_iff t u).2 hrelations op hop op' hop' (hschema.1 heq)

theorem disjoint_typeNames_iff (h : b.naming.objectCasing = .pascal) :
    ((b.plainModel t).typeNames p).Disjoint ((b.plainModel u).typeNames p) ↔
      b.entityForm t ≠ b.entityForm u ∧
      (∀ c ∈ t.enumColumns, ∀ d ∈ u.enumColumns, b.columnForm t c ≠ b.columnForm u d) ∧
      (∀ c ∈ t.enumColumns, ∀ op ∈ u.operations, b.columnForm t c ≠ op.form ++ b.entityForm u) ∧
      ∀ c ∈ u.enumColumns, ∀ op ∈ t.operations, b.columnForm u c ≠ op.form ++ b.entityForm t := by
  rw [List.disjoint_left]
  simp only [mem_typeNames_plainModel h]
  constructor
  · intro hdisjoint
    refine ⟨(operations_append_ne_iff t u).1 ?_, ?_, ?_, ?_⟩
    · intro op hop op' hop' heq
      exact hdisjoint (.inr ⟨op, hop, rfl⟩) (.inr ⟨op', hop', heq⟩)
    · intro c hc d hd heq
      exact hdisjoint (.inl ⟨c, hc, rfl⟩) (.inl ⟨d, hd, heq⟩)
    · intro c hc op hop heq
      exact hdisjoint (.inl ⟨c, hc, rfl⟩) (.inr ⟨op, hop, heq⟩)
    · intro c hc op hop heq
      exact hdisjoint (.inr ⟨op, hop, rfl⟩) (.inl ⟨c, hc, heq.symm⟩)
  · rintro ⟨hentities, hcolumns, hleft, hright⟩ x hx hx'
    rcases hx with ⟨c, hc, rfl⟩ | ⟨op, hop, rfl⟩
    · rcases hx' with ⟨d, hd, heq⟩ | ⟨op', hop', heq⟩
      · exact hcolumns c hc d hd heq
      · exact hleft c hc op' hop' heq
    · rcases hx' with ⟨d, hd, heq⟩ | ⟨op', hop', heq⟩
      · exact hright d hd op hop heq.symm
      · exact (operations_append_ne_iff t u).2 hentities op hop op' hop' heq

theorem exportsApart_iff (h : b.naming.objectCasing = .pascal) (p : DialectProfile) :
    b.ExportsApart t u ↔
      ((b.plainModel t).constantNames p).Disjoint ((b.plainModel u).constantNames p) ∧
        ((b.plainModel t).typeNames p).Disjoint ((b.plainModel u).typeNames p) := by
  rw [disjoint_constantNames_iff h, disjoint_typeNames_iff h]
  constructor
  · rintro ⟨hrecords, hschemas, hcolumns, hplurals, hleft, hright⟩
    exact ⟨⟨hschemas, hcolumns, hplurals, fun c hc op hop => (hleft c hc op hop).1,
        fun c hc op hop => (hright c hc op hop).1⟩,
      hrecords, hcolumns, fun c hc op hop => (hleft c hc op hop).2,
        fun c hc op hop => (hright c hc op hop).2⟩
  · rintro ⟨⟨hschemas, hcolumns, hplurals, hleft, hright⟩, hrecords, -, hleft', hright'⟩
    exact ⟨hrecords, hschemas, hcolumns, hplurals,
      fun c hc op hop => ⟨hleft c hc op hop, hleft' c hc op hop⟩,
      fun c hc op hop => ⟨hright c hc op hop, hright' c hc op hop⟩⟩

/-- A record is named by an operation, and constants have no small letters. -/
theorem enumConstant_ne_form_append (c : Column) (op : Operation) (s : String) :
    b.naming.enumConstant t.name c.name ≠ op.form ++ s := by
  intro heq
  obtain ⟨letter, hletter, hlower⟩ := op.exists_isLower_form
  have hmem : letter ∈ (b.naming.enumConstant t.name c.name).toList := by
    rw [heq, String.toList_append]
    exact List.mem_append_left _ hletter
  rw [Naming.enumConstant, String.toList_ofList] at hmem
  exact Bool.false_ne_true ((isLower_of_mem_shouting hmem).symm.trans hlower)

theorem kindsApart_iff (h : b.naming.objectCasing = .pascal) (p : DialectProfile) :
    b.KindsApart t u ↔
      ((b.plainModel t).constantNames p).Disjoint ((b.plainModel u).typeNames p) := by
  have hrecords {op op' : Operation} :
      op.form ++ t.relationForm ++ "Schema" = op'.form ++ b.entityForm u →
        t.relationForm ++ "Schema" = b.entityForm u := by
    intro heq
    rw [String.append_assoc] at heq
    exact (Operation.form_append_inj.1 heq).2
  rw [List.disjoint_left]
  simp only [mem_constantNames_plainModel h, mem_typeNames_plainModel h]
  -- Three forms of constants against two of types; one of the six pairs can never meet.
  constructor
  · rintro ⟨hrelation, hschemas, hcolumns, htypes, hplurals⟩ x hx hx'
    rcases hx with ⟨c, hc, rfl⟩ | ⟨c, hc, rfl⟩ | ⟨op, hop, rfl⟩
    · rcases hx' with ⟨d, hd, heq⟩ | ⟨op', hop', heq⟩
      · exact hplurals c hc d hd heq
      · exact enumConstant_ne_form_append c op' _ heq
    · rcases hx' with ⟨d, hd, heq⟩ | ⟨op', hop', heq⟩
      · exact htypes c hc d hd heq
      · exact hcolumns c hc op' hop' heq
    · rcases hx' with ⟨d, hd, heq⟩ | ⟨op', hop', heq⟩
      · exact hschemas op hop d hd heq
      · exact hrelation (hrecords heq)
  · intro hdisjoint
    refine ⟨fun heq => ?_, ?_, ?_, ?_, ?_⟩
    · refine hdisjoint (.inr (.inr ⟨_, t.select_mem_operations, rfl⟩))
        (.inr ⟨_, u.select_mem_operations, ?_⟩)
      rw [String.append_assoc, heq]
    · intro op hop d hd heq
      exact hdisjoint (.inr (.inr ⟨op, hop, rfl⟩)) (.inl ⟨d, hd, heq⟩)
    · intro c hc op hop heq
      exact hdisjoint (.inr (.inl ⟨c, hc, rfl⟩)) (.inr ⟨op, hop, heq⟩)
    · intro c hc d hd heq
      exact hdisjoint (.inr (.inl ⟨c, hc, rfl⟩)) (.inl ⟨d, hd, heq⟩)
    · intro c hc d hd heq
      exact hdisjoint (.inl ⟨c, hc, rfl⟩) (.inl ⟨d, hd, heq⟩)

end Names

end ModelBuilder

namespace Generator

variable {σ : Type} {config : GeneratorConfig} {source : SchemaSource} {catalog : CatalogHooks}
  {writer : Writer σ} {schema : Schema} {s : σ} {report : GenerationReport}

/-- Under Pascal case, a run that succeeds without model hooks writes the modules of all tables and
an index of them, and no name is exported by two of them exactly if the forms of their tables are
apart: no constant and no type, and no constant of one as a type of another. -/
theorem run_exports_apart_iff (hcase : config.objectNameCasing = .pascal)
    (hfetched : (source config catalog).outcome = .ok schema)
    (h : (run config source { catalog } writer s).outcome = .ok report) :
    let b := config.modelBuilder
    (run config source { catalog } writer s).calls.filter (·.isOnWriter) =
        .prepare :: (schema.tables.map fun t => .writeTable (b.plainModule t)) ++
          [.writeIndex (plainIndex b schema.tables)] ∧
      (∀ t, (b.plainModule t).content = preamble (b.plainModel t) ++ b.profile.importLine ++
        "\n" ++ statementText (statements b.profile (b.plainModel t))) ∧
      ((schema.tables.Pairwise fun t u =>
          ((b.plainModel t).constantNames b.profile).Disjoint
              ((b.plainModel u).constantNames b.profile) ∧
            ((b.plainModel t).typeNames b.profile).Disjoint
              ((b.plainModel u).typeNames b.profile)) ↔
        schema.tables.Pairwise b.ExportsApart) ∧
      ((schema.tables.Pairwise fun t u =>
          ((b.plainModel t).constantNames b.profile).Disjoint
              ((b.plainModel u).typeNames b.profile) ∧
            ((b.plainModel u).constantNames b.profile).Disjoint
              ((b.plainModel t).typeNames b.profile)) ↔
        schema.tables.Pairwise fun t u => b.KindsApart t u ∧ b.KindsApart u t) := by
  intro b
  have hpascal : b.naming.objectCasing = .pascal := hcase
  refine ⟨?_, fun t => content_eq b.profile _, ?_, ?_⟩
  · rw [(run_writes_plain hfetched h).1, plainModules, writerCalls, List.map_map, List.map_map]
    rfl
  · exact List.Pairwise.iff fun t u => (ModelBuilder.exportsApart_iff hpascal b.profile).symm
  · refine List.Pairwise.iff fun t u => ?_
    rw [ModelBuilder.kindsApart_iff hpascal b.profile,
      ModelBuilder.kindsApart_iff hpascal b.profile]

theorem run_exports_apart_two :
    let config : GeneratorConfig :=
      { connection := { connectionString := some "postgres://localhost/app" } }
    let raw (table name dataType : String) (labels : List String) : RawColumn :=
      ⟨name, table, .table, "public", dataType, false, none, none, none, [], labels, 1⟩
    let users : Table := ⟨"public", "users", .table,
      [(raw "users" "id" "serial" []).describe, (raw "users" "status" "status" ["new"]).describe]⟩
    let posts : Table := ⟨"public", "user_posts", .table,
      [(raw "user_posts" "status" "status" ["new"]).describe]⟩
    let b := config.modelBuilder
    (∃ report, (run config (SchemaSource.fixed ⟨"public", [users, posts]⟩) {} MemoryStore.writer
      {}).outcome = .ok report) ∧
      ((b.plainModel users).constantNames b.profile).Disjoint
          ((b.plainModel posts).constantNames b.profile) ∧
        ((b.plainModel users).typeNames b.profile).Disjoint
          ((b.plainModel posts).typeNames b.profile) := by
  intro config raw users posts b
  have hok : (run config (SchemaSource.fixed ⟨"public", [users, posts]⟩) {} MemoryStore.writer
      {}).outcome.isOk = true := by decide +kernel
  cases h : (run config (SchemaSource.fixed ⟨"public", [users, posts]⟩) {} MemoryStore.writer
      {}).outcome with
  | error e =>
    rw [h] at hok
    contradiction
  | ok report =>
    have hclear : b.ColumnsClear users posts ∧ b.ColumnsClear posts users := by
      unfold ModelBuilder.ColumnsClear
      decide +kernel
    have hapart : b.ExportsApart users posts :=
      ⟨by decide +kernel, by decide +kernel, by decide +kernel, by decide +kernel, hclear.1,
        hclear.2⟩
    have hexports := (run_exports_apart_iff rfl rfl h).2.2.1.2 (List.pairwise_pair.2 hapart)
    rw [List.pairwise_pair] at hexports
    exact ⟨⟨report, rfl⟩, hexports⟩

/-- The singular and the plural of a name are names of different modules, which export the same
records. -/
theorem run_exports_shared :
    let config : GeneratorConfig :=
      { connection := { connectionString := some "postgres://localhost/app" } }
    let singular : Table := ⟨"public", "user", .table, []⟩
    let plural : Table := ⟨"public", "users", .table, []⟩
    let b := config.modelBuilder
    (∃ report, (run config (SchemaSource.fixed ⟨"public", [singular, plural]⟩) {}
      MemoryStore.writer {}).outcome = .ok report) ∧
      "SelectUser" ∈ (b.plainModel singular).typeNames b.profile ∧
      "SelectUser" ∈ (b.plainModel plural).typeNames b.profile := by
  refine ⟨⟨_, rfl⟩, ?_, ?_⟩
  · decide +kernel
  · decide +kernel

end Generator

end ZodCatalog
