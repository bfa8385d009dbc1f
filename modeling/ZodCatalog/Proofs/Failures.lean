import ZodCatalog.Generator.Run

/-! The errors that the steps of a run end in. Only the run itself tells that no tables matched;
its configuration, its hooks and its catalog rows have errors of their own. -/

namespace ZodCatalog

/-- Errors of a step, as opposed to the one that no tables matched. -/
def Error.IsFailure (e : Error) : Prop := ∀ schema, e ≠ .noTablesMatched schema

/-- An outcome that does not tell that no tables matched, which is for the run to say. -/
def OnlyFails {α : Type} (x : Except Error α) : Prop := ∀ e, x = .error e → e.IsFailure

namespace OnlyFails

variable {α β : Type}

theorem ok (a : α) : OnlyFails (.ok a) := fun _ => nofun

theorem configuration (cause : ConfigurationError) :
    OnlyFails (.error (.configuration cause) : Except Error α) := by
  rintro e h
  cases h
  exact fun _ => nofun

theorem hook (result : Except String α) : OnlyFails (result.mapError .hook) := by
  cases result with
  | ok a => exact ok a
  | error detail =>
    rintro e h
    cases h
    exact fun _ => nofun

theorem bind {x : Except Error α} {f : α → Except Error β} (hx : OnlyFails x)
    (hf : ∀ a, OnlyFails (f a)) : OnlyFails (x >>= f) := by
  cases x with
  | ok a => exact hf a
  | error d =>
    rintro e h
    cases h
    exact hx d rfl

theorem traced_bind {κ : Type} {x : Traced κ Error α} {f : α → Traced κ Error β}
    (hx : OnlyFails x.outcome) (hf : ∀ a, OnlyFails (f a).outcome) :
    OnlyFails (x >>= f).outcome := by
  cases h : x.outcome with
  | ok a =>
    rw [Traced.bind_of_ok h]
    exact hf a
  | error d =>
    rw [Traced.bind_of_error h]
    rintro e he
    cases he
    exact hx d h

theorem process_bind {σ κ : Type} {x : Process σ κ Error α} {f : α → Process σ κ Error β} {s : σ}
    (hx : OnlyFails (x s).outcome) (hf : ∀ a, OnlyFails (f a (x s).state).outcome) :
    OnlyFails ((x >>= f) s).outcome := by
  cases h : (x s).outcome with
  | ok a =>
    rw [Process.bind_of_ok h]
    exact hf a
  | error d =>
    rw [Process.bind_of_error h]
    rintro e he
    cases he
    exact hx d h

end OnlyFails

/-- A model is refused by a hook only. -/
theorem ModelBuilder.build_onlyFails (b : ModelBuilder) (hooks : ModelHooks) (t : Table) :
    OnlyFails (b.build hooks t).outcome := by
  have hcolumns (cs : List Column) : OnlyFails (b.buildColumns hooks t.name cs).outcome := by
    induction cs with
    | nil => exact .ok []
    | cons c cs ih =>
      have hcolumn : OnlyFails (b.buildColumn hooks t.name c).outcome :=
        .traced_bind (.hook _) fun _ => .ok _
      exact hcolumn.traced_bind fun _ => ih.traced_bind fun _ => .ok _
  exact (hcolumns t.columns).traced_bind fun _ => .hook _

theorem FilterConfig.compile_onlyFails (c : FilterConfig) : OnlyFails c.compile := by
  have hside (side : FilterSide) (spec : FilterSpec) :
      OnlyFails (NameMatcher.compile side spec) := by
    cases spec with
    | names ns => exact .ok _
    | pattern text =>
      rw [NameMatcher.compile]
      split
      · exact .ok _
      · exact .configuration _
  have hoption (side : FilterSide) (spec? : Option FilterSpec) :
      OnlyFails (spec?.mapM (NameMatcher.compile side)) := by
    cases spec? with
    | none => exact .ok _
    | some spec => exact (hside side spec).bind fun _ => .ok _
  exact (hoption .including _).bind fun _ => (hoption .excluding _).bind fun _ => .ok _

theorem ConnectionConfig.validate_onlyFails (c : ConnectionConfig) : OnlyFails c.validate := by
  rw [validate]
  split
  · exact .ok _
  · split
    · exact .ok _
    · exact .configuration _

theorem GeneratorConfig.validate_onlyFails (c : GeneratorConfig) : OnlyFails c.validate := by
  have hrest : OnlyFails (do
      c.connection.validate
      let _ ← c.filter.compile
      return ()) :=
    c.connection.validate_onlyFails.bind fun _ => c.filter.compile_onlyFails.bind fun _ => .ok _
  rw [validate]
  split
  · exact .configuration _
  · split
    · exact .configuration _
    · exact hrest

open Assembly in
/-- A schema from catalog rows is refused by a hook only. -/
theorem assembleSchema_onlyFails (name : String) (rows : List RawColumn) (filter : TableFilter)
    (hooks : CatalogHooks) : OnlyFails (assembleSchema name rows filter hooks).outcome := by
  have hrows (groups : List Group) (rows : List RawColumn) :
      OnlyFails (groupRows hooks groups rows).outcome := by
    induction rows generalizing groups with
    | nil => exact .ok groups
    | cons raw rows ih => exact .traced_bind (.hook _) fun column => ih _
  have htables (groups : List Group) : OnlyFails (groupTables hooks groups).outcome := by
    induction groups with
    | nil => exact .ok []
    | cons g gs ih => exact .traced_bind (.hook _) fun t => ih.traced_bind fun ts => .ok _
  exact (hrows _ _).traced_bind fun groups => (htables groups).traced_bind fun tables => .ok _

theorem SchemaSource.ofRows_onlyFails (rows : List RawColumn) (config : GeneratorConfig)
    (hooks : CatalogHooks) : OnlyFails (SchemaSource.ofRows rows config hooks).outcome :=
  .traced_bind config.connection.validate_onlyFails fun _ =>
    .traced_bind config.filter.compile_onlyFails fun filter =>
      assembleSchema_onlyFails config.schema rows filter hooks

theorem OnlyFails.checkModules (schema : Schema) : OnlyFails (Generator.checkModules schema) := by
  rw [Generator.checkModules]
  split
  · exact .configuration _
  · exact .ok _

/-- What a call does to the state of a writer. -/
def Writer.effect {σ : Type} (w : Writer σ) : GeneratorCall → σ → σ × Except Error Unit
  | .prepare => w.prepare
  | .writeTable m => w.writeTable m
  | .writeIndex content => w.writeIndex content
  | _ => fun s => (s, .ok ())

/-- A writer none of whose calls tells that no tables matched. -/
def Writer.OnlyFails {σ : Type} (w : Writer σ) : Prop :=
  ∀ c s, ZodCatalog.OnlyFails (w.effect c s).2

theorem MemoryStore.writer_onlyFails : MemoryStore.writer.OnlyFails := by
  intro c s
  cases c <;> exact .ok ()

end ZodCatalog
