import ZodCatalog.Generator.Directory
import ZodCatalog.Proofs.RunOrder

/-! What a run does to its writer before the first module. The writer is prepared for the first
table before that table is rendered, so a run in which the first rendering fails has prepared it
and writes nothing. -/

namespace ZodCatalog

namespace Process

variable {σ κ ε α β : Type}

theorem calls_prefix_bind (x : Process σ κ ε α) (f : α → Process σ κ ε β) (s : σ) :
    (x s).calls <+: ((x >>= f) s).calls := by
  cases h : (x s).outcome with
  | error e => simp [bind_of_error h]
  | ok a => simp [bind_of_ok h]

end Process

namespace Generator

variable {σ : Type}

/-- The first table stops a run: preparing the writer for it fails, or a hook on it does. -/
def FirstFails (builder : ModelBuilder) (hooks : GeneratorHooks) (writer : Writer σ) (t : Table)
    (s : σ) : Prop :=
  (∃ e, (writer.prepare s).2 = .error e) ∨ ∃ e, rendering builder hooks t = .error e

section FirstTable

variable {builder : ModelBuilder} {hooks : GeneratorHooks} {writer : Writer σ} {t : Table} {s : σ}

theorem writeModule_first_of_prepared (h : (writer.prepare s).2 = .ok ()) :
    writeModule builder hooks writer {} t s =
      ⟨.prepare :: ((renderTable builder hooks t >>= writeRendered writer {})
          (writer.prepare s).1).calls,
        ((renderTable builder hooks t >>= writeRendered writer {}) (writer.prepare s).1).state,
        ((renderTable builder hooks t >>= writeRendered writer {})
          (writer.prepare s).1).outcome⟩ := by
  have hcall : (prepareFirst writer {} s).outcome = .ok () := h
  rw [writeModule, Process.bind_of_ok hcall]
  rfl

/-- A first table that fails leaves the writer prepared, as far as it could be. -/
theorem writeModule_of_firstFails (h : FirstFails builder hooks writer t s) :
    ((writeModule builder hooks writer {} t s).calls.filter (·.isOnWriter) = [.prepare] ∧
      (writeModule builder hooks writer {} t s).state = (writer.prepare s).1) ∧
      ∃ e, (writeModule builder hooks writer {} t s).outcome = .error e := by
  cases hprepared : (writer.prepare s).2 with
  | error e =>
    have hcall : (prepareFirst writer {} s).outcome = .error e := hprepared
    rw [writeModule, Process.bind_of_error hcall]
    exact ⟨⟨rfl, rfl⟩, e, rfl⟩
  | ok u =>
    obtain ⟨e, he⟩ : ∃ e, rendering builder hooks t = .error e := by
      refine h.resolve_left ?_
      rintro ⟨e, he⟩
      cases hprepared.symm.trans he
    have hrender : (renderTable builder hooks t (writer.prepare s).1).outcome = .error e := by
      rw [renderTable_apply, he]
    rw [writeModule_first_of_prepared hprepared, Process.bind_of_error hrender]
    refine ⟨⟨?_, ?_⟩, e, rfl⟩
    · exact congrArg (GeneratorCall.prepare :: ·) (filter_renderTable_calls builder hooks t _)
    · rw [renderTable_apply]

theorem exists_write_of_not_firstFails (h : ¬ FirstFails builder hooks writer t s) :
    ∃ m, .writeTable m ∈ (writeModule builder hooks writer {} t s).calls := by
  cases hprepared : (writer.prepare s).2 with
  | error e => exact absurd (.inl ⟨e, hprepared⟩) h
  | ok u =>
    cases hrendered : rendering builder hooks t with
    | error e => exact absurd (.inr ⟨e, hrendered⟩) h
    | ok m =>
      have hrender : (renderTable builder hooks t (writer.prepare s).1).outcome = .ok m := by
        rw [renderTable_apply, hrendered]
      have hwrite (s' : σ) : .writeTable m.2 ∈ (writeRendered writer {} m s').calls := by
        have hprefix := Process.calls_prefix_bind
          (Process.callOn (GeneratorCall.writeTable m.2) (writer.writeTable m.2))
          (fun _ => pure (Written.add {} m.1 m.2)) s'
        exact hprefix.subset (List.mem_singleton.2 rfl)
      rw [writeModule_first_of_prepared hprepared, Process.bind_of_ok hrender]
      exact ⟨m.2, List.mem_cons_of_mem _ (List.mem_append_right _ (hwrite _))⟩

end FirstTable

/-- The run gets to the tables of a schema: nothing that comes before the writer fails. -/
structure Reaches (config : GeneratorConfig) (source : SchemaSource) (hooks : GeneratorHooks)
    (schema : Schema) : Prop where
  valid : config.validate = .ok ()
  fetched : (source config hooks.catalog).outcome = .ok schema
  unshared : checkModules schema = .ok ()

/-- The run gets to a first table, which fails. -/
def PreparesInVain (config : GeneratorConfig) (source : SchemaSource) (hooks : GeneratorHooks)
    (writer : Writer σ) (s : σ) : Prop :=
  ∃ schema t ts, Reaches config source hooks schema ∧ schema.tables = t :: ts ∧
    FirstFails config.modelBuilder hooks writer t s

section Run

variable {config : GeneratorConfig} {source : SchemaSource} {hooks : GeneratorHooks}
  {writer : Writer σ} {schema : Schema} {s : σ}

/-- Only the part of a run that writes has to do with the writer. -/
theorem run_onWriter (hvalid : config.validate = .ok ())
    (hfetched : (source config hooks.catalog).outcome = .ok schema) :
    (run config source hooks writer s).calls.filter (·.isOnWriter) =
        (writing config hooks writer schema s).calls.filter (·.isOnWriter) ∧
      (run config source hooks writer s).state = (writing config hooks writer schema s).state := by
  rw [run_of_fetched source hooks writer s hvalid hfetched]
  cases hwritten : (writing config hooks writer schema s).outcome with
  | error e =>
    rw [generation_of_unwritten hwritten]
    exact ⟨fetched_onWriter s, rfl⟩
  | ok written =>
    have hdone : [GeneratorCall.progress .done].filter (·.isOnWriter) = [] := rfl
    rw [generation_of_written hwritten, ← List.cons_append, ← List.append_assoc,
      List.filter_append, fetched_onWriter, hdone, List.append_nil]
    exact ⟨rfl, rfl⟩

theorem Reaches.writing_eq (h : Reaches config source hooks schema) :
    writing config hooks writer schema =
      writeTables config.modelBuilder hooks writer {} schema.tables >>= fun written =>
        writeIndex writer written >>= fun _ => pure written := by
  rw [writing, h.unshared, Process.lift_ok_bind]

/-- A run that gets to no table does nothing to its writer. -/
theorem run_of_no_table
    (h : ∀ schema t ts, Reaches config source hooks schema → schema.tables ≠ t :: ts) :
    (run config source hooks writer s).calls.filter (·.isOnWriter) = [] ∧
      (run config source hooks writer s).state = s := by
  cases hvalid : config.validate with
  | error e =>
    rw [run_of_refused source hooks writer s hvalid]
    exact ⟨rfl, rfl⟩
  | ok u =>
    cases hfetched : (source config hooks.catalog).outcome with
    | error e =>
      rw [run_of_unfetched source hooks writer s hvalid hfetched]
      exact ⟨opening_onWriter, rfl⟩
    | ok schema =>
      rw [(run_onWriter hvalid hfetched).1, (run_onWriter hvalid hfetched).2]
      cases hcheck : checkModules schema with
      | error e =>
        rw [writing, hcheck]
        exact ⟨rfl, rfl⟩
      | ok u =>
        have hreaches : Reaches config source hooks schema := ⟨hvalid, hfetched, hcheck⟩
        cases htables : schema.tables with
        | cons t ts => exact absurd htables (h schema t ts hreaches)
        | nil =>
          rw [hreaches.writing_eq, htables]
          exact ⟨rfl, rfl⟩

theorem Reaches.run_of_firstFails {t : Table} {ts : List Table}
    (h : Reaches config source hooks schema) (htables : schema.tables = t :: ts)
    (hfails : FirstFails config.modelBuilder hooks writer t s) :
    (run config source hooks writer s).calls.filter (·.isOnWriter) = [.prepare] ∧
      (run config source hooks writer s).state = (writer.prepare s).1 := by
  obtain ⟨hmodule, e, he⟩ := writeModule_of_firstFails hfails
  have hwritten : (writeTables config.modelBuilder hooks writer {} (t :: ts) s).outcome =
      .error e := by
    rw [writeTables_cons, Process.bind_of_error he]
  rw [(run_onWriter h.valid h.fetched).1, (run_onWriter h.valid h.fetched).2, h.writing_eq, htables,
    Process.bind_of_error hwritten, writeTables_cons, Process.bind_of_error he]
  exact hmodule

theorem Reaches.exists_write {t : Table} {ts : List Table}
    (h : Reaches config source hooks schema) (htables : schema.tables = t :: ts)
    (hrest : ¬ FirstFails config.modelBuilder hooks writer t s) :
    ∃ m, .writeTable m ∈ (run config source hooks writer s).calls := by
  obtain ⟨m, hm⟩ := exists_write_of_not_firstFails hrest
  have hwriting : (writeModule config.modelBuilder hooks writer {} t s).calls <+:
      (writing config hooks writer schema s).calls := by
    rw [h.writing_eq, htables, writeTables_cons]
    exact (Process.calls_prefix_bind _ _ s).trans (Process.calls_prefix_bind _ _ s)
  have hfilter : .writeTable m ∈
      (run config source hooks writer s).calls.filter (·.isOnWriter) := by
    rw [(run_onWriter h.valid h.fetched).1]
    exact List.mem_filter.2 ⟨hwriting.subset hm, rfl⟩
  exact ⟨m, (List.mem_filter.1 hfilter).1⟩

theorem PreparesInVain.run_eq (h : PreparesInVain config source hooks writer s) :
    (run config source hooks writer s).calls.filter (·.isOnWriter) = [.prepare] ∧
      (run config source hooks writer s).state = (writer.prepare s).1 := by
  obtain ⟨schema, t, ts, hreaches, htables, hfails⟩ := h
  exact hreaches.run_of_firstFails htables hfails

/-- Of the calls on a writer, a run that prepares it in vain makes no other. -/
theorem PreparesInVain.calls (h : PreparesInVain config source hooks writer s) :
    (∀ m, .writeTable m ∉ (run config source hooks writer s).calls) ∧
      .prepare ∈ (run config source hooks writer s).calls := by
  have hmem (c : GeneratorCall) (hc : c.isOnWriter = true) :
      c ∈ (run config source hooks writer s).calls ↔ c = .prepare := by
    rw [← List.mem_singleton, ← h.run_eq.1, List.mem_filter]
    exact (and_iff_left hc).symm
  exact ⟨fun m hm => absurd ((hmem _ rfl).1 hm) nofun, (hmem .prepare rfl).2 rfl⟩

/-- A run that writes no module leaves its writer as it is, exactly unless the first table stops
it. For that table the writer has been prepared. -/
theorem run_unwritten_iff (config : GeneratorConfig) (source : SchemaSource)
    (hooks : GeneratorHooks) (writer : Writer σ) (s : σ) :
    (((∀ m, .writeTable m ∉ (run config source hooks writer s).calls) →
        .prepare ∉ (run config source hooks writer s).calls ∧
          (run config source hooks writer s).state = s) ↔
      ¬ PreparesInVain config source hooks writer s) ∧
    (PreparesInVain config source hooks writer s →
      (∀ m, .writeTable m ∉ (run config source hooks writer s).calls) ∧
        .prepare ∈ (run config source hooks writer s).calls ∧
          (run config source hooks writer s).state = (writer.prepare s).1) := by
  refine ⟨⟨fun h hvain => (h hvain.calls.1).1 hvain.calls.2, fun hvain hnone => ?_⟩,
    fun hvain => ⟨hvain.calls.1, hvain.calls.2, hvain.run_eq.2⟩⟩
  -- A first table that does not fail is written.
  have hno : ∀ schema t ts, Reaches config source hooks schema → schema.tables ≠ t :: ts := by
    intro schema t ts hreaches htables
    obtain ⟨m, hm⟩ := hreaches.exists_write htables fun hfails =>
      hvain ⟨schema, t, ts, hreaches, htables, hfails⟩
    exact hnone m hm
  obtain ⟨hcalls, hstate⟩ := run_of_no_table hno
  exact ⟨fun hprepare => List.filter_eq_nil_iff.1 hcalls _ hprepare rfl, hstate⟩

end Run

/-- A hook that refuses the first table costs the modules of an earlier run. -/
theorem run_unwritten_cleaned :
    let config : GeneratorConfig :=
      { connection := { connectionString := some "postgres://localhost/app" }
        outputDir := "out"
        cleanOutput := true }
    let t := run config (SchemaSource.fixed ⟨"public", [⟨"public", "users", .table, []⟩]⟩)
      { model := { table := fun _ => .error "refused" } }
      (DirectoryStore.writer config.outputDir config.cleanOutput)
      { system := { nodes := [(["out", "old.ts"], .file "old"), (["out"], .directory)] } }
    (∀ m, .writeTable m ∉ t.calls) ∧ .prepare ∈ t.calls ∧
      t.state.system.node? ["out", "old.ts"] = none := by
  intro config t
  have hvain : PreparesInVain
      { connection := { connectionString := some "postgres://localhost/app" }
        outputDir := "out"
        cleanOutput := true }
      (SchemaSource.fixed ⟨"public", [⟨"public", "users", .table, []⟩]⟩)
      { model := { table := fun _ => .error "refused" } } (DirectoryStore.writer "out" true)
      { system := { nodes := [(["out", "old.ts"], .file "old"), (["out"], .directory)] } } :=
    ⟨_, _, _, ⟨rfl, rfl, rfl⟩, rfl, .inr ⟨.hook "refused", rfl⟩⟩
  refine ⟨hvain.calls.1, hvain.calls.2, ?_⟩
  rw [hvain.run_eq.2]
  decide

end Generator
end ZodCatalog
