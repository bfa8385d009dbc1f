import Mathlib.Data.List.Forall2
import Mathlib.Data.List.Induction
import Mathlib.Data.List.Nodup
import ZodCatalog.Proofs.PlainModels
import ZodCatalog.Proofs.Preparation

/-! What a run leaves in memory. The modules of its tables have file names of their own, but the
index has a fixed one, and a table of that name loses its module to it. -/

namespace ZodCatalog

namespace Entries

variable {κ α : Type} [BEq κ] [LawfulBEq κ]

theorem erase_of_not_mem {key : κ} {entries : List (κ × α)} (h : key ∉ entries.map Prod.fst) :
    erase key entries = entries := by
  refine List.filter_eq_self.2 fun e he => ?_
  have hne : e.1 ≠ key := fun heq => h (heq ▸ List.mem_map_of_mem he)
  simpa using hne

theorem nodup_put {key : κ} {entries : List (κ × α)} (value : α)
    (h : (entries.map Prod.fst).Nodup) : ((put key value entries).map Prod.fst).Nodup := by
  refine List.nodup_cons.2 ⟨fun hmem => ?_, h.sublist ((List.filter_sublist).map _)⟩
  obtain ⟨e, he, hkey⟩ := List.mem_map.1 hmem
  have hne := (List.mem_filter.1 he).2
  simp [hkey] at hne

theorem lookup_of_mem {key : κ} {value : α} {entries : List (κ × α)}
    (h : (entries.map Prod.fst).Nodup) (hmem : (key, value) ∈ entries) :
    entries.lookup key = some value := by
  induction entries with
  | nil => contradiction
  | cons e es ih =>
    obtain ⟨hnone, hrest⟩ := List.nodup_cons.1 h
    rcases List.mem_cons.1 hmem with rfl | hmem
    · exact List.lookup_cons_self
    · have hne : key ≠ e.1 := fun heq => hnone (heq ▸ List.mem_map_of_mem hmem)
      rw [lookup_cons_of_ne hne]
      exact ih hrest hmem

/-- Puts values in turn. -/
def putAll (values entries : List (κ × α)) : List (κ × α) :=
  values.foldl (fun es v => put v.1 v.2 es) entries

/-- Under keys of their own, all values stay, the last in front. -/
theorem putAll_nil {values : List (κ × α)} (h : (values.map Prod.fst).Nodup) :
    putAll values [] = values.reverse := by
  induction values using List.reverseRecOn with
  | nil => rfl
  | append_singleton vs v ih =>
    rw [List.map_append, List.nodup_append] at h
    have hnone : v.1 ∉ vs.reverse.map Prod.fst := by
      rw [List.map_reverse, List.mem_reverse]
      exact fun hmem => h.2.2 _ hmem _ (List.mem_singleton.2 rfl) rfl
    rw [putAll, List.foldl_append, List.reverse_append]
    show put v.1 v.2 (putAll vs []) = v :: vs.reverse
    rw [ih h.1, put, erase_of_not_mem hnone]

end Entries

namespace Process

variable {σ κ ε : Type} {effect : κ → σ → σ × Except ε Unit}

/-- Calls without effect may be left out. -/
theorem replay_filter {p : κ → Bool} (h : ∀ c, p c = false → ∀ s, effect c s = (s, .ok ()))
    (cs : List κ) (s : σ) : replay effect (cs.filter p) s = replay effect cs s := by
  induction cs generalizing s with
  | nil => rfl
  | cons c cs ih =>
    cases hc : p c with
    | false => rw [List.filter_cons, hc, replay, h c hc s, if_neg Bool.false_ne_true, ih]
    | true =>
      rw [List.filter_cons, if_pos hc, replay, replay]
      cases (effect c s).2 with
      | error e => rfl
      | ok u => exact ih _

end Process

/-- A module as it is kept. -/
def RenderedModule.entry (r : RenderedModule) : String × String := (r.fileName, r.content)

/-- The file that a call writes. -/
def GeneratorCall.written? : GeneratorCall → Option (String × String)
  | writeTable m => some m.entry
  | writeIndex content => some (indexFile, content)
  | progress _ | catalog _ | model _ | rendered .. | prepare => none

/-- Writes on a store put their files in turn. -/
theorem MemoryStore.replay_writes {cs : List GeneratorCall}
    (h : ∀ c ∈ cs, ∃ e, c.written? = some e) (s : MemoryStore) :
    Process.replay writer.effect cs s =
      (⟨Entries.putAll (cs.filterMap (·.written?)) s.files, s.prepared⟩, .ok ()) := by
  induction cs generalizing s with
  | nil => rfl
  | cons c cs ih =>
    obtain ⟨⟨e, he⟩, hcs⟩ := List.forall_mem_cons.1 h
    have hcall : writer.effect c s = (s.put e.1 e.2, .ok ()) := by
      cases c with
      | writeTable | writeIndex =>
        cases he
        rfl
      | progress | catalog | model | rendered | prepare => contradiction
    rw [Process.replay, hcall, List.filterMap_cons, he]
    exact ih hcs _

theorem Writer.replay_onWriter {σ : Type} (w : Writer σ) (cs : List GeneratorCall) (s : σ) :
    Process.replay w.effect (cs.filter (·.isOnWriter)) s = Process.replay w.effect cs s :=
  Process.replay_filter (fun _ hc s => w.effect_of_not_isOnWriter hc s) cs s

namespace Generator

section SharedNames

theorem firstShared?_eq_none_iff {seen : List String} {ts : List Table} :
    firstShared? seen ts = none ↔
      (ts.map fun t => moduleStem t.name).Nodup ∧ ∀ t ∈ ts, moduleStem t.name ∉ seen := by
  induction ts generalizing seen with
  | nil => simp [firstShared?]
  | cons t ts ih =>
    rw [firstShared?]
    split
    · rename_i hseen
      have hmem : moduleStem t.name ∈ seen := List.contains_iff_mem.1 hseen
      exact iff_of_false nofun fun h => h.2 t List.mem_cons_self hmem
    · rename_i hseen
      have hmem : moduleStem t.name ∉ seen := fun h => hseen (List.contains_iff_mem.2 h)
      have hhead : (∀ d ∈ ts, moduleStem d.name ∉ moduleStem t.name :: seen) ↔
          moduleStem t.name ∉ ts.map (fun d => moduleStem d.name) ∧
            ∀ d ∈ ts, moduleStem d.name ∉ seen := by
        simp [forall_and]
      rw [ih, hhead, List.map_cons, List.nodup_cons, List.forall_mem_cons]
      constructor
      · exact fun ⟨hnodup, hnone, hrest⟩ => ⟨⟨hnone, hnodup⟩, hmem, hrest⟩
      · exact fun ⟨⟨hnone, hnodup⟩, _, hrest⟩ => ⟨hnodup, hnone, hrest⟩

/-- A schema is refused exactly if two of its tables have one module name. -/
theorem checkModules_eq_ok_iff {schema : Schema} :
    checkModules schema = .ok () ↔ (schema.tables.map fun t => moduleStem t.name).Nodup := by
  have hnone : firstShared? [] schema.tables = none ↔
      (schema.tables.map fun t => moduleStem t.name).Nodup := by
    rw [firstShared?_eq_none_iff]
    simp
  rw [← hnone, checkModules]
  cases firstShared? [] schema.tables <;> simp

end SharedNames

section Written

variable {σ : Type} {config : GeneratorConfig} {source : SchemaSource} {hooks : GeneratorHooks}
  {writer : Writer σ} {schema : Schema} {s : σ}

/-- A run that succeeds has reached a schema. -/
theorem Reaches.of_outcome {report : GenerationReport}
    (hfetched : (source config hooks.catalog).outcome = .ok schema)
    (h : (run config source hooks writer s).outcome = .ok report) :
    Reaches config source hooks schema ∧
      ∃ written, (writing config hooks writer schema s).outcome = .ok written ∧
        concluded config schema written = .ok report := by
  cases hvalid : config.validate with
  | error e =>
    rw [run_of_refused source hooks writer s hvalid] at h
    contradiction
  | ok u =>
    rw [run_of_fetched source hooks writer s hvalid hfetched] at h
    cases hwritten : (writing config hooks writer schema s).outcome with
    | error e =>
      rw [generation_of_unwritten hwritten] at h
      contradiction
    | ok written =>
      rw [generation_of_written hwritten] at h
      refine ⟨⟨hvalid, hfetched, ?_⟩, written, rfl, h⟩
      cases hcheck : checkModules schema with
      | error e =>
        rw [writing, hcheck] at hwritten
        contradiction
      | ok u => rfl

/-- What is written is the modules of all tables and, if there is one, the index of them. -/
theorem Reaches.writing_onWriter {written : Written} (h : Reaches config source hooks schema)
    (hwritten : (writing config hooks writer schema s).outcome = .ok written) :
    ∃ ms, ms.map Except.ok = schema.tables.map (rendering config.modelBuilder hooks) ∧
      written = ({} : Written).addAll ms ∧
      (writing config hooks writer schema s).calls.filter (·.isOnWriter) =
        if ms.isEmpty then [] else writerCalls ms true := by
  obtain ⟨ms, hms⟩ := writeTables_writes config.modelBuilder hooks writer {} schema.tables s
  rw [h.writing_eq] at hwritten ⊢
  cases hmodules : (writeTables config.modelBuilder hooks writer {} schema.tables s).outcome with
  | error e =>
    rw [Process.bind_of_error hmodules] at hwritten
    contradiction
  | ok w =>
    obtain ⟨hall, rfl⟩ := hms.complete w hmodules
    rw [Process.bind_of_ok hmodules, Process.bind_pure_apply] at hwritten ⊢
    refine ⟨ms, hall, ?_, ?_⟩
    · cases hindex : (writeIndex writer (({} : Written).addAll ms)
          (writeTables config.modelBuilder hooks writer {} schema.tables s).state).outcome with
      | error e =>
        rw [hindex] at hwritten
        contradiction
      | ok u =>
        rw [hindex] at hwritten
        exact (Except.ok.inj hwritten).symm
    · -- The index is written just if there is a module, and so is the directory prepared.
      rw [List.filter_append, hms.calls, writeIndex_calls]
      cases htables : schema.tables with
      | nil =>
        obtain rfl : ms = [] := by simpa [htables] using hall
        rfl
      | cons t ts =>
        cases ms with
        | nil => simp [htables] at hall
        | cons m ms => rfl

variable {catalog : CatalogHooks} {report : GenerationReport}

/-- The models and modules of tables that no hook changes. -/
def plainModules (b : ModelBuilder) (tables : List Table) : List (TableModel × RenderedModule) :=
  tables.map fun t => (b.plainModel t, b.plainModule t)

/-- A run that succeeds, when no hook changes its modules, writes those of all tables. -/
theorem run_writes_plain (hfetched : (source config catalog).outcome = .ok schema)
    (h : (run config source { catalog } writer s).outcome = .ok report) :
    (run config source { catalog } writer s).calls.filter (·.isOnWriter) =
        writerCalls (plainModules config.modelBuilder schema.tables) true ∧
      report.tables = schema.tables.map fun t => TableReport.ofModel
        (config.modelBuilder.plainModel t) (config.modelBuilder.plainModule t).fileName := by
  obtain ⟨hreaches, written, hwritten, hconcluded⟩ := Reaches.of_outcome hfetched h
  obtain ⟨ms, hall, rfl, hcalls⟩ := hreaches.writing_onWriter hwritten
  have hms : ms = plainModules config.modelBuilder schema.tables := by
    have hplain : rendering config.modelBuilder { catalog } = Except.ok ∘ fun t =>
        (config.modelBuilder.plainModel t, config.modelBuilder.plainModule t) :=
      funext fun t => rendering_plain _ catalog t
    rw [hplain, ← List.map_map] at hall
    exact (List.map_inj_right fun _ _ => Except.ok.inj).1 hall
  have hnonempty : ms ≠ [] := by
    rintro rfl
    exact absurd hconcluded nofun
  refine ⟨?_, ?_⟩
  · rw [(run_onWriter hreaches.valid hfetched).1, hcalls, if_neg (by simpa using hnonempty), hms]
  · rw [concluded_eq_ok hconcluded, hms]
    simp [Written.addAll, plainModules]

end Written

section Memory

/-- What calls on a store leave: the modules in turn, and their index last. -/
theorem replay_writerCalls (ms : List (TableModel × RenderedModule)) (s : MemoryStore) :
    (Process.replay MemoryStore.writer.effect (writerCalls ms true) s).1 =
      ⟨Entries.put indexFile (ModuleText.index (ms.map (·.2.indexLine)))
        (Entries.putAll (ms.map (·.2.entry)) []), true⟩ := by
  let index := ModuleText.index (ms.map (·.2.indexLine))
  let writes : List GeneratorCall := (ms.map fun m => .writeTable m.2) ++ [.writeIndex index]
  have hwrites : ∀ c ∈ writes, ∃ e, c.written? = some e := by
    intro c hc
    rcases List.mem_append.1 hc with hc | hc
    · obtain ⟨m, -, rfl⟩ := List.mem_map.1 hc
      exact ⟨_, rfl⟩
    · rw [List.mem_singleton.1 hc]
      exact ⟨_, rfl⟩
  have hfiles : writes.filterMap (·.written?) =
      ms.map (·.2.entry) ++ [(indexFile, index)] := by
    show ((ms.map fun m => GeneratorCall.writeTable m.2) ++ _).filterMap _ = _
    rw [List.filterMap_append, List.filterMap_map, ← List.filterMap_eq_map]
    rfl
  have hreplay := congrArg Prod.fst (MemoryStore.replay_writes hwrites ⟨[], true⟩)
  rw [hfiles, Entries.putAll, List.foldl_append] at hreplay
  exact hreplay

/-- The modules of tables, each under its file name. -/
def plainEntries (b : ModelBuilder) (tables : List Table) : List (String × String) :=
  tables.map fun t => (b.plainModule t).entry

/-- The index of the modules of tables. -/
def plainIndex (b : ModelBuilder) (tables : List Table) : String :=
  ModuleText.index (tables.map fun t => (b.plainModule t).indexLine)

/-- A store that holds the modules of all tables, each under the name reported for it, their index,
and nothing else. -/
structure KeepsModules (b : ModelBuilder) (tables : List Table) (report : GenerationReport)
    (store : MemoryStore) : Prop where
  files : store.files.Perm ((indexFile, plainIndex b tables) :: plainEntries b tables)
  once : (store.files.map Prod.fst).Nodup
  reported : List.Forall₂ (fun r t => store.file? r.fileName = some (b.plainModule t).content)
    report.tables tables
  index : store.file? indexFile = some (plainIndex b tables)

variable {config : GeneratorConfig} {source : SchemaSource} {catalog : CatalogHooks}
  {schema : Schema} {s : MemoryStore} {report : GenerationReport}

theorem plainModule_fileName_eq_indexFile_iff {b : ModelBuilder} {t : Table} :
    (b.plainModule t).fileName = indexFile ↔ moduleStem t.name = "index" := by
  have hfile : indexFile = "index" ++ ".ts" := by decide
  rw [hfile]
  exact String.append_left_inj ".ts"

theorem plainEntries_nodup {b : ModelBuilder} (h : checkModules schema = .ok ()) :
    ((plainEntries b schema.tables).map Prod.fst).Nodup := by
  have hnames : (plainEntries b schema.tables).map Prod.fst =
      (schema.tables.map fun t => moduleStem t.name).map (· ++ ".ts") := by
    rw [plainEntries, List.map_map, List.map_map]
    rfl
  rw [hnames]
  exact (checkModules_eq_ok_iff.1 h).map fun _ _ => (String.append_left_inj ".ts").1

theorem indexFile_mem_plainEntries_iff {b : ModelBuilder} {tables : List Table} :
    indexFile ∈ (plainEntries b tables).map Prod.fst ↔
      ∃ t ∈ tables, moduleStem t.name = "index" := by
  rw [plainEntries, List.map_map, List.mem_map]
  exact exists_congr fun t => and_congr_right fun _ => plainModule_fileName_eq_indexFile_iff

/-- The store and the report of a run that succeeds, when no hook changes its modules. -/
theorem run_store (hfetched : (source config catalog).outcome = .ok schema)
    (h : (run config source { catalog } MemoryStore.writer s).outcome = .ok report) :
    (run config source { catalog } MemoryStore.writer s).state =
        ⟨Entries.put indexFile (plainIndex config.modelBuilder schema.tables)
          (plainEntries config.modelBuilder schema.tables).reverse, true⟩ ∧
      report.tables = schema.tables.map fun t => TableReport.ofModel
        (config.modelBuilder.plainModel t) (config.modelBuilder.plainModule t).fileName := by
  obtain ⟨hreaches, -⟩ := Reaches.of_outcome hfetched h
  obtain ⟨hcalls, hreport⟩ := run_writes_plain hfetched h
  have hstate := (run_follows config source { catalog } MemoryStore.writer_onlyFails).state s
  rw [← Writer.replay_onWriter, hcalls, replay_writerCalls, plainModules, List.map_map,
    List.map_map] at hstate
  refine ⟨?_, hreport⟩
  rw [← Entries.putAll_nil (plainEntries_nodup hreaches.unshared)]
  exact hstate.symm

/-- Apart from a table whose file is the index, each module is found under its file name. -/
theorem lookup_put_plainEntries {b : ModelBuilder} {content : String} {t : Table}
    (h : checkModules schema = .ok ()) (ht : t ∈ schema.tables)
    (hindex : moduleStem t.name ≠ "index") :
    (Entries.put indexFile content (plainEntries b schema.tables).reverse).lookup
      (b.plainModule t).fileName = some (b.plainModule t).content := by
  rw [Entries.lookup_put_of_ne (mt plainModule_fileName_eq_indexFile_iff.1 hindex)]
  refine Entries.lookup_of_mem ?_ (List.mem_reverse.2 (List.mem_map.2 ⟨t, ht, rfl⟩))
  rw [List.map_reverse, List.nodup_reverse]
  exact plainEntries_nodup h

/-- A run that succeeds keeps all modules exactly if no table has the module name of the index; if
one has, its module alone is lost. -/
theorem run_keeps_modules_iff (hfetched : (source config catalog).outcome = .ok schema)
    (h : (run config source { catalog } MemoryStore.writer s).outcome = .ok report) :
    (KeepsModules config.modelBuilder schema.tables report
        (run config source { catalog } MemoryStore.writer s).state ↔
      ∀ t ∈ schema.tables, moduleStem t.name ≠ "index") ∧
    ∀ t ∈ schema.tables, moduleStem t.name ≠ "index" →
      (run config source { catalog } MemoryStore.writer s).state.file?
        (config.modelBuilder.plainModule t).fileName =
          some (config.modelBuilder.plainModule t).content := by
  obtain ⟨hreaches, -⟩ := Reaches.of_outcome hfetched h
  obtain ⟨hstate, hreport⟩ := run_store hfetched h
  have hnodup := plainEntries_nodup (b := config.modelBuilder) hreaches.unshared
  rw [hstate]
  refine ⟨⟨fun hkeeps t ht hindex => ?_, fun hindex => ⟨?_, ?_, ?_, ?_⟩⟩,
    fun t ht hindex => lookup_put_plainEntries hreaches.unshared ht hindex⟩
  · -- The index would have an entry beside the module of its name.
    have hnames := (hkeeps.files.map Prod.fst).nodup_iff.1 hkeeps.once
    exact (List.nodup_cons.1 hnames).1 (indexFile_mem_plainEntries_iff.2 ⟨t, ht, hindex⟩)
  · have hnone : indexFile ∉ (plainEntries config.modelBuilder schema.tables).reverse.map
        Prod.fst := by
      rw [List.map_reverse, List.mem_reverse, indexFile_mem_plainEntries_iff]
      exact fun ⟨t, ht, heq⟩ => hindex t ht heq
    show (Entries.put _ _ _).Perm _
    rw [Entries.put, Entries.erase_of_not_mem hnone]
    exact (List.reverse_perm _).cons _
  · refine Entries.nodup_put _ ?_
    rw [List.map_reverse, List.nodup_reverse]
    exact hnodup
  · rw [hreport, List.forall₂_map_left_iff, List.forall₂_same]
    exact fun t ht => lookup_put_plainEntries hreaches.unshared ht (hindex t ht)
  · exact Entries.lookup_put_self ..

end Memory

theorem run_keeps_modules_two :
    let config : GeneratorConfig :=
      { connection := { connectionString := some "postgres://localhost/app" } }
    let tables : List Table :=
      [⟨"public", "indexes", .table, []⟩, ⟨"audit", "user_posts", .view, []⟩]
    let t := run config (SchemaSource.fixed ⟨"public", tables⟩) {} MemoryStore.writer {}
    ∃ report, t.outcome = .ok report ∧
      KeepsModules config.modelBuilder tables report t.state := by
  intro config tables t
  obtain ⟨report, hreport⟩ : ∃ report, t.outcome = .ok report := by
    have hok : t.outcome.isOk = true := by decide
    cases h : t.outcome with
    | ok report => exact ⟨report, rfl⟩
    | error e =>
      rw [h] at hok
      contradiction
  have hindex : ∀ d ∈ tables, moduleStem d.name ≠ "index" := by decide
  exact ⟨report, hreport, (run_keeps_modules_iff rfl hreport).1.2 hindex⟩

/-- The module of a table with the name of the index is reported and lost. -/
theorem run_keeps_modules_index :
    let t := run { connection := { connectionString := some "postgres://localhost/app" } }
      (SchemaSource.fixed ⟨"public", [⟨"public", "Index", .table, []⟩]⟩) {} MemoryStore.writer {}
    (∃ report, t.outcome = .ok report ∧ report.tables.map (·.fileName) = ["index.ts"]) ∧
      t.state.files = [("index.ts", ModuleText.index ["export * from './index';"])] := by
  intro t
  obtain ⟨report, hreport⟩ : ∃ report, t.outcome = .ok report := ⟨_, rfl⟩
  obtain ⟨hstate, htables⟩ := run_store rfl hreport
  refine ⟨⟨report, hreport, ?_⟩, ?_⟩
  · rw [htables]
    decide
  · exact (congrArg MemoryStore.files hstate).trans (by decide)

end Generator
end ZodCatalog
