import Mathlib.Data.List.Basic
import ZodCatalog.Proofs.TableWrites

/-! The order of the calls of a run: its events, the calls on its writer, and how both go with its
outcome, wherever it fails. -/

namespace ZodCatalog

namespace Generator

variable {σ : Type}

/-- The part of a run between its last two events. -/
def writing (config : GeneratorConfig) (hooks : GeneratorHooks) (writer : Writer σ)
    (schema : Schema) : Process σ GeneratorCall Error Written := do
  Process.lift (checkModules schema)
  let written ← writeTables config.modelBuilder hooks writer {} schema.tables
  writeIndex writer written
  return written

/-- The calls of a run on its writer: it is prepared, gets modules, and may get their index. -/
def writerCalls (ms : List (TableModel × RenderedModule)) (indexed : Bool) : List GeneratorCall :=
  .prepare :: (ms.map fun m => .writeTable m.2) ++
    if indexed then [.writeIndex (ModuleText.index (ms.map (·.2.indexLine)))] else []

section Writing

variable {config : GeneratorConfig} {hooks : GeneratorHooks} {writer : Writer σ} {schema : Schema}

theorem Quiet.writing (hwriter : writer.OnlyFails) :
    Quiet writer (writing config hooks writer schema) := by
  have hcheck : Quiet writer (Process.lift (checkModules schema)) :=
    ⟨.of_idle (fun _ => rfl) (.lift _), .lift _, fun _ => .checkModules schema⟩
  exact hcheck.bind fun _ => (writeTables hwriter _ _).bind fun written =>
    (writeIndex hwriter written).bind fun _ => .pure written

/-- The modules of the first of the tables, in their order, and the calls that write them: none at
all, or a preparation and one call for each module, and with the modules of all tables an index. -/
structure WritesInOrder (builder : ModelBuilder) (hooks : GeneratorHooks) (tables : List Table)
    (calls : List GeneratorCall) (ms : List (TableModel × RenderedModule)) : Prop where
  ordered : ms.map Except.ok <+: tables.map (rendering builder hooks)
  onWriter : calls.filter (·.isOnWriter) = [] ∧ ms = [] ∨
    tables ≠ [] ∧ ∃ indexed, calls.filter (·.isOnWriter) = writerCalls ms indexed ∧
      (indexed = true → ms.map Except.ok = tables.map (rendering builder hooks))

theorem WritesInOrder.of_filter_eq {builder : ModelBuilder} {tables : List Table}
    {calls calls' : List GeneratorCall} {ms : List (TableModel × RenderedModule)}
    (h : WritesInOrder builder hooks tables calls ms)
    (hcalls : calls'.filter (·.isOnWriter) = calls.filter (·.isOnWriter)) :
    WritesInOrder builder hooks tables calls' ms :=
  ⟨h.ordered, hcalls ▸ h.onWriter⟩

/-- The tables alone are written in order, and their writes are a run on the writer without an
index. -/
theorem writeTables_writesInOrder {builder : ModelBuilder} {tables : List Table} {s : σ}
    {ms : List (TableModel × RenderedModule)}
    (h : Writes builder hooks tables {} (writeTables builder hooks writer {} tables s) ms) :
    (writeTables builder hooks writer {} tables s).calls.filter (·.isOnWriter) = [] ∧ ms = [] ∨
      tables ≠ [] ∧ (writeTables builder hooks writer {} tables s).calls.filter (·.isOnWriter) =
        writerCalls ms false := by
  have hcalls := h.calls
  cases tables with
  | nil =>
    obtain rfl : ms = [] := by simpa using h.ordered
    exact .inl ⟨hcalls, rfl⟩
  | cons t ts => exact .inr ⟨List.cons_ne_nil t ts, hcalls.trans (List.append_nil _).symm⟩

theorem writeIndex_calls (ms : List (TableModel × RenderedModule)) (s : σ) :
    (writeIndex writer (({} : Written).addAll ms) s).calls =
      if ms.isEmpty then [] else [.writeIndex (ModuleText.index (ms.map (·.2.indexLine)))] := by
  cases ms <;> rfl

theorem writing_writesInOrder (config : GeneratorConfig) (hooks : GeneratorHooks)
    (writer : Writer σ) (schema : Schema) (s : σ) : ∃ ms,
    WritesInOrder config.modelBuilder hooks schema.tables
      (writing config hooks writer schema s).calls ms ∧
    ∀ written, (writing config hooks writer schema s).outcome = .ok written →
      ms.map Except.ok = schema.tables.map (rendering config.modelBuilder hooks) ∧
        written = ({} : Written).addAll ms := by
  rw [writing]
  cases hcheck : checkModules schema with
  | error e =>
    rw [Process.lift_error_bind]
    exact ⟨[], ⟨List.nil_prefix, .inl ⟨rfl, rfl⟩⟩, fun _ => nofun⟩
  | ok u =>
    obtain ⟨ms, hms⟩ := writeTables_writes config.modelBuilder hooks writer {} schema.tables s
    have hmodules := writeTables_writesInOrder hms
    rw [Process.lift_ok_bind]
    cases hwritten : (writeTables config.modelBuilder hooks writer {} schema.tables s).outcome with
    | error e =>
      rw [Process.bind_of_error hwritten]
      refine ⟨ms, ⟨hms.ordered, ?_⟩, fun _ => nofun⟩
      exact hmodules.imp id fun h => ⟨h.1, false, h.2, nofun⟩
    | ok written =>
      obtain ⟨hall, rfl⟩ := hms.complete written hwritten
      rw [Process.bind_of_ok hwritten, Process.bind_pure_apply]
      refine ⟨ms, ⟨hms.ordered, ?_⟩, fun written h => ⟨hall, ?_⟩⟩
      · rw [List.filter_append, writeIndex_calls]
        rcases hmodules with ⟨hcalls, rfl⟩ | ⟨htables, hcalls⟩
        · exact .inl ⟨by rw [hcalls]; rfl, rfl⟩
        · -- Only what has modules gets an index.
          refine .inr ⟨htables, !ms.isEmpty, ?_, fun _ => hall⟩
          rw [hcalls]
          cases ms with
          | nil => rfl
          | cons m ms => simp [writerCalls, GeneratorCall.isOnWriter]
      · cases hindexed : (writeIndex writer (({} : Written).addAll ms)
            (writeTables config.modelBuilder hooks writer {} schema.tables s).state).outcome with
        | error e =>
          rw [hindexed] at h
          contradiction
        | ok u =>
          rw [hindexed] at h
          exact (Except.ok.inj h).symm

end Writing

section Endings

variable {config : GeneratorConfig} (source : SchemaSource) (hooks : GeneratorHooks)
  (writer : Writer σ) (s : σ)

/-- The calls of a run until its schema is fetched. -/
def opening (config : GeneratorConfig) (source : SchemaSource) (hooks : GeneratorHooks) :
    List GeneratorCall :=
  .progress .connecting :: .progress .fetchingSchema ::
    (source config hooks.catalog).calls.map .catalog

/-- The outcome of a run that has written what it could. -/
def concluded (config : GeneratorConfig) (schema : Schema) (written : Written) :
    Except Error GenerationReport :=
  if written.reports.isEmpty then .error (.noTablesMatched config.schema)
  else .ok ⟨schema.name, config.dialect, written.reports⟩

theorem report_bind_apply {α : Type} (event : ProgressEvent)
    (f : Unit → Process σ GeneratorCall Error α) (s : σ) :
    (report event >>= f) s =
      ⟨.progress event :: (f () s).calls, (f () s).state, (f () s).outcome⟩ :=
  rfl

theorem concluded_eq_ok {config : GeneratorConfig} {schema : Schema} {written : Written}
    {report : GenerationReport} (h : concluded config schema written = .ok report) :
    report.tables = written.reports := by
  rw [concluded] at h
  split at h
  · contradiction
  · exact Except.ok.inj h ▸ rfl

theorem concluded_eq_error_iff {config : GeneratorConfig} {schema : Schema} {written : Written}
    {e : Error} : concluded config schema written = .error e ↔
      written.reports = [] ∧ e = .noTablesMatched config.schema := by
  rw [concluded]
  split
  · rename_i hnone
    exact ⟨fun h => ⟨List.isEmpty_iff.1 hnone, (Except.error.inj h).symm⟩, fun h => h.2 ▸ rfl⟩
  · rename_i hsome
    exact ⟨nofun, fun h => absurd (List.isEmpty_iff.2 h.1) hsome⟩

/-- The part of a run that has a schema. -/
def generation (config : GeneratorConfig) (hooks : GeneratorHooks) (writer : Writer σ)
    (schema : Schema) : Process σ GeneratorCall Error GenerationReport := do
  report (.generating schema.tables.length)
  let written ← writing config hooks writer schema
  report .done
  Process.lift (concluded config schema written)

theorem run_eq (config : GeneratorConfig) (source : SchemaSource) (hooks : GeneratorHooks)
    (writer : Writer σ) :
    run config source hooks writer = (do
      Process.lift config.validate
      report .connecting
      report .fetchingSchema
      let schema ← Process.ofTraced ((source config hooks.catalog).mapCalls .catalog)
      generation config hooks writer schema) := by
  have hconcluded (schema : Schema) (written : Written) :
      (Process.lift (concluded config schema written) :
        Process σ GeneratorCall Error GenerationReport) =
      if written.reports.isEmpty then
        Process.lift (.error (.noTablesMatched config.schema)) >>= fun _ : PUnit =>
          pure ⟨schema.name, config.dialect, written.reports⟩
      else pure ⟨schema.name, config.dialect, written.reports⟩ := by
    rw [concluded]
    split <;> rfl
  simp only [generation, writing, Process.bind_assoc, Process.pure_bind, hconcluded]
  rfl

theorem run_of_refused {e : Error} (h : config.validate = .error e) :
    run config source hooks writer s = ⟨[], s, .error e⟩ := by
  rw [run_eq, h]
  rfl

theorem run_of_unfetched {e : Error} (hvalid : config.validate = .ok ())
    (h : (source config hooks.catalog).outcome = .error e) :
    run config source hooks writer s = ⟨opening config source hooks, s, .error e⟩ := by
  rw [run_eq, hvalid, Process.lift_ok_bind, report_bind_apply, report_bind_apply,
    Process.bind_of_error h]
  rfl

theorem run_of_fetched {schema : Schema} (hvalid : config.validate = .ok ())
    (h : (source config hooks.catalog).outcome = .ok schema) :
    run config source hooks writer s =
      ⟨opening config source hooks ++ (generation config hooks writer schema s).calls,
        (generation config hooks writer schema s).state,
        (generation config hooks writer schema s).outcome⟩ := by
  rw [run_eq, hvalid, Process.lift_ok_bind, report_bind_apply, report_bind_apply,
    Process.bind_of_ok h]
  rfl

variable {source hooks writer s}

theorem generation_of_unwritten {schema : Schema} {e : Error}
    (h : (writing config hooks writer schema s).outcome = .error e) :
    generation config hooks writer schema s =
      ⟨.progress (.generating schema.tables.length) ::
        (writing config hooks writer schema s).calls,
        (writing config hooks writer schema s).state, .error e⟩ := by
  rw [generation, report_bind_apply, Process.bind_of_error h]

theorem generation_of_written {schema : Schema} {written : Written}
    (h : (writing config hooks writer schema s).outcome = .ok written) :
    generation config hooks writer schema s =
      ⟨.progress (.generating schema.tables.length) ::
        ((writing config hooks writer schema s).calls ++ [.progress .done]),
        (writing config hooks writer schema s).state, concluded config schema written⟩ := by
  rw [generation, report_bind_apply, Process.bind_of_ok h]
  rfl

end Endings

/-- The events of a run that succeeds, or that gets no schema. -/
def stages : Except Error Schema → List ProgressEvent
  | .ok schema => [.connecting, .fetchingSchema, .generating schema.tables.length, .done]
  | .error _ => [.connecting, .fetchingSchema]

def fetchedTables : Except Error Schema → List Table
  | .ok schema => schema.tables
  | .error _ => []

/-- What holds of a run that got as far as the given modules. Its state is what the calls on the
writer made of the first one, and none of its calls follows one of these that failed. -/
structure OrderedRun {σ : Type} (config : GeneratorConfig) (source : SchemaSource)
    (hooks : GeneratorHooks) (writer : Writer σ) (s : σ)
    (t : Trail σ GeneratorCall Error GenerationReport)
    (ms : List (TableModel × RenderedModule)) : Prop where
  refused : ∀ e, config.validate = .error e → t = ⟨[], s, .error e⟩
  events : t.calls.filterMap (·.event?) <+: stages (source config hooks.catalog).outcome
  done : .progress .done ∈ t.calls ↔
    (∃ report, t.outcome = .ok report) ∨ ∃ name, t.outcome = .error (.noTablesMatched name)
  unmatched : ∀ name, t.outcome = .error (.noTablesMatched name) ↔
    name = config.schema ∧ config.validate = .ok () ∧
      ∃ schema, (source config hooks.catalog).outcome = .ok schema ∧ schema.tables = []
  writes : WritesInOrder config.modelBuilder hooks
    (fetchedTables (source config hooks.catalog).outcome) t.calls ms
  state : (Process.replay writer.effect t.calls s).1 = t.state
  succeeded : ∀ earlier call later, t.calls = earlier ++ call :: later →
    (Process.replay writer.effect earlier s).2 = .ok ()
  reported : ∀ report, t.outcome = .ok report →
    ms.map Except.ok = (fetchedTables (source config hooks.catalog).outcome).map
      (rendering config.modelBuilder hooks) ∧
    report.tables = ms.map fun m => TableReport.ofModel m.1 m.2.fileName

section Order

variable {config : GeneratorConfig} {source : SchemaSource} {hooks : GeneratorHooks}
  {writer : Writer σ} {schema : Schema}

theorem report_follows (event : ProgressEvent) :
    Process.Follows writer.effect (report event) :=
  .of_idle (fun _ => rfl) fun s c hc _ => by
    rw [List.mem_singleton.1 hc]
    rfl

theorem lift_follows {α : Type} (result : Except Error α) :
    Process.Follows writer.effect (Process.lift result) := .of_idle (fun _ => rfl) (.lift _)

theorem generation_follows (hwriter : writer.OnlyFails) :
    Process.Follows writer.effect (generation config hooks writer schema) :=
  (report_follows _).bind fun _ => (Quiet.writing hwriter).follows.bind fun _ =>
    (report_follows _).bind fun _ => lift_follows _

theorem run_follows (config : GeneratorConfig) (source : SchemaSource) (hooks : GeneratorHooks)
    (hwriter : writer.OnlyFails) :
    Process.Follows writer.effect (run config source hooks writer) := by
  have hsource : Process.Follows writer.effect
      (Process.ofTraced ((source config hooks.catalog).mapCalls .catalog)) := by
    refine .of_idle (fun _ => rfl) fun s c hc _ => ?_
    obtain ⟨call, -, rfl⟩ := List.mem_map.1 hc
    rfl
  rw [run_eq]
  exact (lift_follows _).bind fun _ => (report_follows _).bind fun _ =>
    (report_follows _).bind fun _ => hsource.bind fun _ => generation_follows hwriter

theorem progress_mem_iff {event : ProgressEvent} {calls : List GeneratorCall} :
    .progress event ∈ calls ↔ event ∈ calls.filterMap (·.event?) := by
  rw [List.mem_filterMap]
  constructor
  · exact fun h => ⟨_, h, rfl⟩
  · rintro ⟨call, hcall, hevent⟩
    cases call with
    | progress => exact Option.some.inj hevent ▸ hcall
    | catalog | model | rendered | prepare | writeTable | writeIndex => contradiction

theorem opening_events :
    (opening config source hooks).filterMap (·.event?) = [.connecting, .fetchingSchema] := by
  have hcatalog (calls : List CatalogCall) :
      (calls.map GeneratorCall.catalog).filterMap (·.event?) = [] := by
    rw [List.filterMap_map, List.filterMap_eq_nil_iff]
    exact fun _ _ => rfl
  exact congrArg (fun events => [.connecting, .fetchingSchema] ++ events) (hcatalog _)

theorem opening_onWriter : (opening config source hooks).filter (·.isOnWriter) = [] := by
  have hcatalog (calls : List CatalogCall) :
      (calls.map GeneratorCall.catalog).filter (·.isOnWriter) = [] := by
    rw [List.filter_map, List.map_eq_nil_iff, List.filter_eq_nil_iff]
    exact fun _ _ => nofun
  exact hcatalog _

theorem writing_events (hwriter : writer.OnlyFails) (s : σ) :
    (writing config hooks writer schema s).calls.filterMap (·.event?) = [] :=
  List.filterMap_eq_nil_iff.2 ((Quiet.writing hwriter).silent s)

theorem writing_of_empty (h : schema.tables = []) (s : σ) :
    (writing config hooks writer schema s).outcome = .ok {} := by
  rw [writing, checkModules, h]
  rfl

/-- Runs that end in a failure report no end, and find a table or fail before they could. -/
theorem OrderedRun.of_failure {s : σ} {t : Trail σ GeneratorCall Error GenerationReport} {e : Error}
    {ms : List (TableModel × RenderedModule)} (hwriter : writer.OnlyFails)
    (hrun : run config source hooks writer s = t) (herror : t.outcome = .error e)
    (hfails : e.IsFailure)
    (hrefused : ∀ e, config.validate = .error e → t = ⟨[], s, .error e⟩)
    (hevents : t.calls.filterMap (·.event?) <+: stages (source config hooks.catalog).outcome)
    (hdone : .done ∉ t.calls.filterMap (·.event?))
    (hmatched : config.validate = .ok () → ∀ schema,
      (source config hooks.catalog).outcome = .ok schema → schema.tables ≠ [])
    (hwrites : WritesInOrder config.modelBuilder hooks
      (fetchedTables (source config hooks.catalog).outcome) t.calls ms) :
    OrderedRun config source hooks writer s t ms := by
  have hfollows := run_follows config source hooks hwriter
  subst hrun
  refine ⟨hrefused, hevents, iff_of_false (mt progress_mem_iff.1 hdone) ?_, fun name => ?_, hwrites,
    hfollows.state s, hfollows.before s, fun report h => ?_⟩
  · rintro (⟨report, h⟩ | ⟨name, h⟩)
    · exact absurd (herror.symm.trans h) nofun
    · exact hfails name (Except.error.inj (herror.symm.trans h))
  · refine iff_of_false (fun h => hfails name (Except.error.inj (herror.symm.trans h))) ?_
    rintro ⟨-, hvalid, schema, hfetched, hnone⟩
    exact hmatched hvalid schema hfetched hnone
  · exact absurd (herror.symm.trans h) nofun

theorem fetched_events (hwriter : writer.OnlyFails) (s : σ) :
    (opening config source hooks ++ .progress (.generating schema.tables.length) ::
      (writing config hooks writer schema s).calls).filterMap (·.event?) =
      [.connecting, .fetchingSchema, .generating schema.tables.length] := by
  have hcons (event : ProgressEvent) (calls : List GeneratorCall) :
      (.progress event :: calls).filterMap (·.event?) = event :: calls.filterMap (·.event?) := rfl
  rw [List.filterMap_append, opening_events, hcons, writing_events hwriter]
  rfl

theorem fetched_onWriter (s : σ) :
    (opening config source hooks ++ .progress (.generating schema.tables.length) ::
      (writing config hooks writer schema s).calls).filter (·.isOnWriter) =
      (writing config hooks writer schema s).calls.filter (·.isOnWriter) := by
  rw [List.filter_append, opening_onWriter]
  rfl

theorem ordered_of_refused {s : σ} {e : Error} (hwriter : writer.OnlyFails)
    (h : config.validate = .error e) :
    OrderedRun config source hooks writer s (run config source hooks writer s) [] := by
  have hrun := run_of_refused source hooks writer s h
  have hrefused (d : Error) (hd : config.validate = .error d) :
      (⟨[], s, .error e⟩ : Trail σ GeneratorCall Error GenerationReport) = ⟨[], s, .error d⟩ := by
    rw [Except.error.inj (h.symm.trans hd)]
  rw [hrun]
  exact .of_failure hwriter hrun rfl (config.validate_onlyFails e h) hrefused List.nil_prefix
    List.not_mem_nil (fun hvalid => absurd (h.symm.trans hvalid) nofun)
    ⟨List.nil_prefix, .inl ⟨rfl, rfl⟩⟩

theorem ordered_of_unfetched {s : σ} {e : Error} (hwriter : writer.OnlyFails)
    (hfails : e.IsFailure) (hvalid : config.validate = .ok ())
    (h : (source config hooks.catalog).outcome = .error e) :
    OrderedRun config source hooks writer s (run config source hooks writer s) [] := by
  have hrun := run_of_unfetched source hooks writer s hvalid h
  rw [hrun]
  refine .of_failure hwriter hrun rfl hfails (fun d hd => absurd (hvalid.symm.trans hd) nofun)
    ?_ ?_ (fun _ schema hs => absurd (h.symm.trans hs) nofun)
    ⟨List.nil_prefix, .inl ⟨opening_onWriter, rfl⟩⟩
  · rw [opening_events, h]
    exact List.prefix_rfl
  · rw [opening_events]
    decide

theorem ordered_of_unwritten {s : σ} {e : Error} {ms : List (TableModel × RenderedModule)}
    (hwriter : writer.OnlyFails) (hvalid : config.validate = .ok ())
    (hfetched : (source config hooks.catalog).outcome = .ok schema)
    (hwrites : WritesInOrder config.modelBuilder hooks schema.tables
      (writing config hooks writer schema s).calls ms)
    (h : (writing config hooks writer schema s).outcome = .error e) :
    OrderedRun config source hooks writer s (run config source hooks writer s) ms := by
  have hrun := run_of_fetched source hooks writer s hvalid hfetched
  rw [generation_of_unwritten h] at hrun
  rw [hrun]
  refine .of_failure hwriter hrun rfl ((Quiet.writing hwriter).fails s e h)
    (fun d hd => absurd (hvalid.symm.trans hd) nofun) ?_ ?_ (fun _ schema' hschema hnil => ?_) ?_
  · rw [fetched_events hwriter, hfetched]
    exact ⟨[.done], rfl⟩
  · rw [fetched_events hwriter]
    simp
  · obtain rfl := Except.ok.inj (hfetched.symm.trans hschema)
    exact absurd (h.symm.trans (writing_of_empty hnil s)) nofun
  · rw [hfetched]
    exact hwrites.of_filter_eq (fetched_onWriter s)

theorem reports_eq_nil_iff {builder : ModelBuilder} {tables : List Table}
    {ms : List (TableModel × RenderedModule)}
    (hall : ms.map Except.ok = tables.map (rendering builder hooks)) :
    (({} : Written).addAll ms).reports = [] ↔ tables = [] := by
  have hlength : ms.length = tables.length := by simpa using congrArg List.length hall
  rw [← List.length_eq_zero_iff (l := tables), ← hlength, List.length_eq_zero_iff]
  exact List.map_eq_nil_iff

theorem ordered_of_written {s : σ} {ms : List (TableModel × RenderedModule)}
    (hwriter : writer.OnlyFails) (hvalid : config.validate = .ok ())
    (hfetched : (source config hooks.catalog).outcome = .ok schema)
    (hwrites : WritesInOrder config.modelBuilder hooks schema.tables
      (writing config hooks writer schema s).calls ms)
    (hall : ms.map Except.ok = schema.tables.map (rendering config.modelBuilder hooks))
    (h : (writing config hooks writer schema s).outcome = .ok (({} : Written).addAll ms)) :
    OrderedRun config source hooks writer s (run config source hooks writer s) ms := by
  have hfollows := run_follows config source hooks hwriter
  have hstate := hfollows.state s
  have hbefore := hfollows.before s
  have hrun := run_of_fetched source hooks writer s hvalid hfetched
  have hcalls : opening config source hooks ++ .progress (.generating schema.tables.length) ::
      ((writing config hooks writer schema s).calls ++ [.progress .done]) =
      (opening config source hooks ++ .progress (.generating schema.tables.length) ::
        (writing config hooks writer schema s).calls) ++ [.progress .done] := by
    rw [List.append_assoc, List.cons_append]
  -- A run that finds no table is reported as done before it ends in its error.
  have hreports := reports_eq_nil_iff hall
  rw [generation_of_written h, hcalls] at hrun
  rw [hrun] at hstate hbefore ⊢
  refine ⟨fun d hd => absurd (hvalid.symm.trans hd) nofun, ?_, iff_of_true ?_ ?_, fun name => ?_,
    ?_, hstate, hbefore, fun report hreport => ?_⟩
  · rw [List.filterMap_append, fetched_events hwriter, hfetched]
    exact List.prefix_rfl
  · exact List.mem_append_right _ (List.mem_singleton.2 rfl)
  · cases hend : concluded config schema (({} : Written).addAll ms) with
    | ok report => exact .inl ⟨report, rfl⟩
    | error e =>
      exact .inr ⟨config.schema, congrArg Except.error (concluded_eq_error_iff.1 hend).2⟩
  · rw [concluded_eq_error_iff, hreports, Error.noTablesMatched.injEq]
    constructor
    · exact fun hend => ⟨hend.2, hvalid, schema, hfetched, hend.1⟩
    · rintro ⟨hname, -, schema', hschema, hnil⟩
      obtain rfl := Except.ok.inj (hfetched.symm.trans hschema)
      exact ⟨hnil, hname⟩
  · rw [hfetched]
    refine hwrites.of_filter_eq ?_
    rw [List.filter_append, fetched_onWriter]
    exact List.append_nil _
  · rw [hfetched]
    exact ⟨hall, concluded_eq_ok hreport⟩

/-- Whatever fails, the calls of a run come in one order, and its outcome tells how far it got. -/
theorem run_ordered (config : GeneratorConfig) (source : SchemaSource) (hooks : GeneratorHooks)
    (writer : Writer σ) (s : σ) (hsource : OnlyFails (source config hooks.catalog).outcome)
    (hwriter : writer.OnlyFails) :
    ∃ ms, OrderedRun config source hooks writer s (run config source hooks writer s) ms := by
  cases hvalid : config.validate with
  | error e => exact ⟨[], ordered_of_refused hwriter hvalid⟩
  | ok u =>
    cases hfetched : (source config hooks.catalog).outcome with
    | error e => exact ⟨[], ordered_of_unfetched hwriter (hsource e hfetched) hvalid hfetched⟩
    | ok schema =>
      obtain ⟨ms, hwrites, hall⟩ := writing_writesInOrder config hooks writer schema s
      cases hwritten : (writing config hooks writer schema s).outcome with
      | error e => exact ⟨ms, ordered_of_unwritten hwriter hvalid hfetched hwrites hwritten⟩
      | ok written =>
        obtain ⟨hrendered, rfl⟩ := hall written hwritten
        exact ⟨ms, ordered_of_written hwriter hvalid hfetched hwrites hrendered hwritten⟩

/-- A run over two tables whose writer fails at the second of them, having made its file. -/
theorem run_ordered_interrupted :
    let config : GeneratorConfig :=
      { connection := { connectionString := some "postgres://localhost/app" } }
    let row (table name type : String) : RawColumn :=
      ⟨name, table, .table, "public", type, false, none, none, none, [], [], 1⟩
    let rows := [row "users" "id" "int4", row "orders" "note" "text"]
    let writer : Writer MemoryStore := { MemoryStore.writer with
      writeTable := fun r s =>
        if r.fileName = "users.ts" then (s.put r.fileName "", .error (.io (.refused "room")))
        else (s.put r.fileName r.content, .ok ()) }
    let t := run config (.ofRows rows) {} writer {}
    t.outcome = .error (.io (.refused "room")) ∧
      t.state.files.map Prod.fst = ["users.ts", "orders.ts"] ∧
      (Process.replay writer.effect t.calls {}).1 = t.state ∧
      t.calls.filterMap (·.event?) <+:
        [.connecting, .fetchingSchema, .generating 2, .done] ∧
      .progress .done ∉ t.calls := by
  intro config row rows writer t
  have hwriter : writer.OnlyFails := by
    intro c s
    cases c with
    | writeTable r =>
      show OnlyFails (if r.fileName = "users.ts" then _ else _ : MemoryStore × Except Error Unit).2
      split
      · rintro e h
        cases h
        exact fun _ => nofun
      · exact .ok ()
    | progress | catalog | model | rendered | prepare | writeIndex => exact .ok ()
  have houtcome : t.outcome = .error (.io (.refused "room")) := by decide +kernel
  have hfiles : t.state.files.map Prod.fst = ["users.ts", "orders.ts"] := by decide +kernel
  have hstages : stages (SchemaSource.ofRows rows config {}).outcome =
      [.connecting, .fetchingSchema, .generating 2, .done] := by decide +kernel
  obtain ⟨ms, hordered⟩ :=
    run_ordered config _ {} writer {} (SchemaSource.ofRows_onlyFails rows _ _) hwriter
  refine ⟨houtcome, hfiles, hordered.state, hstages ▸ hordered.events, fun hdone => ?_⟩
  rcases hordered.done.1 hdone with ⟨report, hok⟩ | ⟨name, hunmatched⟩
  · exact absurd (houtcome.symm.trans hok) nofun
  · exact absurd (houtcome.symm.trans hunmatched) nofun

end Order

end Generator

end ZodCatalog
