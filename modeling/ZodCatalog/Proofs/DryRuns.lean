import ZodCatalog.Proofs.DirectoryWrites
import ZodCatalog.Proofs.RunReplays

/-! A run in memory shows what a run on a directory does. Both make the same calls, and the files in
memory are those that the directory gets, beside what it keeps of the ones it had. -/

namespace ZodCatalog

namespace Generator

section Calls

variable {σ : Type} {config : GeneratorConfig} {source : SchemaSource} {catalog : CatalogHooks}
  {writer : Writer σ}

theorem writerCalls_writesName {tables : List Table} {b : ModelBuilder}
    {ms : List (TableModel × RenderedModule)}
    (h : ms.map Except.ok <+: tables.map (rendering b { catalog })) (indexed : Bool) :
    ∃ cs, writerCalls ms indexed = .prepare :: cs ∧ ∀ c ∈ cs, c.WritesName := by
  refine ⟨_, rfl, fun c hc => ?_⟩
  rcases List.mem_append.1 hc with hc | hc
  · obtain ⟨m, hm, rfl⟩ := List.mem_map.1 hc
    obtain ⟨t, -, ht⟩ := List.mem_map.1 (h.subset (List.mem_map_of_mem hm))
    rw [rendering_plain] at ht
    obtain rfl := Except.ok.inj ht
    exact ⟨_, rfl, Path.isName_module t.name⟩
  · cases indexed with
    | false => contradiction
    | true =>
      rw [List.mem_singleton.1 hc]
      exact ⟨_, rfl, Path.isName_indexFile⟩

/-- When no hook changes its modules, a run leaves its writer alone, or prepares it and writes
files under names for them. -/
theorem run_calls_writesName (config : GeneratorConfig) (source : SchemaSource)
    (catalog : CatalogHooks) (writer : Writer σ) (s : σ) :
    (run config source { catalog } writer s).calls.filter (·.isOnWriter) = [] ∨
      ∃ cs, (run config source { catalog } writer s).calls.filter (·.isOnWriter) =
        .prepare :: cs ∧ ∀ c ∈ cs, c.WritesName := by
  cases hvalid : config.validate with
  | error e =>
    rw [run_of_refused source { catalog } writer s hvalid]
    exact .inl rfl
  | ok u =>
    cases hfetched : (source config catalog).outcome with
    | error e =>
      rw [run_of_unfetched source { catalog } writer s hvalid hfetched]
      exact .inl opening_onWriter
    | ok schema =>
      obtain ⟨ms, hwrites, -⟩ := writing_writesInOrder config { catalog } writer schema s
      rw [(run_onWriter hvalid hfetched).1]
      rcases hwrites.onWriter with ⟨hnone, -⟩ | ⟨-, indexed, hcalls, -⟩
      · exact .inl hnone
      · rw [hcalls]
        exact .inr (writerCalls_writesName hwrites.ordered indexed)

end Calls

theorem memory_succeeds (cs : List GeneratorCall) (m : MemoryStore) :
    (Process.replay MemoryStore.writer.effect cs m).2 = .ok () := by
  have hcall (c : GeneratorCall) (m : MemoryStore) :
      (MemoryStore.writer.effect c m).2 = .ok () := by cases c <;> rfl
  induction cs generalizing m with
  | nil => rfl
  | cons c cs ih =>
    rw [Process.replay, hcall]
    exact ih _

/-- The state of a run is what its calls on the writer have made of the first one. -/
theorem run_state {σ : Type} (config : GeneratorConfig) (source : SchemaSource)
    (hooks : GeneratorHooks) (w : Writer σ) (s : σ) :
    (Process.replay w.effect ((run config source hooks w s).calls.filter (·.isOnWriter)) s).1 =
      (run config source hooks w s).state := by
  rw [Writer.replay_onWriter]
  exact (run_retraces config source hooks w w).left.state s

/-- What a run on a directory has done, as a run in memory shows it: with the same calls and the
same end, its tree is the one before with the directories of the path and the files in memory. -/
structure Shows (directory : String) (clean : Bool) (s : DirectoryStore) (m : MemoryStore)
    (real : Trail DirectoryStore GeneratorCall Error GenerationReport)
    (dry : Trail MemoryStore GeneratorCall Error GenerationReport) : Prop where
  calls : dry.calls = real.calls
  outcome : dry.outcome = real.outcome
  unprepared : .prepare ∉ real.calls → real.state = s ∧ dry.state = m
  tree : .prepare ∈ real.calls → ∀ place, real.state.system.node? place =
    s.system.shown directory clean dry.state.files place

section Directory

variable {config : GeneratorConfig} {source : SchemaSource} {catalog : CatalogHooks}
  {directory : String} {clean : Bool} {s : DirectoryStore}

theorem run_shows (m : MemoryStore) (hnodup : (s.system.nodes.map Prod.fst).Nodup)
    (hsucceeds : (Process.replay (DirectoryStore.writer directory clean).effect
      (run config source { catalog } (DirectoryStore.writer directory clean) s).calls s).2 =
        .ok ()) :
    Shows directory clean s m
      (run config source { catalog } (DirectoryStore.writer directory clean) s)
      (run config source { catalog } MemoryStore.writer m) := by
  have hreal := run_state config source { catalog } (DirectoryStore.writer directory clean) s
  have hmemory := run_state config source { catalog } MemoryStore.writer m
  obtain ⟨hcalls, houtcome⟩ := (run_retraces config source { catalog }
    (DirectoryStore.writer directory clean) MemoryStore.writer).same s m hsucceeds
      (memory_succeeds _ _)
  rw [hcalls] at hmemory
  rw [← Writer.replay_onWriter] at hsucceeds
  rcases run_calls_writesName config source catalog (DirectoryStore.writer directory clean) s with
    hnone | ⟨cs, honWriter, hcs⟩
  · rw [hnone] at hreal hmemory
    refine ⟨hcalls, houtcome, fun _ => ⟨hreal.symm, hmemory.symm⟩, fun hmem => ?_⟩
    exact absurd rfl (List.filter_eq_nil_iff.1 hnone _ hmem)
  · rw [honWriter] at hsucceeds hreal hmemory
    have hprepared : .prepare ∈
        (run config source { catalog } (DirectoryStore.writer directory clean) s).calls :=
      (List.mem_filter.1 (honWriter ▸ List.mem_cons_self)).1
    have hwritten : ∀ c ∈ cs, ∃ e, c.written? = some e :=
      fun c hc => (hcs c hc).imp fun _ he => he.1
    have hfiles : (run config source { catalog } MemoryStore.writer m).state.files =
        Entries.putAll (cs.filterMap (·.written?)) [] := by
      rw [← hmemory]
      exact congrArg (·.1.files) (MemoryStore.replay_writes hwritten ⟨[], true⟩)
    refine ⟨hcalls, houtcome, fun h => absurd hprepared h, fun _ place => ?_⟩
    rw [← hreal, hfiles]
    exact (DirectoryStore.replay_shows hcs hnodup hsucceeds).2.2 place

/-- The same run once more makes the same calls, and each place stays as it is. -/
theorem run_again (hnodup : (s.system.nodes.map Prod.fst).Nodup)
    (hsucceeds : (Process.replay (DirectoryStore.writer directory clean).effect
      (run config source { catalog } (DirectoryStore.writer directory clean) s).calls s).2 =
        .ok ()) :
    let real := run config source { catalog } (DirectoryStore.writer directory clean) s
    let again := run config source { catalog } (DirectoryStore.writer directory clean) real.state
    again.calls = real.calls ∧ again.outcome = real.outcome ∧
      ∀ place, again.state.system.node? place = real.state.system.node? place := by
  intro real again
  have hreal : _ = real.state :=
    run_state config source { catalog } (DirectoryStore.writer directory clean) s
  have hagain : _ = again.state :=
    run_state config source { catalog } (DirectoryStore.writer directory clean) real.state
  have hretraces := (run_retraces config source { catalog } (DirectoryStore.writer directory clean)
    (DirectoryStore.writer directory clean)).same s real.state hsucceeds
  rcases run_calls_writesName config source catalog (DirectoryStore.writer directory clean) s with
    hnone | ⟨cs, honWriter, hcs⟩
  · -- The first run did nothing, and so this one is the first run.
    rw [hnone] at hreal
    have hsame : again = real :=
      congrArg (run config source { catalog } (DirectoryStore.writer directory clean)) hreal.symm
    rw [hsame]
    exact ⟨rfl, rfl, fun _ => rfl⟩
  · rw [← Writer.replay_onWriter, honWriter] at hsucceeds
    rw [honWriter] at hreal
    obtain ⟨hcalls, houtcome⟩ := hretraces (by
      rw [← Writer.replay_onWriter, honWriter, ← hreal]
      exact DirectoryStore.replay_again hcs hnodup hsucceeds)
    refine ⟨hcalls, houtcome, fun place => ?_⟩
    rw [← hagain, hcalls, honWriter, ← hreal]
    exact DirectoryStore.replay_again_tree hcs hnodup hsucceeds place

/-- Where no call on the directory fails, a run in memory shows what the run on it does. With no
steps up in the path, only files in memory are new below the directory. The same run once more
makes the same calls and leaves each place as it is. -/
theorem run_shown (m : MemoryStore) (hnodup : (s.system.nodes.map Prod.fst).Nodup)
    (hsucceeds : (Process.replay (DirectoryStore.writer directory clean).effect
      (run config source { catalog } (DirectoryStore.writer directory clean) s).calls s).2 =
        .ok ()) :
    let real := run config source { catalog } (DirectoryStore.writer directory clean) s
    let dry := run config source { catalog } MemoryStore.writer m
    let again := run config source { catalog } (DirectoryStore.writer directory clean) real.state
    Shows directory clean s m real dry ∧
      (.prepare ∈ real.calls → ".." ∉ Path.parts directory → ∀ rest ≠ [],
        real.state.system.node? (s.system.goal directory ++ rest) =
          ((FileSystem.fileAt (s.system.goal directory) dry.state.files
              (s.system.goal directory ++ rest)).map Node.file <|>
            s.system.kept (s.system.goal directory) clean (s.system.goal directory ++ rest))) ∧
      again.calls = real.calls ∧ again.outcome = real.outcome ∧
      ∀ place, again.state.system.node? place = real.state.system.node? place := by
  intro real dry again
  have hshows : Shows directory clean s m real dry := run_shows m hnodup hsucceeds
  refine ⟨hshows, fun hprepared hup rest hrest => ?_, run_again hnodup hsucceeds⟩
  rw [hshows.tree hprepared, FileSystem.shown_below hup hrest]

/-- A table over a module of an earlier run, and another module removed. -/
theorem run_shown_cleaned :
    let config : GeneratorConfig :=
      { connection := { connectionString := some "postgres://localhost/app" } }
    let source := SchemaSource.fixed ⟨"public", [⟨"public", "users", .table, []⟩]⟩
    let s : DirectoryStore := { system := { nodes := [(["out"], .directory),
      (["out", "keep.md"], .file "x"), (["out", "old.ts"], .file "old"),
      (["out", "users.ts"], .file "older")] } }
    let real := run config source {} (DirectoryStore.writer "out" true) s
    let dry := run config source {} MemoryStore.writer {}
    (s.system.nodes.map Prod.fst).Nodup ∧
      (Process.replay (DirectoryStore.writer "out" true).effect real.calls s).2 = .ok () ∧
      dry.outcome = real.outcome ∧
      ∀ place, real.state.system.node? place =
        s.system.shown "out" true dry.state.files place := by
  intro config source s real dry
  have hnodup : (s.system.nodes.map Prod.fst).Nodup := by decide
  have hsucceeds : (Process.replay (DirectoryStore.writer "out" true).effect real.calls s).2 =
      .ok () := by decide +kernel
  have hprepared : .prepare ∈ real.calls := by decide +kernel
  have hshown := (run_shown {} hnodup hsucceeds).1
  exact ⟨hnodup, hsucceeds, hshown.outcome, hshown.tree hprepared⟩

/-- A path that leads up again from a directory that was not there leaves it in the output
directory, though no file in memory is named so. -/
theorem run_makes_subdirectory :
    let config : GeneratorConfig :=
      { connection := { connectionString := some "postgres://localhost/app" } }
    let source := SchemaSource.fixed ⟨"public", [⟨"public", "users", .table, []⟩]⟩
    let s : DirectoryStore := { system := { nodes := [(["out"], .directory),
      (["out", "keep.md"], .file "x")] } }
    let real := run config source {} (DirectoryStore.writer "out/sub/.." false) s
    let dry := run config source {} MemoryStore.writer {}
    (Process.replay (DirectoryStore.writer "out/sub/.." false).effect real.calls s).2 = .ok () ∧
      real.outcome.isOk = true ∧
      real.state.system.node? ["out", "users.ts"] = (dry.state.file? "users.ts").map Node.file ∧
      s.system.node? ["out", "sub"] = none ∧ dry.state.file? "sub" = none ∧
      real.state.system.node? ["out", "sub"] = some .directory := by
  decide +kernel

end Directory
end Generator
end ZodCatalog
