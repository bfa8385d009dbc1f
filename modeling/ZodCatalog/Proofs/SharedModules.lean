import ZodCatalog.Proofs.ColumnEdits
import ZodCatalog.Proofs.KeptModules

/-! Tables that share a module. A run looks for them twice: before it calls its writer, by the names
of the modules, and at each module, by the names of the files. What the first search lets pass never
stops at the second, unless a hook renames files. -/

namespace ZodCatalog

def Error.IsShared (e : Error) : Prop :=
  ∃ relation name, e = .configuration (.sharedModule relation name)

/-- Whether a call is on a hook that gets the model of a column or of a table. -/
def GeneratorCall.isOnModel : GeneratorCall → Bool
  | model _ => true
  | rendered .. => true
  | progress _ | catalog _ | prepare | writeTable _ | writeIndex _ => false

/-- Hooks that leave the names of files as they are. -/
structure GeneratorHooks.KeepFileNames (hooks : GeneratorHooks) : Prop where
  table : ∀ m edited, hooks.model.table m = .ok edited → edited.fileName = m.fileName
  rendered : ∀ m r edited, hooks.rendered m r = .ok edited → edited.fileName = r.fileName

namespace Process

variable {σ κ ε α β : Type} {x : Process σ κ ε α}

/-- How a computation goes on matters for what it can yield only. -/
theorem bind_congr {f g : α → Process σ κ ε β} (h : ∀ s a, (x s).outcome = .ok a → f a = g a) :
    x >>= f = x >>= g := by
  funext s
  cases hx : (x s).outcome with
  | error e => rw [bind_of_error hx, bind_of_error hx]
  | ok a => rw [bind_of_ok hx, bind_of_ok hx, h s a hx]

/-- Errors of a kind come from the effect of the last call. -/
def Blames (effect : κ → σ → σ × Except ε Unit) (P : ε → Prop) (x : Process σ κ ε α) : Prop :=
  ∀ s e, (x s).outcome = .error e → P e →
    ∃ earlier c before, (x s).calls = earlier ++ [c] ∧ effect c before = ((x s).state, .error e)

namespace Blames

variable {effect : κ → σ → σ × Except ε Unit} {P : ε → Prop}

theorem bind {f : α → Process σ κ ε β} (hx : Blames effect P x)
    (hf : ∀ a, Blames effect P (f a)) : Blames effect P (x >>= f) := by
  intro s e he hP
  cases h : (x s).outcome with
  | error d =>
    rw [bind_of_error h] at he ⊢
    obtain rfl : d = e := Except.error.inj he
    exact hx s d h hP
  | ok a =>
    rw [bind_of_ok h] at he ⊢
    obtain ⟨earlier, c, before, hcalls, heffect⟩ := hf a (x s).state e he hP
    exact ⟨(x s).calls ++ earlier, c, before, by rw [hcalls, List.append_assoc], heffect⟩

/-- There is nothing to blame for errors of another kind. -/
theorem of_not (h : ∀ s e, (x s).outcome = .error e → ¬ P e) : Blames effect P x :=
  fun s e he hP => absurd hP (h s e he)

theorem pure (a : α) : Blames effect P (Pure.pure a : Process σ κ ε α) := of_not fun _ _ => nofun

theorem callOn (c : κ) : Blames effect P (Process.callOn c (effect c)) :=
  fun s _ he _ => ⟨[], c, s, rfl, Prod.ext rfl he⟩

end Blames
end Process

namespace ModelBuilder

variable {b : ModelBuilder} {hooks : ModelHooks} {t : Table}

theorem exists_table_of_build {m : TableModel} (h : (b.build hooks t).outcome = .ok m) :
    ∃ ms, hooks.table (b.tableModel t ms) = .ok m := by
  obtain ⟨ms, -, htable⟩ := Traced.exists_of_bind_ok h
  exact ⟨ms, eq_ok_of_mapError htable⟩

theorem exists_hook_of_build {e : Error} (h : (b.build hooks t).outcome = .error e) :
    ∃ detail, e = .hook detail := by
  rcases Traced.error_of_bind h with hcolumns | ⟨ms, -, htable⟩
  · obtain ⟨-, -, detail, -, he⟩ := buildColumns_eq_error hcolumns
    exact ⟨detail, he⟩
  · exact exists_of_mapError htable

end ModelBuilder

namespace Generator

variable {σ : Type} {builder : ModelBuilder} {hooks : GeneratorHooks} {t : Table}

section Rendering

theorem exists_hook_of_rendering {e : Error} (h : rendering builder hooks t = .error e) :
    ∃ detail, e = .hook detail := by
  rw [rendering_eq] at h
  rcases Traced.error_of_bind h with hbuilt | ⟨m, -, hrest⟩
  · exact ModelBuilder.exists_hook_of_build hbuilt
  · rcases Traced.error_of_bind hrest with hrendered | ⟨r, -, hnever⟩
    · exact exists_of_mapError hrendered
    · contradiction

/-- Under hooks that leave names as they are, a file is named for its table. -/
theorem rendering_fileName {m : TableModel × RenderedModule} (hkeep : hooks.KeepFileNames)
    (h : rendering builder hooks t = .ok m) : m.2.fileName = moduleStem t.name ++ ".ts" := by
  rw [rendering_eq] at h
  obtain ⟨model, hbuilt, hrest⟩ := Traced.exists_of_bind_ok h
  obtain ⟨r, hrendered, hpair⟩ := Traced.exists_of_bind_ok hrest
  obtain ⟨ms, htable⟩ := ModelBuilder.exists_table_of_build hbuilt
  obtain rfl : (model, r) = m := Except.ok.inj hpair
  have hmodule : r.fileName = (model.emit builder.profile).fileName :=
    hkeep.rendered _ _ _ (eq_ok_of_mapError hrendered)
  have hmodel : model.fileName = moduleStem t.name := hkeep.table _ _ htable
  rw [hmodule, ← hmodel]
  rfl

end Rendering

section FirstSearch

/-- A table whose module one before it has, when no two before it share one. -/
def FirstShared (tables : List Table) (t : Table) : Prop :=
  ∃ earlier later, tables = earlier ++ t :: later ∧
    (earlier.map fun d => moduleStem d.name).Nodup ∧
      moduleStem t.name ∈ earlier.map fun d => moduleStem d.name

theorem firstShared?_eq_some {earlier tables : List Table} {relation name : String}
    (hnodup : (earlier.map fun d => moduleStem d.name).Nodup) {seen : List String}
    (hseen : ∀ stem, stem ∈ seen ↔ stem ∈ earlier.map fun d => moduleStem d.name)
    (h : firstShared? seen tables = some (relation, name)) :
    ∃ t, FirstShared (earlier ++ tables) t ∧ relation = t.name ∧ name = moduleStem t.name := by
  induction tables generalizing earlier seen with
  | nil => contradiction
  | cons t ts ih =>
    rw [firstShared?] at h
    split at h
    · rename_i hmem
      obtain ⟨rfl, rfl⟩ := Prod.mk.inj (Option.some.inj h)
      have hearlier := (hseen _).1 (List.contains_iff_mem.1 hmem)
      exact ⟨t, ⟨earlier, ts, rfl, hnodup, hearlier⟩, rfl, rfl⟩
    · rename_i hmem
      -- The name is new, so this table joins the earlier ones with their names still distinct.
      have hfresh : moduleStem t.name ∉ earlier.map fun d => moduleStem d.name :=
        fun hearlier => hmem (List.contains_iff_mem.2 ((hseen _).2 hearlier))
      have hnodup' : ((earlier ++ [t]).map fun d => moduleStem d.name).Nodup := by
        rw [List.map_append, List.nodup_append]
        refine ⟨hnodup, List.nodup_singleton _, fun stem hstem stem' hstem' heq => ?_⟩
        rw [heq, List.mem_singleton.1 hstem'] at hstem
        exact hfresh hstem
      have hseen' : ∀ stem, stem ∈ moduleStem t.name :: seen ↔
          stem ∈ (earlier ++ [t]).map fun d => moduleStem d.name := by
        intro stem
        rw [List.map_append, List.mem_append, List.mem_cons, hseen, or_comm]
        exact or_congr Iff.rfl List.mem_singleton.symm
      have hrest := ih hnodup' hseen' h
      rwa [List.append_assoc, List.singleton_append] at hrest

/-- Before it calls its writer, a run stops at the first table that shares its module. -/
theorem exists_firstShared {schema : Schema}
    (h : ¬ (schema.tables.map fun t => moduleStem t.name).Nodup) :
    ∃ t, FirstShared schema.tables t ∧
      checkModules schema = .error (.configuration (.sharedModule t.name (moduleStem t.name))) := by
  cases hfirst : firstShared? [] schema.tables with
  | none =>
    have hnone := firstShared?_eq_none_iff.1 hfirst
    exact absurd hnone.1 h
  | some shared =>
    obtain ⟨relation, name⟩ := shared
    have hnodup : (([] : List Table).map fun d => moduleStem d.name).Nodup := List.nodup_nil
    obtain ⟨t, hshared, rfl, rfl⟩ := firstShared?_eq_some hnodup (fun _ => Iff.rfl) hfirst
    refine ⟨t, hshared, ?_⟩
    rw [checkModules, hfirst]

end FirstSearch

section SecondSearch

variable (builder hooks) (writer : Writer σ)

/-- Writes the module of each table in turn, whatever files there are. -/
def writeFreely (written : Written) : List Table → Process σ GeneratorCall Error Written
  | [] => return written
  | t :: ts => do
    prepareFirst writer written
    let m ← renderTable builder hooks t
    Process.callOn (.writeTable m.2) (writer.writeTable m.2)
    writeFreely (written.add m.1 m.2) ts

variable {builder hooks writer}

theorem refuseShared_of_free {written : Written} {m : TableModel × RenderedModule}
    (h : ∀ r ∈ written.reports, r.fileName ≠ m.2.fileName) :
    (refuseShared written m : Process σ GeneratorCall Error Unit) = pure () := by
  have hnone : ¬ (written.reports.any (·.fileName == m.2.fileName) = true) := by
    rw [List.any_eq_true]
    rintro ⟨r, hr, hname⟩
    exact h r hr (beq_iff_eq.1 hname)
  rw [refuseShared, if_neg hnone]

theorem writeTables_eq_writeFreely_of_free {written : Written} {tables : List Table}
    (hkeep : hooks.KeepFileNames) (hnodup : (tables.map fun t => moduleStem t.name).Nodup)
    (hfree : ∀ t ∈ tables, ∀ r ∈ written.reports, r.fileName ≠ moduleStem t.name ++ ".ts") :
    writeTables builder hooks writer written tables =
      writeFreely builder hooks writer written tables := by
  induction tables generalizing written with
  | nil => rfl
  | cons t ts ih =>
    obtain ⟨hfresh, hrest⟩ := List.nodup_cons.1 hnodup
    rw [writeTables_cons]
    simp only [writeModule, writeRendered, Process.bind_assoc, Process.pure_bind, writeFreely]
    refine Process.bind_congr fun s _ _ => Process.bind_congr fun s m hm => ?_
    -- The file is named for the table, so that no file written before has its name.
    rw [renderTable_apply] at hm
    have hname := rendering_fileName hkeep hm
    have hpass : (refuseShared written m : Process σ GeneratorCall Error Unit) = pure () :=
      refuseShared_of_free fun r hr => hname ▸ hfree t List.mem_cons_self r hr
    rw [hpass, Process.pure_bind]
    refine Process.bind_congr fun s _ _ => ih hrest fun d hd r hr => ?_
    rcases List.mem_append.1 hr with hr | hr
    · exact hfree d (List.mem_cons_of_mem t hd) r hr
    · -- Nor will a later file be named like this one.
      rw [List.mem_singleton.1 hr]
      intro heq
      have hstem : moduleStem t.name = moduleStem d.name :=
        (String.append_left_inj ".ts").1 (hname.symm.trans heq)
      exact hfresh (List.mem_map.2 ⟨d, hd, hstem.symm⟩)

/-- Where modules have names of their own, the search at each module may be left out. -/
theorem writeTables_eq_writeFreely {tables : List Table} (hkeep : hooks.KeepFileNames)
    (hnodup : (tables.map fun t => moduleStem t.name).Nodup) :
    writeTables builder hooks writer {} tables = writeFreely builder hooks writer {} tables := by
  have hfree : ∀ t ∈ tables, ∀ r ∈ ({} : Written).reports,
      r.fileName ≠ moduleStem t.name ++ ".ts" :=
    fun _ _ _ hr => absurd hr List.not_mem_nil
  exact writeTables_eq_writeFreely_of_free hkeep hnodup hfree

/-- What is written freely fails for a shared module only where the writer says so. -/
theorem writeFreely_blames (written : Written) (tables : List Table) :
    Process.Blames writer.effect Error.IsShared
      (writeFreely builder hooks writer written tables) := by
  induction tables generalizing written with
  | nil => exact .pure written
  | cons t ts ih =>
    have hprepare : Process.Blames writer.effect Error.IsShared (prepareFirst writer written) := by
      rw [prepareFirst]
      split
      · exact .callOn GeneratorCall.prepare
      · exact .pure ()
    have hrender : Process.Blames writer.effect Error.IsShared
        (renderTable builder hooks t : Process σ GeneratorCall Error _) := by
      refine .of_not fun s e he hshared => ?_
      rw [renderTable_apply] at he
      obtain ⟨detail, rfl⟩ := exists_hook_of_rendering he
      obtain ⟨relation, name, hnever⟩ := hshared
      contradiction
    exact hprepare.bind fun _ => hrender.bind fun m =>
      (Process.Blames.callOn (.writeTable m.2)).bind fun _ => ih _

end SecondSearch

section Run

variable {config : GeneratorConfig} {source : SchemaSource} {writer : Writer σ} {schema : Schema}
  {s : σ}

/-- A run is refused for the first table that shares its module, before it calls its writer or a
hook on a model. -/
structure RefusedFirst (config : GeneratorConfig) (source : SchemaSource) (hooks : GeneratorHooks)
    (schema : Schema) (s : σ) (u : Trail σ GeneratorCall Error GenerationReport) : Prop where
  shared : ∃ t, FirstShared schema.tables t ∧
    u.outcome = .error (.configuration (.sharedModule t.name (moduleStem t.name)))
  calls : u.calls =
    opening config source hooks ++ [.progress (.generating schema.tables.length)]
  silent : ∀ c ∈ u.calls, c.isOnWriter = false ∧ c.isOnModel = false
  state : u.state = s

theorem run_refusedFirst (hvalid : config.validate = .ok ())
    (hfetched : (source config hooks.catalog).outcome = .ok schema)
    (h : ¬ (schema.tables.map fun t => moduleStem t.name).Nodup) :
    RefusedFirst config source hooks schema s (run config source hooks writer s) := by
  obtain ⟨t, hshared, hcheck⟩ := exists_firstShared h
  have hwriting : writing config hooks writer schema s =
      ⟨[], s, .error (.configuration (.sharedModule t.name (moduleStem t.name)))⟩ := by
    rw [writing, hcheck, Process.lift_error_bind]
    rfl
  have hrun : run config source hooks writer s =
      ⟨opening config source hooks ++ [.progress (.generating schema.tables.length)], s,
        .error (.configuration (.sharedModule t.name (moduleStem t.name)))⟩ := by
    rw [run_of_fetched source hooks writer s hvalid hfetched,
      generation_of_unwritten (congrArg Trail.outcome hwriting), hwriting]
  rw [hrun]
  refine ⟨⟨t, hshared, rfl⟩, rfl, fun c hc => ?_, rfl⟩
  rcases List.mem_append.1 hc with hc | hc
  · rcases List.mem_cons.1 hc with rfl | hc
    · exact ⟨rfl, rfl⟩
    · rcases List.mem_cons.1 hc with rfl | hc
      · exact ⟨rfl, rfl⟩
      · obtain ⟨call, -, rfl⟩ := List.mem_map.1 hc
        exact ⟨rfl, rfl⟩
  · rw [List.mem_singleton.1 hc]
    exact ⟨rfl, rfl⟩

theorem generation_blames (hkeep : hooks.KeepFileNames)
    (h : (schema.tables.map fun t => moduleStem t.name).Nodup) :
    Process.Blames writer.effect Error.IsShared (generation config hooks writer schema) := by
  have hreport (event : ProgressEvent) : Process.Blames writer.effect Error.IsShared
      (report event : Process σ GeneratorCall Error Unit) := .of_not fun _ _ => nofun
  have hindex (written : Written) :
      Process.Blames writer.effect Error.IsShared (writeIndex writer written) := by
    rw [writeIndex]
    split
    · exact .pure ()
    · exact .callOn (GeneratorCall.writeIndex _)
  have hwriting : Process.Blames writer.effect Error.IsShared
      (writing config hooks writer schema) := by
    rw [writing, checkModules_eq_ok_iff.2 h, Process.lift_ok_bind,
      writeTables_eq_writeFreely hkeep h]
    exact (writeFreely_blames {} schema.tables).bind fun written =>
      (hindex written).bind fun _ => .pure written
  have hconcluded (written : Written) : Process.Blames writer.effect Error.IsShared
      (Process.lift (concluded config schema written)) := by
    refine .of_not fun s e he hshared => ?_
    obtain ⟨-, rfl⟩ := concluded_eq_error_iff.1 he
    obtain ⟨relation, name, hnever⟩ := hshared
    contradiction
  exact (hreport _).bind fun _ => hwriting.bind fun written =>
    (hreport _).bind fun _ => hconcluded written

/-- A schema in which two tables share a module is refused before anything is called but the source.
In any other, under hooks that leave the names of files as they are, the search at each module finds
nothing, and a run ends in the error of shared modules only if that is what its last call, on the
writer, has ended in. -/
theorem run_shared_modules (hvalid : config.validate = .ok ())
    (hfetched : (source config hooks.catalog).outcome = .ok schema) (writer : Writer σ) (s : σ) :
    (¬ (schema.tables.map fun t => moduleStem t.name).Nodup →
      RefusedFirst config source hooks schema s (run config source hooks writer s)) ∧
    ((schema.tables.map fun t => moduleStem t.name).Nodup → hooks.KeepFileNames →
      writeTables config.modelBuilder hooks writer {} schema.tables =
          writeFreely config.modelBuilder hooks writer {} schema.tables ∧
        ∀ e, e.IsShared → (run config source hooks writer s).outcome = .error e →
          ∃ earlier c before, (run config source hooks writer s).calls = earlier ++ [c] ∧
            c.isOnWriter = true ∧
            writer.effect c before = ((run config source hooks writer s).state, .error e)) := by
  refine ⟨run_refusedFirst hvalid hfetched, fun hnodup hkeep =>
    ⟨writeTables_eq_writeFreely hkeep hnodup, fun e hshared he => ?_⟩⟩
  rw [run_of_fetched source hooks writer s hvalid hfetched] at he ⊢
  obtain ⟨earlier, c, before, hcalls, heffect⟩ := generation_blames hkeep hnodup s e he hshared
  have hwriter : c.isOnWriter = true := by
    by_contra hother
    rw [writer.effect_of_not_isOnWriter (Bool.eq_false_iff.2 hother)] at heffect
    exact absurd (congrArg Prod.snd heffect) nofun
  refine ⟨opening config source hooks ++ earlier, c, before, ?_, hwriter, heffect⟩
  rw [List.append_assoc, ← hcalls]

end Run

/-- Two spellings of one name are refused under a hook that adds to modules; two names are not. -/
theorem run_shared_modules_spelled :
    let config : GeneratorConfig :=
      { connection := { connectionString := some "postgres://localhost/app" } }
    let hooks : GeneratorHooks :=
      { rendered := fun _ r => .ok { r with content := r.content ++ "// checked" } }
    let twins : Schema :=
      ⟨"public", [⟨"public", "user_posts", .table, []⟩, ⟨"public", "UserPosts", .view, []⟩]⟩
    let apart : Schema :=
      ⟨"public", [⟨"public", "user_posts", .table, []⟩, ⟨"public", "users", .view, []⟩]⟩
    RefusedFirst config (SchemaSource.fixed twins) hooks twins {}
        (run config (SchemaSource.fixed twins) hooks MemoryStore.writer {}) ∧
      hooks.KeepFileNames ∧
      writeTables config.modelBuilder hooks MemoryStore.writer {} apart.tables =
        writeFreely config.modelBuilder hooks MemoryStore.writer {} apart.tables := by
  intro config hooks twins apart
  have hkeep : hooks.KeepFileNames := by
    refine ⟨fun m edited h => ?_, fun m r edited h => ?_⟩
    · rw [← Except.ok.inj h]
    · rw [← Except.ok.inj h]
  have htwins : ¬ (twins.tables.map fun t => moduleStem t.name).Nodup := by decide +kernel
  have hapart : (apart.tables.map fun t => moduleStem t.name).Nodup := by decide +kernel
  have hvalid : config.validate = .ok () := by decide
  have hfetched (schema : Schema) :
      (SchemaSource.fixed schema config hooks.catalog).outcome = .ok schema := rfl
  have hrefused := (run_shared_modules hvalid (hfetched twins) MemoryStore.writer {}).1 htwins
  have hwritten := (run_shared_modules hvalid (hfetched apart) MemoryStore.writer {}).2 hapart hkeep
  exact ⟨hrefused, hkeep, hwritten.1⟩

end Generator

end ZodCatalog
