import ZodCatalog.Generator.Document
import ZodCatalog.Proofs.Failures
import ZodCatalog.Proofs.ProcessLaws

/-! The part of a run that writes the modules of the tables. One table makes at most one write,
and the tables of a run are written in their order until one of them fails. -/

namespace ZodCatalog

/-- Whether a call is one of the writer's. -/
def GeneratorCall.isOnWriter : GeneratorCall → Bool
  | prepare => true
  | writeTable _ => true
  | writeIndex _ => true
  | _ => false

theorem Writer.effect_of_not_isOnWriter {σ : Type} (w : Writer σ) {c : GeneratorCall}
    (h : c.isOnWriter = false) (s : σ) : w.effect c s = (s, .ok ()) := by
  cases c with
  | progress | catalog | model | rendered => rfl
  | prepare | writeTable | writeIndex => contradiction

theorem GeneratorCall.isHook_silent {c : GeneratorCall} (h : c.isHook = true) :
    c.isOnWriter = false ∧ c.event? = none := by
  cases c with
  | catalog | model | rendered => exact ⟨rfl, rfl⟩
  | progress | prepare | writeTable | writeIndex => contradiction

namespace Generator

section Rendering

variable (builder : ModelBuilder) (hooks : GeneratorHooks) (t : Table)

/-- The model and the module of a table, or the error of a hook. No state takes part in it. -/
def rendering : Except Error (TableModel × RenderedModule) :=
  (renderTable builder hooks t ()).outcome

/-- The calls on the hooks of a table, with its model and its module in the end. -/
def tracedRendering : Traced GeneratorCall Error (TableModel × RenderedModule) := do
  let model ← (builder.build hooks.model t).mapCalls .model
  let rendered ← Traced.call (.rendered model (model.emit builder.profile))
    ((hooks.rendered model (model.emit builder.profile)).mapError .hook)
  return (model, rendered)

theorem renderTable_eq (σ : Type) :
    @renderTable σ builder hooks t = Process.ofTraced (tracedRendering builder hooks t) := by
  rw [tracedRendering, Process.ofTraced_bind]
  refine congrArg _ (funext fun m => ?_)
  rw [Process.ofTraced_bind]
  rfl

theorem rendering_eq : rendering builder hooks t = (tracedRendering builder hooks t).outcome := by
  rw [rendering, renderTable_eq]
  rfl

theorem renderTable_eq_ofTraced : ∃ x : Traced GeneratorCall Error (TableModel × RenderedModule),
    (∀ σ, @renderTable σ builder hooks t = Process.ofTraced x) ∧
      (∀ c ∈ x.calls, c.isHook = true) ∧ OnlyFails x.outcome := by
  refine ⟨tracedRendering builder hooks t, renderTable_eq builder hooks t, fun c hc => ?_, ?_⟩
  · rcases Traced.mem_calls_bind hc with hc | ⟨m, hc⟩
    · obtain ⟨call, -, rfl⟩ := List.mem_map.1 hc
      rfl
    · rcases Traced.mem_calls_bind hc with hc | ⟨r, hc⟩
      · rw [List.mem_singleton.1 hc]
        rfl
      · contradiction
  · have hbuilt : OnlyFails
        ((builder.build hooks.model t).mapCalls GeneratorCall.model).outcome :=
      builder.build_onlyFails hooks.model t
    exact hbuilt.traced_bind fun m => .traced_bind (.hook _) fun r => .ok (m, r)

variable {builder hooks t} {σ : Type}

theorem renderTable_apply (s : σ) : renderTable builder hooks t s =
    ⟨(renderTable builder hooks t s).calls, s, rendering builder hooks t⟩ := by
  obtain ⟨x, hx, -⟩ := renderTable_eq_ofTraced builder hooks t
  rw [rendering, hx, hx]
  rfl

theorem renderTable_calls :
    Process.AllCalls (·.isHook = true) (@renderTable σ builder hooks t) := by
  obtain ⟨x, hx, hcalls, -⟩ := renderTable_eq_ofTraced builder hooks t
  rw [hx]
  exact fun s => hcalls

theorem rendering_onlyFails : OnlyFails (rendering builder hooks t) := by
  obtain ⟨x, hx, -, hfails⟩ := renderTable_eq_ofTraced builder hooks t
  rw [rendering, hx]
  exact hfails

end Rendering

/-- The index lines and reports with those of more modules. -/
def Written.addAll (w : Written) (ms : List (TableModel × RenderedModule)) : Written where
  lines := w.lines ++ ms.map (·.2.indexLine)
  reports := w.reports ++ ms.map fun m => TableReport.ofModel m.1 m.2.fileName

theorem Written.addAll_append (w : Written) (ms ns : List (TableModel × RenderedModule)) :
    w.addAll (ms ++ ns) = (w.addAll ms).addAll ns := by
  simp [Written.addAll]

section Steps

variable {σ : Type} (builder : ModelBuilder) (hooks : GeneratorHooks) (writer : Writer σ)

/-- The writer is prepared while nothing is written. -/
def prepareFirst (written : Written) : Process σ GeneratorCall Error Unit :=
  if written.reports.isEmpty then Process.callOn .prepare writer.prepare else pure ()

/-- Refuses a module with the file name of one that is written. -/
def refuseShared (written : Written) (m : TableModel × RenderedModule) :
    Process σ GeneratorCall Error Unit :=
  if written.reports.any (·.fileName == m.2.fileName) then
    Process.lift (.error (.configuration (.sharedModule m.1.tableName m.2.fileName)))
  else pure ()

/-- Writes a module whose file name is free. -/
def writeRendered (written : Written) (m : TableModel × RenderedModule) :
    Process σ GeneratorCall Error Written := do
  refuseShared written m
  Process.callOn (.writeTable m.2) (writer.writeTable m.2)
  return written.add m.1 m.2

/-- One table of a run, and what is written after it. -/
def writeModule (written : Written) (t : Table) : Process σ GeneratorCall Error Written := do
  prepareFirst writer written
  let m ← renderTable builder hooks t
  writeRendered writer written m

theorem writeTables_cons (written : Written) (t : Table) (ts : List Table) :
    writeTables builder hooks writer written (t :: ts) =
      writeModule builder hooks writer written t >>= fun w =>
        writeTables builder hooks writer w ts := by
  simp only [writeModule, writeRendered, Process.bind_assoc, Process.pure_bind]
  simp only [prepareFirst, refuseShared, Process.ite_bind]
  rfl

/-- The call that comes before the first of the tables. -/
def preparations (before : Written) (ts : List Table) : List GeneratorCall :=
  if before.reports.isEmpty && !ts.isEmpty then [.prepare] else []

/-- What the calls of a part of a run write: the modules of the first of its tables in their order,
after the writer has been prepared if nothing was written before, and all of them in the end. -/
structure Writes (ts : List Table) (before : Written) (u : Trail σ GeneratorCall Error Written)
    (ms : List (TableModel × RenderedModule)) : Prop where
  ordered : ms.map Except.ok <+: ts.map (rendering builder hooks)
  calls : u.calls.filter (·.isOnWriter) =
    preparations before ts ++ ms.map fun m => .writeTable m.2
  complete : ∀ after, u.outcome = .ok after →
    ms.map Except.ok = ts.map (rendering builder hooks) ∧ after = before.addAll ms

theorem filter_renderTable_calls (t : Table) (s : σ) :
    (renderTable builder hooks t s).calls.filter (·.isOnWriter) = [] := by
  rw [List.filter_eq_nil_iff]
  intro c hc
  simp [(GeneratorCall.isHook_silent (renderTable_calls s c hc)).1]

theorem writeRendered_calls (before : Written) (m : TableModel × RenderedModule) (s : σ) :
    (writeRendered writer before m s).calls = [] ∧
        (∃ e, (writeRendered writer before m s).outcome = .error e) ∨
      (writeRendered writer before m s).calls = [.writeTable m.2] ∧
        ∀ after, (writeRendered writer before m s).outcome = .ok after →
          after = before.addAll [m] := by
  rw [writeRendered, refuseShared]
  split
  · exact .inl ⟨rfl, _, rfl⟩
  · rw [Process.pure_bind]
    cases h : (writer.writeTable m.2 s).2 with
    | error e =>
      rw [Process.bind_of_error h]
      exact .inr ⟨rfl, fun _ => nofun⟩
    | ok u =>
      rw [Process.bind_of_ok h]
      exact .inr ⟨rfl, fun after hafter => (Except.ok.inj hafter).symm⟩

/-- One table prepares the writer at most, or writes its module too. -/
theorem writeModule_writes (before : Written) (t : Table) (s : σ) :
    ∃ ms, Writes builder hooks [t] before (writeModule builder hooks writer before t s) ms := by
  have hprepare : (prepareFirst writer before s).calls.filter (·.isOnWriter) =
      preparations before [t] := by
    rw [prepareFirst, preparations]
    cases before.reports.isEmpty <;> rfl
  have hfailed (calls : List GeneratorCall) (s' : σ) (e : Error)
      (hcalls : calls.filter (·.isOnWriter) = preparations before [t]) :
      Writes builder hooks [t] before ⟨calls, s', .error e⟩ [] :=
    ⟨List.nil_prefix, hcalls.trans (List.append_nil _).symm, fun _ => nofun⟩
  rw [writeModule]
  cases hprepared : (prepareFirst writer before s).outcome with
  | error e =>
    rw [Process.bind_of_error hprepared]
    exact ⟨[], hfailed _ _ e hprepare⟩
  | ok u =>
    rw [Process.bind_of_ok hprepared]
    generalize (prepareFirst writer before s).state = s₁
    have hrendered : (renderTable builder hooks t s₁).outcome = rendering builder hooks t := by
      rw [renderTable_apply]
    -- The hooks are called between preparing and writing, and are no calls on the writer.
    have hcalls (tail : List GeneratorCall) :
        ((prepareFirst writer before s).calls ++ ((renderTable builder hooks t s₁).calls ++
          tail)).filter (·.isOnWriter) =
        preparations before [t] ++ tail.filter (·.isOnWriter) := by
      rw [List.filter_append, List.filter_append, hprepare, filter_renderTable_calls]
      rfl
    cases hm : rendering builder hooks t with
    | error e =>
      rw [Process.bind_of_error (hrendered.trans hm)]
      refine ⟨[], hfailed _ _ e ?_⟩
      simpa using hcalls []
    | ok m =>
      rw [Process.bind_of_ok (hrendered.trans hm)]
      have hmodule : [m].map Except.ok = [t].map (rendering builder hooks) := by
        rw [List.map_singleton, List.map_singleton, hm]
      have hordered : [m].map Except.ok <+: [t].map (rendering builder hooks) :=
        ⟨[], by rw [List.append_nil, hmodule]⟩
      rcases writeRendered_calls writer before m (renderTable builder hooks t s₁).state with
        ⟨hnone, e, he⟩ | ⟨hwrite, hafter⟩
      · rw [hnone, he]
        refine ⟨[], hfailed _ _ e ?_⟩
        simpa using hcalls []
      · rw [hwrite]
        exact ⟨[m], hordered, hcalls [.writeTable m.2], fun after h => ⟨hmodule, hafter after h⟩⟩

/-- The tables of a run are written in their order until one fails. -/
theorem writeTables_writes (before : Written) (ts : List Table) (s : σ) :
    ∃ ms, Writes builder hooks ts before (writeTables builder hooks writer before ts s) ms := by
  induction ts generalizing before s with
  | nil =>
    have hnone : preparations before [] = [] := by simp [preparations]
    refine ⟨[], List.nil_prefix, by rw [hnone]; rfl, fun after hafter => ?_⟩
    cases hafter
    exact ⟨rfl, by simp [Written.addAll]⟩
  | cons t ts ih =>
    obtain ⟨ms, hms⟩ := writeModule_writes builder hooks writer before t s
    rw [writeTables_cons]
    cases h : (writeModule builder hooks writer before t s).outcome with
    | error e =>
      rw [Process.bind_of_error h]
      exact ⟨ms, hms.ordered.trans (List.prefix_append _ _), hms.calls, fun _ => nofun⟩
    | ok mid =>
      obtain ⟨hall, rfl⟩ := hms.complete mid h
      obtain ⟨m, rfl⟩ : ∃ m, ms = [m] := by
        rw [← List.length_eq_one_iff]
        simpa using congrArg List.length hall
      obtain ⟨ns, hns⟩ := ih (before.addAll [m]) (writeModule builder hooks writer before t s).state
      -- After a first module nothing is prepared again.
      have hprepared : preparations (before.addAll [m]) ts = [] := by
        simp [preparations, Written.addAll]
      have hnext := hns.calls
      rw [hprepared] at hnext
      rw [Process.bind_of_ok h]
      refine ⟨[m] ++ ns, ?_, ?_, fun after hafter => ?_⟩
      · rw [List.map_append, hall]
        exact (List.prefix_append_right_inj _).2 hns.ordered
      · rw [List.filter_append, hms.calls, hnext, List.map_append, List.append_assoc]
        rfl
      · obtain ⟨hrest, rfl⟩ := hns.complete after hafter
        rw [List.map_append, hall, hrest, Written.addAll_append]
        exact ⟨rfl, rfl⟩

end Steps

/-- A part of a run that reports no event, follows its writer, and ends in failures only. -/
structure Quiet {σ α : Type} (writer : Writer σ) (x : Process σ GeneratorCall Error α) : Prop where
  follows : Process.Follows writer.effect x
  silent : Process.AllCalls (·.event? = none) x
  fails : ∀ s, OnlyFails (x s).outcome

namespace Quiet

variable {σ α β : Type} {writer : Writer σ} {builder : ModelBuilder} {hooks : GeneratorHooks}

theorem bind {x : Process σ GeneratorCall Error α} {f : α → Process σ GeneratorCall Error β}
    (hx : Quiet writer x) (hf : ∀ a, Quiet writer (f a)) : Quiet writer (x >>= f) where
  follows := hx.follows.bind fun a => (hf a).follows
  silent := hx.silent.bind fun a => (hf a).silent
  fails s := .process_bind (hx.fails s) fun a => (hf a).fails _

theorem pure (a : α) : Quiet writer (Pure.pure a : Process σ GeneratorCall Error α) :=
  ⟨.pure a, .pure a, fun _ => .ok a⟩

theorem callOn (hwriter : writer.OnlyFails) {c : GeneratorCall} (hc : c.isOnWriter = true) :
    Quiet writer (Process.callOn c (writer.effect c)) where
  follows := .callOn rfl
  silent := by
    intro s d hd
    rw [List.mem_singleton.1 hd]
    cases c with
    | prepare | writeTable | writeIndex => rfl
    | progress | catalog | model | rendered => contradiction
  fails := hwriter c

theorem renderTable (t : Table) : Quiet writer (renderTable builder hooks t) where
  follows := by
    refine .of_idle (fun s => ?_) fun s c hc s' => ?_
    · rw [renderTable_apply]
    · exact writer.effect_of_not_isOnWriter
        (GeneratorCall.isHook_silent (renderTable_calls s c hc)).1 s'
  silent s c hc := (GeneratorCall.isHook_silent (renderTable_calls s c hc)).2
  fails s := by
    rw [renderTable_apply]
    exact rendering_onlyFails

theorem refuseShared (written : Written) (m : TableModel × RenderedModule) :
    Quiet writer (refuseShared written m) := by
  rw [Generator.refuseShared]
  split
  · exact ⟨.of_idle (fun _ => rfl) (.lift _), .lift _, fun _ => .configuration _⟩
  · exact .pure ()

theorem writeRendered (hwriter : writer.OnlyFails) (written : Written)
    (m : TableModel × RenderedModule) : Quiet writer (writeRendered writer written m) :=
  (refuseShared written m).bind fun _ =>
    (callOn (c := .writeTable m.2) hwriter rfl).bind fun _ => .pure _

theorem writeModule (hwriter : writer.OnlyFails) (written : Written) (t : Table) :
    Quiet writer (writeModule builder hooks writer written t) := by
  have hprepare : Quiet writer (prepareFirst writer written) := by
    rw [prepareFirst]
    split
    · exact callOn (c := .prepare) hwriter rfl
    · exact .pure ()
  exact hprepare.bind fun _ => (renderTable t).bind fun m => writeRendered hwriter written m

theorem writeTables (hwriter : writer.OnlyFails) (written : Written) (ts : List Table) :
    Quiet writer (writeTables builder hooks writer written ts) := by
  induction ts generalizing written with
  | nil => exact .pure written
  | cons t ts ih =>
    rw [writeTables_cons]
    exact (writeModule hwriter written t).bind ih

theorem writeIndex (hwriter : writer.OnlyFails) (written : Written) :
    Quiet writer (writeIndex writer written) := by
  rw [Generator.writeIndex]
  split
  · exact .pure ()
  · exact callOn (c := .writeIndex _) hwriter rfl

end Quiet

end Generator
end ZodCatalog
