import ZodCatalog.Proofs.RunOrder

/-! Runs on different writers. What a run does next depends on its writer only in that a call may
fail, so its calls replayed on another writer, where none fails, are the calls of the run on that
writer. -/

namespace ZodCatalog

namespace Process

variable {σ τ κ ε α β : Type} {effect : κ → σ → σ × Except ε Unit}
  {effect' : κ → τ → τ × Except ε Unit}

theorem replay_left {cs ds : List κ} {s : σ} (h : (replay effect (cs ++ ds) s).2 = .ok ()) :
    (replay effect cs s).2 = .ok () := by
  induction cs generalizing s with
  | nil => rfl
  | cons c cs ih =>
    rw [List.cons_append, replay] at h
    rw [replay]
    cases hc : (effect c s).2 with
    | error e =>
      rw [hc] at h
      contradiction
    | ok u =>
      rw [hc] at h
      exact ih h

/-- Two computations that make the same calls, with the same outcome, from states where none of the
calls of the first fails. -/
structure Retraces (effect : κ → σ → σ × Except ε Unit) (effect' : κ → τ → τ × Except ε Unit)
    (x : Process σ κ ε α) (y : Process τ κ ε α) : Prop where
  left : Follows effect x
  right : Follows effect' y
  same : ∀ s s', (replay effect (x s).calls s).2 = .ok () →
    (replay effect' (x s).calls s').2 = .ok () →
      (y s').calls = (x s).calls ∧ (y s').outcome = (x s).outcome

namespace Retraces

variable {x : Process σ κ ε α} {y : Process τ κ ε α} {f : α → Process σ κ ε β}
  {g : α → Process τ κ ε β}

theorem bind (hx : Retraces effect effect' x y) (hf : ∀ a, Retraces effect effect' (f a) (g a)) :
    Retraces effect effect' (x >>= f) (y >>= g) where
  left := hx.left.bind fun a => (hf a).left
  right := hx.right.bind fun a => (hf a).right
  same s s' hs hs' := by
    cases h : (x s).outcome with
    | error e =>
      rw [bind_of_error h] at hs hs' ⊢
      obtain ⟨hcalls, houtcome⟩ := hx.same s s' hs hs'
      rw [bind_of_error (houtcome.trans h)]
      exact ⟨hcalls, rfl⟩
    | ok a =>
      rw [bind_of_ok h] at hs hs' ⊢
      obtain ⟨hcalls, houtcome⟩ := hx.same s s' (replay_left hs) (replay_left hs')
      -- The second part starts from the states that the first one has led to.
      have hstate := hx.left.state s
      have hstate' := hx.right.state s'
      rw [hcalls] at hstate'
      rw [replay_append (replay_left hs), hstate] at hs
      rw [replay_append (replay_left hs'), hstate'] at hs'
      obtain ⟨hrest, hend⟩ := (hf a).same _ _ hs hs'
      rw [bind_of_ok (houtcome.trans h)]
      exact ⟨by rw [hcalls, hrest], hend⟩

/-- Calls without effect are the same wherever they are made. -/
theorem ofTraced {x : Traced κ ε α} (h : ∀ c ∈ x.calls, ∀ s, effect c s = (s, .ok ()))
    (h' : ∀ c ∈ x.calls, ∀ s, effect' c s = (s, .ok ())) :
    Retraces effect effect' (Process.ofTraced x) (Process.ofTraced x) where
  left := .of_idle (fun _ => rfl) fun _ => h
  right := .of_idle (fun _ => rfl) fun _ => h'
  same _ _ _ _ := ⟨rfl, rfl⟩

theorem lift (result : Except ε α) :
    Retraces effect effect' (Process.lift result) (Process.lift result) :=
  ofTraced (x := Traced.lift result) (fun _ h => nomatch h) fun _ h => nomatch h

theorem pure (a : α) : Retraces effect effect' (Pure.pure a) (Pure.pure a) := lift (.ok a)

theorem callOn (c : κ) :
    Retraces effect effect' (Process.callOn c (effect c)) (Process.callOn c (effect' c)) where
  left := .callOn rfl
  right := .callOn rfl
  same s s' hs hs' := by
    have hsingle {ρ : Type} {step : κ → ρ → ρ × Except ε Unit} {r : ρ}
        (h : (replay step [c] r).2 = .ok ()) : (step c r).2 = .ok () := by
      rw [replay] at h
      cases hc : (step c r).2 with
      | ok u => rfl
      | error e =>
        rw [hc] at h
        contradiction
    exact ⟨rfl, (hsingle hs').trans (hsingle hs).symm⟩

theorem ite {c : Prop} [Decidable c] {x' : Process σ κ ε α} {y' : Process τ κ ε α}
    (h : Retraces effect effect' x y) (h' : Retraces effect effect' x' y') :
    Retraces effect effect' (if c then x else x') (if c then y else y') := by
  split
  · exact h
  · exact h'

end Retraces
end Process

namespace Generator

variable {σ τ : Type} (builder : ModelBuilder) (config : GeneratorConfig) (source : SchemaSource)
  (hooks : GeneratorHooks) (w : Writer σ) (w' : Writer τ)

/-- Calls that are none of the writer's are made alike. -/
theorem traced_retraces {α : Type} {x : Traced GeneratorCall Error α}
    (h : ∀ c ∈ x.calls, c.isOnWriter = false) :
    Process.Retraces w.effect w'.effect (Process.ofTraced x) (Process.ofTraced x) :=
  .ofTraced (fun c hc => w.effect_of_not_isOnWriter (h c hc))
    fun c hc => w'.effect_of_not_isOnWriter (h c hc)

theorem report_retraces (event : ProgressEvent) :
    Process.Retraces w.effect w'.effect (report event) (report event) := by
  have hcall : ∀ c ∈ (Traced.call (GeneratorCall.progress event)
      (.ok () : Except Error Unit)).calls, c.isOnWriter = false := by
    intro c hc
    rw [List.mem_singleton.1 hc]
    rfl
  exact traced_retraces w w' hcall

theorem renderTable_retraces (t : Table) :
    Process.Retraces w.effect w'.effect (renderTable builder hooks t)
      (renderTable builder hooks t) := by
  obtain ⟨x, hx, hhook, -⟩ := renderTable_eq_ofTraced builder hooks t
  rw [hx, hx]
  exact traced_retraces w w' fun c hc => (GeneratorCall.isHook_silent (hhook c hc)).1

theorem writeModule_retraces (written : Written) (t : Table) :
    Process.Retraces w.effect w'.effect (writeModule builder hooks w written t)
      (writeModule builder hooks w' written t) := by
  have hprepare : Process.Retraces w.effect w'.effect (prepareFirst w written)
      (prepareFirst w' written) := .ite (.callOn GeneratorCall.prepare) (.pure ())
  have hwrite (m : TableModel × RenderedModule) : Process.Retraces w.effect w'.effect
      (writeRendered w written m) (writeRendered w' written m) :=
    .bind (.ite (.lift _) (.pure ())) fun _ =>
      .bind (.callOn (GeneratorCall.writeTable m.2)) fun _ => .pure _
  exact hprepare.bind fun _ => (renderTable_retraces builder hooks w w' t).bind hwrite

theorem writeTables_retraces (written : Written) (ts : List Table) :
    Process.Retraces w.effect w'.effect (writeTables builder hooks w written ts)
      (writeTables builder hooks w' written ts) := by
  induction ts generalizing written with
  | nil => exact .pure written
  | cons t ts ih =>
    rw [writeTables_cons, writeTables_cons]
    exact (writeModule_retraces builder hooks w w' written t).bind ih

theorem generation_retraces (schema : Schema) :
    Process.Retraces w.effect w'.effect (generation config hooks w schema)
      (generation config hooks w' schema) := by
  have hindex (written : Written) : Process.Retraces w.effect w'.effect (writeIndex w written)
      (writeIndex w' written) := .ite (.pure ()) (.callOn (GeneratorCall.writeIndex _))
  have hwriting : Process.Retraces w.effect w'.effect (writing config hooks w schema)
      (writing config hooks w' schema) :=
    .bind (.lift _) fun _ => .bind (writeTables_retraces _ hooks w w' {} _) fun written =>
      .bind (hindex written) fun _ => .pure written
  exact (report_retraces w w' _).bind fun _ => hwriting.bind fun _ =>
    (report_retraces w w' _).bind fun _ => .lift _

/-- Runs of one configuration on two writers make the same calls, and end the same, if none of
these calls fails on either. -/
theorem run_retraces : Process.Retraces w.effect w'.effect (run config source hooks w)
    (run config source hooks w') := by
  have hsource : Process.Retraces w.effect w'.effect
      (Process.ofTraced ((source config hooks.catalog).mapCalls .catalog))
      (Process.ofTraced ((source config hooks.catalog).mapCalls .catalog)) := by
    refine traced_retraces w w' fun c hc => ?_
    obtain ⟨call, -, rfl⟩ := List.mem_map.1 hc
    rfl
  rw [run_eq, run_eq]
  exact .bind (.lift _) fun _ => (report_retraces w w' _).bind fun _ =>
    (report_retraces w w' _).bind fun _ => hsource.bind fun schema =>
      generation_retraces config hooks w w' schema

end Generator
end ZodCatalog
