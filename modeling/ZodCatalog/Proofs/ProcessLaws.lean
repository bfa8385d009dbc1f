import ZodCatalog.Trace

/-! Properties of computations that every step passes on: which calls they make, and that they stop
at the first call that fails. Each has one law for `bind`. -/

namespace ZodCatalog

theorem eq_ok_of_mapError {ε ε' α : Type} {f : ε → ε'} {x : Except ε α} {a : α}
    (h : x.mapError f = .ok a) : x = .ok a := by
  cases x with
  | ok a' => exact congrArg _ (Except.ok.inj h)
  | error d => contradiction

theorem exists_of_mapError {ε ε' α : Type} {f : ε → ε'} {x : Except ε α} {e : ε'}
    (h : x.mapError f = .error e) : ∃ d, e = f d := by
  cases x with
  | ok a => contradiction
  | error d => exact ⟨d, (Except.error.inj h).symm⟩

namespace Traced

variable {κ ε α β : Type} {x : Traced κ ε α} {f : α → Traced κ ε β}

theorem mem_calls_bind {c : κ} (h : c ∈ (x >>= f).calls) : c ∈ x.calls ∨ ∃ a, c ∈ (f a).calls := by
  cases hx : x.outcome with
  | error e =>
    rw [bind_of_error hx] at h
    exact .inl h
  | ok a =>
    rw [bind_of_ok hx] at h
    exact (List.mem_append.1 h).imp id fun hf => ⟨a, hf⟩

theorem exists_of_bind_ok {b : β} (h : (x >>= f).outcome = .ok b) :
    ∃ a, x.outcome = .ok a ∧ (f a).outcome = .ok b := by
  cases hx : x.outcome with
  | error e =>
    rw [bind_of_error hx] at h
    contradiction
  | ok a =>
    rw [bind_of_ok hx] at h
    exact ⟨a, rfl, h⟩

theorem error_of_bind {e : ε} (h : (x >>= f).outcome = .error e) :
    x.outcome = .error e ∨ ∃ a, x.outcome = .ok a ∧ (f a).outcome = .error e := by
  cases hx : x.outcome with
  | error d =>
    rw [bind_of_error hx] at h
    exact .inl (congrArg _ (Except.error.inj h))
  | ok a =>
    rw [bind_of_ok hx] at h
    exact .inr ⟨a, rfl, h⟩

end Traced

namespace Process

variable {σ κ ε α β γ : Type}

theorem pure_bind (a : α) (f : α → Process σ κ ε β) : pure a >>= f = f a := rfl

theorem bind_assoc (x : Process σ κ ε α) (f : α → Process σ κ ε β) (g : β → Process σ κ ε γ) :
    x >>= f >>= g = x >>= fun a => f a >>= g := by
  funext s
  cases hx : (x s).outcome with
  | error e => rw [bind_of_error hx, bind_of_error (e := e) (by rw [bind_of_error hx]),
      bind_of_error hx]
  | ok a =>
    rw [bind_of_ok hx]
    cases hf : (f a (x s).state).outcome with
    | error e =>
      have hxf : ((x >>= f) s).outcome = .error e := by rw [bind_of_ok hx, hf]
      rw [bind_of_error hxf, bind_of_ok hx, bind_of_error hf]
    | ok b =>
      have hxf : ((x >>= f) s).outcome = .ok b := by rw [bind_of_ok hx, hf]
      rw [bind_of_ok hxf, bind_of_ok hx, bind_of_ok hf, List.append_assoc]

theorem lift_error_bind (e : ε) (f : α → Process σ κ ε β) :
    lift (.error e) >>= f = lift (.error e) := rfl

theorem lift_ok_bind (a : α) (f : α → Process σ κ ε β) : lift (.ok a) >>= f = f a := rfl

theorem bind_pure_apply (x : Process σ κ ε α) (b : β) (s : σ) :
    (x >>= fun _ => pure b) s = ⟨(x s).calls, (x s).state, (x s).outcome.map fun _ => b⟩ := by
  cases h : (x s).outcome with
  | error e =>
    rw [bind_of_error h]
    rfl
  | ok a =>
    have hnil : (x s).calls ++ ((pure b : Process σ κ ε β) (x s).state).calls = (x s).calls :=
      List.append_nil _
    rw [bind_of_ok h, hnil]
    rfl

/-- A step that is only made under a condition. -/
theorem ite_bind (c : Prop) [Decidable c] (x : Process σ κ ε Unit) (f : Unit → Process σ κ ε β) :
    (if c then x else pure ()) >>= f = if c then x >>= f else f () := by
  split <;> rfl

theorem ofTraced_bind (x : Traced κ ε α) (f : α → Traced κ ε β) :
    (ofTraced (x >>= f) : Process σ κ ε β) = ofTraced x >>= fun a => ofTraced (f a) := by
  funext s
  cases hx : x.outcome with
  | error e =>
    have hs : ((ofTraced x : Process σ κ ε α) s).outcome = .error e := hx
    rw [bind_of_error hs, ofTraced, Traced.bind_of_error hx]
    rfl
  | ok a =>
    have hs : ((ofTraced x : Process σ κ ε α) s).outcome = .ok a := hx
    rw [bind_of_ok hs, ofTraced, Traced.bind_of_ok hx]
    rfl

/-- All calls have a property, whatever the state. -/
def AllCalls (P : κ → Prop) (x : Process σ κ ε α) : Prop := ∀ s, ∀ c ∈ (x s).calls, P c

section Properties

variable {x : Process σ κ ε α} {f : α → Process σ κ ε β}

theorem AllCalls.bind {P : κ → Prop} (hx : AllCalls P x) (hf : ∀ a, AllCalls P (f a)) :
    AllCalls P (x >>= f) := by
  intro s c hc
  cases h : (x s).outcome with
  | error e =>
    rw [bind_of_error h] at hc
    exact hx s c hc
  | ok a =>
    rw [bind_of_ok h] at hc
    exact (List.mem_append.1 hc).elim (hx s c) (hf a _ c)

theorem AllCalls.lift {P : κ → Prop} (result : Except ε α) :
    AllCalls P (Process.lift result : Process σ κ ε α) :=
  fun _ _ h => absurd h List.not_mem_nil

theorem AllCalls.pure {P : κ → Prop} (a : α) : AllCalls P (Pure.pure a : Process σ κ ε α) :=
  AllCalls.lift (.ok a)

end Properties

/-- The effects of calls one after the other, up to the first that fails. -/
def replay (effect : κ → σ → σ × Except ε Unit) : List κ → σ → σ × Except ε Unit
  | [], s => (s, .ok ())
  | c :: cs, s =>
    match (effect c s).2 with
    | .ok () => replay effect cs (effect c s).1
    | .error e => ((effect c s).1, .error e)

/-- A computation whose calls have the given effects, of which only the last may fail. -/
structure Follows (effect : κ → σ → σ × Except ε Unit) (x : Process σ κ ε α) : Prop where
  state : ∀ s, (replay effect (x s).calls s).1 = (x s).state
  succeeded : ∀ s a, (x s).outcome = .ok a → (replay effect (x s).calls s).2 = .ok ()
  before : ∀ s earlier c later, (x s).calls = earlier ++ c :: later →
    (replay effect earlier s).2 = .ok ()

section Replay

variable {effect : κ → σ → σ × Except ε Unit}

theorem replay_append {cs : List κ} {s : σ} (h : (replay effect cs s).2 = .ok ()) (ds : List κ) :
    replay effect (cs ++ ds) s = replay effect ds (replay effect cs s).1 := by
  induction cs generalizing s with
  | nil => rfl
  | cons c cs ih =>
    rw [List.cons_append, replay]
    rw [replay] at h ⊢
    cases hc : (effect c s).2 with
    | error e => simp [hc] at h
    | ok u =>
      simp only [hc] at h ⊢
      exact ih h

theorem replay_of_idle {cs : List κ} (h : ∀ c ∈ cs, ∀ s, effect c s = (s, .ok ())) (s : σ) :
    replay effect cs s = (s, .ok ()) := by
  induction cs with
  | nil => rfl
  | cons c cs ih =>
    rw [replay, h c List.mem_cons_self s]
    exact ih fun d hd => h d (List.mem_cons_of_mem _ hd)

namespace Follows

variable {x : Process σ κ ε α} {f : α → Process σ κ ε β}

theorem bind (hx : Follows effect x) (hf : ∀ a, Follows effect (f a)) :
    Follows effect (x >>= f) := by
  have happend (s : σ) (a : α) (h : (x s).outcome = .ok a) (ds : List κ) :
      replay effect ((x s).calls ++ ds) s = replay effect ds (x s).state := by
    rw [replay_append (hx.succeeded s a h), hx.state]
  refine ⟨fun s => ?_, fun s b hb => ?_, fun s earlier c later hcalls => ?_⟩
  · cases h : (x s).outcome with
    | error e =>
      rw [bind_of_error h]
      exact hx.state s
    | ok a =>
      rw [bind_of_ok h]
      exact (congrArg Prod.fst (happend s a h _)).trans ((hf a).state _)
  · cases h : (x s).outcome with
    | error e =>
      rw [bind_of_error h] at hb
      contradiction
    | ok a =>
      rw [bind_of_ok h] at hb ⊢
      exact (congrArg Prod.snd (happend s a h _)).trans ((hf a).succeeded _ b hb)
  · cases h : (x s).outcome with
    | error e =>
      rw [bind_of_error h] at hcalls
      exact hx.before s earlier c later hcalls
    | ok a =>
      rw [bind_of_ok h] at hcalls
      -- The cut lies in the calls of the first part, at their end, or behind it.
      rcases List.append_eq_append_iff.1 hcalls with ⟨ds, rfl, hds⟩ | ⟨ds, hds, htail⟩
      · rw [happend s a h]
        exact (hf a).before _ ds c later hds
      · cases ds with
        | nil =>
          rw [List.append_nil] at hds
          exact hds ▸ hx.succeeded s a h
        | cons d ds => exact hx.before s earlier d ds hds

theorem pure (a : α) : Follows effect (Pure.pure a : Process σ κ ε α) :=
  ⟨fun _ => rfl, fun _ _ _ => rfl, fun _ _ _ _ h => by simp [Pure.pure] at h⟩

/-- Calls without effect may be made in any number and end in any outcome. -/
theorem of_idle (hstate : ∀ s, (x s).state = s)
    (hcalls : AllCalls (fun c => ∀ s, effect c s = (s, .ok ())) x) : Follows effect x := by
  refine ⟨fun s => ?_, fun s _ _ => ?_, fun s earlier c later h => ?_⟩
  · rw [replay_of_idle (hcalls s), hstate]
  · rw [replay_of_idle (hcalls s)]
  · rw [replay_of_idle fun d hd => hcalls s d (h ▸ List.mem_append_left _ hd)]

theorem callOn {c : κ} {action : σ → σ × Except ε Unit} (h : effect c = action) :
    Follows effect (Process.callOn c action) := by
  have hreplay (s : σ) : replay effect [c] s = action s := by
    subst h
    rw [replay]
    cases hc : (effect c s).2 with
    | ok u => exact Prod.ext rfl hc.symm
    | error e => exact Prod.ext rfl hc.symm
  refine ⟨fun s => congrArg Prod.fst (hreplay s), fun s a ha => ?_, fun s earlier d later hd => ?_⟩
  · exact (congrArg Prod.snd (hreplay s)).trans ha
  · obtain ⟨rfl, -⟩ := List.append_eq_singleton_iff.1 hd.symm |>.resolve_right (by simp)
    rfl

end Follows
end Replay

end Process
end ZodCatalog
