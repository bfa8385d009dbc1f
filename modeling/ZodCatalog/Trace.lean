/-!
Computations that record the calls they make. A call stays recorded when a later step fails.
`Traced` is for calls without effect on a state; `Process` threads the state that calls change,
and keeps it when a call fails.
-/

namespace ZodCatalog

/-- The calls made, in order, and how the computation ended. -/
structure Traced (κ ε α : Type) where
  calls : List κ
  outcome : Except ε α

namespace Traced

variable {κ κ' ε α β : Type}

def bind (x : Traced κ ε α) (f : α → Traced κ ε β) : Traced κ ε β :=
  match x.outcome with
  | .error e => ⟨x.calls, .error e⟩
  | .ok a => ⟨x.calls ++ (f a).calls, (f a).outcome⟩

instance : Monad (Traced κ ε) where
  pure a := ⟨[], .ok a⟩
  bind := bind

/-- Records a call and takes its result. -/
def call (c : κ) (result : Except ε α) : Traced κ ε α := ⟨[c], result⟩

def lift (result : Except ε α) : Traced κ ε α := ⟨[], result⟩

def mapCalls (f : κ → κ') (x : Traced κ ε α) : Traced κ' ε α := ⟨x.calls.map f, x.outcome⟩

@[simp] theorem calls_pure (a : α) : (pure a : Traced κ ε α).calls = [] := rfl

@[simp] theorem outcome_pure (a : α) : (pure a : Traced κ ε α).outcome = .ok a := rfl

theorem bind_of_ok {x : Traced κ ε α} {a : α} (h : x.outcome = .ok a) (f : α → Traced κ ε β) :
    x >>= f = ⟨x.calls ++ (f a).calls, (f a).outcome⟩ := by
  show bind x f = _
  simp [bind, h]

theorem bind_of_error {x : Traced κ ε α} {e : ε} (h : x.outcome = .error e)
    (f : α → Traced κ ε β) : x >>= f = ⟨x.calls, .error e⟩ := by
  show bind x f = _
  simp [bind, h]

/-- What was called before a step stays called after it. -/
theorem calls_prefix_bind (x : Traced κ ε α) (f : α → Traced κ ε β) :
    x.calls <+: (x >>= f).calls := by
  cases h : x.outcome with
  | error e => simp [bind_of_error h]
  | ok a => simp [bind_of_ok h]

end Traced

/-- The calls made, the state after them, and how the computation ended. -/
structure Trail (σ κ ε α : Type) where
  calls : List κ
  state : σ
  outcome : Except ε α

/-- A computation on a state. -/
def Process (σ κ ε α : Type) := σ → Trail σ κ ε α

namespace Process

variable {σ κ ε α β : Type}

def bind (x : Process σ κ ε α) (f : α → Process σ κ ε β) : Process σ κ ε β := fun s =>
  let t := x s
  match t.outcome with
  | .error e => ⟨t.calls, t.state, .error e⟩
  | .ok a =>
    let u := f a t.state
    ⟨t.calls ++ u.calls, u.state, u.outcome⟩

instance : Monad (Process σ κ ε) where
  pure a := fun s => ⟨[], s, .ok a⟩
  bind := bind

/-- Records a call that does not touch the state. -/
def call (c : κ) (result : Except ε α) : Process σ κ ε α := fun s => ⟨[c], s, result⟩

/-- Records a call on the state. -/
def callOn (c : κ) (action : σ → σ × Except ε α) : Process σ κ ε α := fun s =>
  ⟨[c], (action s).1, (action s).2⟩

def lift (result : Except ε α) : Process σ κ ε α := fun s => ⟨[], s, result⟩

def ofTraced (x : Traced κ ε α) : Process σ κ ε α := fun s => ⟨x.calls, s, x.outcome⟩

theorem bind_of_ok {x : Process σ κ ε α} {s : σ} {a : α} (h : (x s).outcome = .ok a)
    (f : α → Process σ κ ε β) :
    (x >>= f) s =
      ⟨(x s).calls ++ (f a (x s).state).calls, (f a (x s).state).state,
        (f a (x s).state).outcome⟩ := by
  show bind x f s = _
  simp [bind, h]

theorem bind_of_error {x : Process σ κ ε α} {s : σ} {e : ε} (h : (x s).outcome = .error e)
    (f : α → Process σ κ ε β) : (x >>= f) s = ⟨(x s).calls, (x s).state, .error e⟩ := by
  show bind x f s = _
  simp [bind, h]

end Process

end ZodCatalog
