import OcpDiag.Lib.ThreadPool

set_option autoImplicit false

/- An object whose calls run under one mutex. Each call takes several steps, and steps of
different threads interleave, but the calls take effect one after the other. -/
namespace CriticalSection

open ThreadPool

variable {σ κ lam α : Type*}

/-- How a call starts inside the section, and one step of it. The step that leaves the
section has no local state after it. -/
structure Monitor (σ κ lam α : Type*) where
  enter : κ → lam
  micro : α → σ → lam → Option (σ × Option lam)

structure Guarded (σ : Type*) where
  lock : Option ThreadId
  object : σ

/-- The calls a thread still has to make, and its local state while it is in one. -/
structure Worker (κ lam : Type*) where
  todo : List κ
  inside : Option lam

inductive Action (α : Type*) where
  | acquire
  | advance (label : α)

variable (monitor : Monitor σ κ lam α)

def exec (action : Action α) (thread : ThreadId) (shared : Guarded σ) (worker : Worker κ lam) :
    Option (Guarded σ × Worker κ lam) :=
  match action with
  | .acquire =>
      match worker.inside, worker.todo, shared.lock with
      | none, call :: rest, none =>
          some (⟨some thread, shared.object⟩, ⟨rest, some (monitor.enter call)⟩)
      | _, _, _ => none
  | .advance label =>
      worker.inside.bind fun frame =>
        (monitor.micro label shared.object frame).map fun (object, after) =>
          (⟨if after.isSome then shared.lock else none, object⟩, ⟨worker.todo, after⟩)

theorem exec_cases (action : Action α) (thread : ThreadId) (shared : Guarded σ)
    (worker : Worker κ lam) (next : Guarded σ × Worker κ lam)
    (taken : exec monitor action thread shared worker = some next) :
    (∃ call rest, worker.inside = none ∧ worker.todo = call :: rest ∧ shared.lock = none ∧
      next = (⟨some thread, shared.object⟩, ⟨rest, some (monitor.enter call)⟩)) ∨
    (∃ label frame object after, worker.inside = some frame ∧
      monitor.micro label shared.object frame = some (object, after) ∧
      next = (⟨if after.isSome then shared.lock else none, object⟩, ⟨worker.todo, after⟩)) := by
  cases action with
  | acquire =>
      simp only [exec] at taken
      split at taken
      · rename_i call rest outside todo free
        exact Or.inl ⟨call, rest, outside, todo, free, (Option.some.inj taken).symm⟩
      · cases taken
  | advance label =>
      simp only [exec, Option.bind_eq_some_iff, Option.map_eq_some_iff, Prod.exists] at taken
      obtain ⟨frame, inside, object, after, moved, same⟩ := taken
      exact Or.inr ⟨label, frame, object, after, inside, moved, same.symm⟩

/-- The steps of one call with no other thread in between. -/
inductive Steps (start : σ) (call : κ) : σ → Option lam → Prop
  | enter : Steps start call start (some (monitor.enter call))
  | advance (label : α) (object next : σ) (frame : lam) (after : Option lam) :
      Steps start call object (some frame) →
      monitor.micro label object frame = some (next, after) →
      Steps start call next after

/-- Complete calls, one after the other. -/
inductive Serial (init : σ) : List (ThreadId × κ) → σ → Prop
  | nil : Serial init [] init
  | snoc (history : List (ThreadId × κ)) (thread : ThreadId) (call : κ) (object final : σ) :
      Serial init history object → Steps monitor object call final none →
      Serial init (history ++ [(thread, call)]) final

def callsOf (thread : ThreadId) (history : List (ThreadId × κ)) : List κ :=
  (history.filter (·.1 == thread)).map (·.2)

theorem callsOf_snoc (thread caller : ThreadId) (call : κ) (history : List (ThreadId × κ)) :
    callsOf thread (history ++ [(caller, call)]) =
      if caller = thread then callsOf thread history ++ [call] else callsOf thread history := by
  by_cases same : caller = thread <;> simp [callsOf, List.filter_append, same]

/-- The thread in the section, if there is one, is some way into its call; all other calls
have run one after the other, those of each thread in the order of its program. -/
def Serialized (init : σ) (programs : ThreadId → List κ)
    (pool : Pool (Guarded σ) (Worker κ lam)) : Prop :=
  ∃ history object, Serial monitor init history object ∧
    match pool.shared.lock with
    | none => pool.shared.object = object ∧
        ∀ thread, (pool.frames thread).inside = none ∧
          programs thread = callsOf thread history ++ (pool.frames thread).todo
    | some holder => ∃ call frame, (pool.frames holder).inside = some frame ∧
        Steps monitor object call pool.shared.object (some frame) ∧
        programs holder = callsOf holder history ++ call :: (pool.frames holder).todo ∧
        ∀ thread, thread ≠ holder → (pool.frames thread).inside = none ∧
          programs thread = callsOf thread history ++ (pool.frames thread).todo

theorem serialized_step (init : σ) (programs : ThreadId → List κ)
    (pool : Pool (Guarded σ) (Worker κ lam)) (label : ThreadId × Action α)
    (final : Pool (Guarded σ) (Worker κ lam)) (serialized : Serialized monitor init programs pool)
    (stepped : poolStep (exec monitor) pool label = some final) :
    Serialized monitor init programs final := by
  obtain ⟨thread, action⟩ := label
  obtain ⟨history, object, serial, shape⟩ := serialized
  obtain ⟨⟨lock, current⟩, frames⟩ := pool
  obtain ⟨shared, worker, taken, rfl⟩ := (poolStep_eq_some _ _ _ _).mp stepped
  rcases exec_cases monitor action thread _ _ _ taken with
    ⟨call, rest, outside, todo, free, same⟩ | ⟨step, frame, object', after, inside, moved, same⟩
  · obtain ⟨rfl, rfl⟩ := Prod.mk.inj same
    obtain rfl : lock = none := free
    obtain ⟨rfl, idle⟩ := shape
    refine ⟨history, current, serial, call, monitor.enter call, by simp, .enter, ?_, ?_⟩
    · simp only [Function.update_self]
      exact todo ▸ (idle thread).2
    · intro other different
      simpa only [Function.update_of_ne different] using idle other
  · obtain ⟨rfl, rfl⟩ := Prod.mk.inj same
    cases lock with
    | none =>
        obtain ⟨_, idle⟩ := shape
        rw [(idle thread).1] at inside
        cases inside
    | some holder =>
        obtain ⟨call, frame', inside', steps, mine, others⟩ := shape
        have acting : thread = holder := by
          refine Classical.byContradiction fun different => ?_
          rw [(others thread different).1] at inside
          cases inside
        subst acting
        obtain rfl := Option.some.inj (inside.symm.trans inside')
        have advanced := Steps.advance step current object' frame after steps moved
        cases after with
        | some frame =>
            refine ⟨history, object, serial, call, frame, by simp, advanced, ?_, ?_⟩
            · simpa only [Function.update_self] using mine
            · intro other different
              simpa only [Function.update_of_ne different] using others other different
        | none =>
            refine ⟨history ++ [(thread, call)], object',
              .snoc history thread call object object' serial advanced, rfl, fun other => ?_⟩
            rw [callsOf_snoc]
            by_cases same : other = thread
            · subst same
              simp [mine]
            · simpa only [Function.update_of_ne same, Ne.symm same, ↓reduceIte] using
                others other same

/-- Every interleaving of the steps is a history of complete calls. -/
theorem serialized_run (init : σ) (programs : ThreadId → List κ)
    (pool : Pool (Guarded σ) (Worker κ lam)) (labels : List (ThreadId × Action α))
    (reached : Runs.run (poolStep (exec monitor))
      ⟨⟨none, init⟩, fun thread => ⟨programs thread, none⟩⟩ labels = some pool) :
    Serialized monitor init programs pool := by
  refine Runs.run_preserves _ (Serialized monitor init programs)
    (serialized_step monitor init programs) _ pool labels ?_ reached
  exact ⟨[], init, .nil, rfl, fun thread => ⟨rfl, rfl⟩⟩

end CriticalSection
