import OcpDiag.Lib.Runs

set_option autoImplicit false

/- Threads that run over one shared state. A label names the thread that takes the next
section of its own program, so the labels of a run are an interleaving. -/
namespace ThreadPool

abbrev ThreadId := Nat

variable {σ φ α : Type*}

/-- The shared state, and for each thread what is left of the call it is in. -/
structure Pool (σ φ : Type*) where
  shared : σ
  frames : ThreadId → φ

variable (exec : α → ThreadId → σ → φ → Option (σ × φ))

def poolStep (pool : Pool σ φ) (label : ThreadId × α) : Option (Pool σ φ) :=
  (exec label.2 label.1 pool.shared (pool.frames label.1)).map fun next =>
    ⟨next.1, Function.update pool.frames label.1 next.2⟩

theorem poolStep_eq_some (pool final : Pool σ φ) (label : ThreadId × α) :
    poolStep exec pool label = some final ↔
      ∃ shared frame,
        exec label.2 label.1 pool.shared (pool.frames label.1) = some (shared, frame) ∧
        final = ⟨shared, Function.update pool.frames label.1 frame⟩ := by
  simp only [poolStep, Option.map_eq_some_iff, Prod.exists]
  constructor
  · rintro ⟨shared, frame, taken, same⟩
    exact ⟨shared, frame, taken, same.symm⟩
  · rintro ⟨shared, frame, taken, same⟩
    exact ⟨shared, frame, taken, same.symm⟩

/-- Only the given threads are in a call. -/
def IdleOutside (active : List ThreadId) (idle : φ) (pool : Pool σ φ) : Prop :=
  ∀ other, other ∉ active → pool.frames other = idle

theorem idleOutside_step (active : List ThreadId) (idle : φ) (pool final : Pool σ φ)
    (label : ThreadId × α) (acting : label.1 ∈ active) (outside : IdleOutside active idle pool)
    (stepped : poolStep exec pool label = some final) : IdleOutside active idle final := by
  obtain ⟨shared, frame, _, rfl⟩ := (poolStep_eq_some exec pool final label).mp stepped
  intro other inactive
  have different : other ≠ label.1 := fun same => inactive (same ▸ acting)
  simpa only [ne_eq, different, not_false_eq_true, Function.update_of_ne] using
    outside other inactive

/-- A proof outline: an invariant of the shared state, and for each thread an assertion
at the point of its program that it has reached. -/
structure Outline (Global : σ → Prop) (Local : σ → ThreadId → φ → Prop)
    (pool : Pool σ φ) : Prop where
  shared : Global pool.shared
  threads : ∀ thread, Local pool.shared thread (pool.frames thread)

/-- The acting thread re-establishes the invariant and its own next assertion, and does
not interfere with the assertion of any other thread. -/
theorem outline_step {Global : σ → Prop} {Local : σ → ThreadId → φ → Prop}
    (pool final : Pool σ φ) (label : ThreadId × α) (outline : Outline Global Local pool)
    (stepped : poolStep exec pool label = some final)
    (own : ∀ shared frame,
      exec label.2 label.1 pool.shared (pool.frames label.1) = some (shared, frame) →
      Global shared ∧ Local shared label.1 frame)
    (stable : ∀ shared frame thread,
      exec label.2 label.1 pool.shared (pool.frames label.1) = some (shared, frame) →
      thread ≠ label.1 → Local pool.shared thread (pool.frames thread) →
      Local shared thread (pool.frames thread)) :
    Outline Global Local final := by
  obtain ⟨shared, frame, taken, rfl⟩ := (poolStep_eq_some exec pool final label).mp stepped
  obtain ⟨global, mine⟩ := own shared frame taken
  refine ⟨global, fun thread => ?_⟩
  by_cases acting : thread = label.1
  · subst acting
    simpa only [Function.update_self] using mine
  · simp only [ne_eq, acting, not_false_eq_true, Function.update_of_ne]
    exact stable shared frame thread taken acting (outline.threads thread)

/-- Rely and guarantee: every thread leaves the others a guarantee, which keeps their
assertions. -/
theorem outline_of_guarantee (Guarantee : ThreadId → σ → σ → Prop) {Global : σ → Prop}
    {Local : σ → ThreadId → φ → Prop} (pool final : Pool σ φ) (label : ThreadId × α)
    (outline : Outline Global Local pool) (stepped : poolStep exec pool label = some final)
    (own : ∀ shared frame,
      exec label.2 label.1 pool.shared (pool.frames label.1) = some (shared, frame) →
      Global shared ∧ Local shared label.1 frame ∧ Guarantee label.1 pool.shared shared)
    (stable : ∀ shared thread, thread ≠ label.1 → Guarantee label.1 pool.shared shared →
      Local pool.shared thread (pool.frames thread) → Local shared thread (pool.frames thread)) :
    Outline Global Local final := by
  refine outline_step exec pool final label outline stepped ?_ ?_
  · intro shared frame taken
    obtain ⟨global, mine, _⟩ := own shared frame taken
    exact ⟨global, mine⟩
  · intro shared frame thread taken different theirs
    obtain ⟨_, _, guarantee⟩ := own shared frame taken
    exact stable shared thread different guarantee theirs

-- What a state promises and has not done is carried by a thread, at a point of its program that
-- still does it.
variable {exec}

/-- What is promised is paid, or some thread owes it. -/
def Backed (promised paid : σ → Prop) (owes : φ → Prop) (pool : Pool σ φ) : Prop :=
  promised pool.shared → paid pool.shared ∨ ∃ thread, owes (pool.frames thread)

/-- A step pays what its thread owes or goes on owing it, and makes no promise that it neither
pays nor owes. -/
theorem backed_step {promised paid : σ → Prop} {owes : φ → Prop} {pool final : Pool σ φ}
    {label : ThreadId × α} (backed : Backed promised paid owes pool)
    (stepped : poolStep exec pool label = some final)
    (step : ∀ shared frame,
      exec label.2 label.1 pool.shared (pool.frames label.1) = some (shared, frame) →
      (paid pool.shared → paid shared) ∧
      (owes (pool.frames label.1) → paid shared ∨ owes frame) ∧
      (promised shared → promised pool.shared ∨ paid shared ∨ owes frame)) :
    Backed promised paid owes final := by
  obtain ⟨shared, frame, taken, rfl⟩ := (poolStep_eq_some exec pool final label).mp stepped
  obtain ⟨kept, owed, fresh⟩ := step shared frame taken
  have carries : owes frame →
      ∃ thread, owes (Function.update pool.frames label.1 frame thread) := fun mine =>
    ⟨label.1, by simpa only [Function.update_self] using mine⟩
  intro now
  rcases fresh now with before | done | mine
  · rcases backed before with done | ⟨thread, theirs⟩
    · exact Or.inl (kept done)
    · by_cases acting : thread = label.1
      · subst acting
        exact (owed theirs).imp_right carries
      · refine Or.inr ⟨thread, ?_⟩
        simpa only [ne_eq, acting, not_false_eq_true, Function.update_of_ne] using theirs
  · exact Or.inl done
  · exact Or.inr (carries mine)

/-- At rest everything promised has been paid. -/
theorem Backed.paid_of_rest {promised paid : σ → Prop} {owes : φ → Prop} {pool : Pool σ φ}
    (backed : Backed promised paid owes pool) (rest : ∀ thread, ¬ owes (pool.frames thread))
    (now : promised pool.shared) : paid pool.shared :=
  (backed now).resolve_right fun ⟨thread, theirs⟩ => rest thread theirs

end ThreadPool
