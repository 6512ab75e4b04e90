import Mathlib.Algebra.Order.BigOperators.Group.Finset
import OcpDiag.Lib.ThreadPool

set_option autoImplicit false

/- Threads that wait for mutexes: when one of them can go on, and how long they can go on for. -/
namespace Runs

variable {σ α : Type*} {step : σ → α → Option σ}

/-- A run of steps that each lower a measure is no longer than the measure. -/
theorem length_add_le_of_lowers (ok : α → Prop) (Inv : σ → Prop) (measure : σ → Nat)
    (lowers : ∀ state label next, ok label → Inv state → step state label = some next →
      Inv next ∧ measure next < measure state)
    (state final : σ) (labels : List α) (each : ∀ label ∈ labels, ok label) (initial : Inv state)
    (reached : run step state labels = some final) :
    labels.length + measure final ≤ measure state := by
  induction labels generalizing state with
  | nil =>
      obtain rfl := Option.some.inj reached
      simp
  | cons label rest ih =>
      obtain ⟨next, stepped, remaining⟩ := (run_cons_eq_some step state final label rest).mp reached
      obtain ⟨kept, lower⟩ :=
        lowers state label next (each label List.mem_cons_self) initial stepped
      have shorter := ih next (fun other member => each other (List.mem_cons_of_mem label member))
        kept remaining
      rw [List.length_cons]
      omega

theorem run_append (state middle final : σ) (first second : List α)
    (reached : run step state first = some middle)
    (further : run step middle second = some final) :
    run step state (first ++ second) = some final := by
  induction first generalizing state with
  | nil => exact Option.some.inj reached ▸ further
  | cons label rest ih =>
      obtain ⟨next, stepped, remaining⟩ :=
        (run_cons_eq_some step state middle label rest).mp reached
      exact (run_cons_eq_some step state final label (rest ++ second)).mpr
        ⟨next, stepped, ih next remaining⟩

end Runs

namespace ThreadPool

variable {σ φ α : Type*}

/-- Where a thread that cannot go on waits for one at a higher level, some thread can go on. -/
theorem exists_ready (busy ready : ThreadId → Prop) (level : ThreadId → Nat) (top : Nat)
    (bounded : ∀ thread, level thread ≤ top)
    (waits : ∀ thread, busy thread → ready thread ∨
      ∃ holder, busy holder ∧ level thread < level holder)
    (thread : ThreadId) (inCall : busy thread) : ∃ other, busy other ∧ ready other := by
  induction distance : top - level thread using Nat.strongRecOn generalizing thread with
  | ind distance ih =>
      rcases waits thread inCall with goesOn | ⟨holder, holds, above⟩
      · exact ⟨thread, inCall, goesOn⟩
      · have limit := bounded holder
        exact ih (top - level holder) (by omega) holder holds rfl

/-- What is left of the calls of the threads. -/
def work (rank : φ → Nat) (threads : Finset ThreadId) (pool : Pool σ φ) : Nat :=
  threads.sum fun thread => rank (pool.frames thread)

theorem work_update_lt (rank : φ → Nat) (threads : Finset ThreadId) (pool : Pool σ φ) (shared : σ)
    (thread : ThreadId) (frame : φ) (member : thread ∈ threads)
    (lower : rank frame < rank (pool.frames thread)) :
    work rank threads ⟨shared, Function.update pool.frames thread frame⟩ <
      work rank threads pool := by
  refine Finset.sum_lt_sum (fun other _ => ?_) ⟨thread, member, ?_⟩
  · by_cases same : other = thread
    · subst same
      simpa only [Function.update_self] using Nat.le_of_lt lower
    · simp only [ne_eq, same, not_false_eq_true, Function.update_of_ne, Nat.le_refl]
  · simpa only [Function.update_self] using lower

theorem work_le (rank : φ → Nat) (most : Nat) (bounded : ∀ frame, rank frame ≤ most)
    (threads : Finset ThreadId) (pool : Pool σ φ) :
    work rank threads pool ≤ threads.card * most :=
  Finset.sum_le_card_nsmul threads _ most fun thread _ => bounded (pool.frames thread)

end ThreadPool
