import Mathlib.Algebra.BigOperators.Group.Finset.Basic
import Mathlib.Algebra.Order.BigOperators.Group.Finset
import Mathlib.Data.Multiset.AddSub
import Mathlib.Tactic.Abel
import OcpDiag.Lib.ThreadPool

set_option autoImplicit false

/- Items that calls submit and threads carry to the shared state. An item is lost only with the
thread that carries it. -/
namespace ThreadPool

variable {σ φ α β : Type*}

/-- What the threads carry. -/
def inFlight (carries : φ → Multiset β) (threads : Finset ThreadId) (pool : Pool σ φ) :
    Multiset β :=
  threads.sum fun thread => carries (pool.frames thread)

theorem inFlight_update (carries : φ → Multiset β) (threads : Finset ThreadId) (pool : Pool σ φ)
    (shared : σ) (thread : ThreadId) (frame : φ) (member : thread ∈ threads) :
    inFlight carries threads ⟨shared, Function.update pool.frames thread frame⟩ +
        carries (pool.frames thread) =
      inFlight carries threads pool + carries frame := by
  have others : (threads.erase thread).sum (fun other =>
        carries (Function.update pool.frames thread frame other)) =
      (threads.erase thread).sum fun other => carries (pool.frames other) := by
    refine Finset.sum_congr rfl fun other inside => ?_
    rw [Function.update_of_ne (Finset.ne_of_mem_erase inside)]
  have before := Finset.add_sum_erase threads (fun other => carries (pool.frames other)) member
  have after := Finset.add_sum_erase threads
    (fun other => carries (Function.update pool.frames thread frame other)) member
  simp only [Function.update_self] at after
  unfold inFlight
  rw [← before, ← after, others]
  abel

/-- Nothing is delivered that was not submitted, and while no thread has died all that was
submitted is delivered or carried. -/
structure Delivers (carries : φ → Multiset β) (dead : φ → Prop) (delivered : σ → Multiset β)
    (threads : Finset ThreadId) (submitted : Multiset β) (pool : Pool σ φ) : Prop where
  sound : delivered pool.shared + inFlight carries threads pool ≤ submitted
  complete : (∀ thread, ¬ dead (pool.frames thread)) →
    submitted = delivered pool.shared + inFlight carries threads pool

variable {exec : α → ThreadId → σ → φ → Option (σ × φ)}

/-- A step hands on or delivers what its thread carries and takes up what its label submits, and
drops an item only where the thread dies. -/
theorem delivers_step {carries : φ → Multiset β} {dead : φ → Prop} {delivered : σ → Multiset β}
    {threads : Finset ThreadId} {submitted : Multiset β} {pool final : Pool σ φ}
    {label : ThreadId × α} (taken : Multiset β)
    (delivers : Delivers carries dead delivered threads submitted pool)
    (member : label.1 ∈ threads) (stepped : poolStep exec pool label = some final)
    (step : ∀ shared frame,
      exec label.2 label.1 pool.shared (pool.frames label.1) = some (shared, frame) →
      (dead (pool.frames label.1) → dead frame) ∧
      delivered shared + carries frame ≤
        delivered pool.shared + carries (pool.frames label.1) + taken ∧
      (¬ dead frame → delivered shared + carries frame =
        delivered pool.shared + carries (pool.frames label.1) + taken)) :
    Delivers carries dead delivered threads (submitted + taken) final := by
  obtain ⟨shared, frame, executed, rfl⟩ := (poolStep_eq_some exec pool final label).mp stepped
  obtain ⟨stays, hands, keeps⟩ := step shared frame executed
  have moved := inFlight_update carries threads pool shared label.1 frame member
  refine ⟨?_, fun alive => ?_⟩
  · refine le_of_add_le_add_right (a := carries (pool.frames label.1)) ?_
    calc delivered shared + inFlight carries threads
            ⟨shared, Function.update pool.frames label.1 frame⟩ + carries (pool.frames label.1)
        = delivered shared + carries frame + inFlight carries threads pool := by
          rw [add_assoc, moved]
          abel
      _ ≤ delivered pool.shared + carries (pool.frames label.1) + taken +
            inFlight carries threads pool := add_le_add_left hands _
      _ = delivered pool.shared + inFlight carries threads pool + taken +
            carries (pool.frames label.1) := by abel
      _ ≤ submitted + taken + carries (pool.frames label.1) :=
          add_le_add_left (add_le_add_left delivers.sound _) _
  · have living : ∀ thread, ¬ dead (pool.frames thread) := by
      intro thread died
      by_cases acting : thread = label.1
      · subst acting
        exact alive label.1 (by simpa only [Function.update_self] using stays died)
      · exact alive thread (by
          simpa only [ne_eq, acting, not_false_eq_true, Function.update_of_ne] using died)
    have same := keeps (by simpa only [Function.update_self] using alive label.1)
    refine add_right_cancel (b := carries (pool.frames label.1)) ?_
    calc submitted + taken + carries (pool.frames label.1)
        = delivered pool.shared + carries (pool.frames label.1) + taken +
            inFlight carries threads pool := by
          rw [delivers.complete living]
          abel
      _ = delivered shared + carries frame + inFlight carries threads pool := by rw [same]
      _ = delivered shared + inFlight carries threads
            ⟨shared, Function.update pool.frames label.1 frame⟩ +
            carries (pool.frames label.1) := by
          rw [add_assoc, add_assoc, moved]
          abel

/-- When no thread carries anything and none has died, all that was submitted is delivered. -/
theorem Delivers.eq_of_rest {carries : φ → Multiset β} {dead : φ → Prop}
    {delivered : σ → Multiset β} {threads : Finset ThreadId} {submitted : Multiset β}
    {pool : Pool σ φ} (delivers : Delivers carries dead delivered threads submitted pool)
    (rest : ∀ thread, carries (pool.frames thread) = 0 ∧ ¬ dead (pool.frames thread)) :
    submitted = delivered pool.shared := by
  have nothing : inFlight carries threads pool = 0 :=
    Finset.sum_eq_zero fun thread _ => (rest thread).1
  rw [delivers.complete fun thread => (rest thread).2, nothing, add_zero]

end ThreadPool
