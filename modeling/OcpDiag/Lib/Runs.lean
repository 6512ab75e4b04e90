import Mathlib.Logic.Function.Basic
import Mathlib.Data.Option.Basic

set_option autoImplicit false

namespace Runs

variable {σ α : Type*} (step : σ → α → Option σ)

/-- The state after a list of labels, when every one of them is enabled. -/
def run (state : σ) : List α → Option σ
  | [] => some state
  | label :: rest => (step state label).bind fun next => run next rest

/-- Every label of the list meets `ok` in the state it is taken from. -/
def Meets (ok : σ → α → Prop) : σ → List α → Prop
  | _, [] => True
  | state, label :: rest =>
      ok state label ∧ ∀ next, step state label = some next → Meets ok next rest

@[simp] theorem run_nil (state : σ) : run step state [] = some state := rfl

theorem run_cons_eq_some (state final : σ) (label : α) (rest : List α) :
    run step state (label :: rest) = some final ↔
      ∃ next, step state label = some next ∧ run step next rest = some final := by
  simp only [run, Option.bind_eq_some_iff]

theorem meets_of_step {step} {ok : σ → α → Prop} {state next : σ} {label : α} {rest : List α}
    (here : ok state label) (stepped : step state label = some next)
    (later : Meets step ok next rest) : Meets step ok state (label :: rest) :=
  ⟨here, fun _ other => Option.some.inj (stepped.symm.trans other) ▸ later⟩

/-- An invariant of one step, under a side condition, holds along every run whose steps
meet the condition. -/
theorem run_preserves_of_meets (ok : σ → α → Prop) (Inv : σ → Prop)
    (preserved : ∀ state label next, ok state label → Inv state →
      step state label = some next → Inv next)
    (state final : σ) (labels : List α) (meets : Meets step ok state labels)
    (initial : Inv state) (reached : run step state labels = some final) : Inv final := by
  induction labels generalizing state with
  | nil => exact Option.some.inj reached ▸ initial
  | cons label rest ih =>
      obtain ⟨next, stepped, remaining⟩ := (run_cons_eq_some step state final label rest).mp reached
      exact ih next (meets.2 next stepped)
        (preserved state label next meets.1 initial stepped) remaining

/-- An invariant that also speaks of the labels that have been taken. -/
theorem run_preserves_history (Inv : List α → σ → Prop)
    (preserved : ∀ history state label next, Inv history state →
      step state label = some next → Inv (history ++ [label]) next)
    (history : List α) (state final : σ) (labels : List α) (initial : Inv history state)
    (reached : run step state labels = some final) : Inv (history ++ labels) final := by
  induction labels generalizing history state with
  | nil =>
      rw [List.append_nil]
      exact Option.some.inj reached ▸ initial
  | cons label rest ih =>
      obtain ⟨next, stepped, remaining⟩ := (run_cons_eq_some step state final label rest).mp reached
      have taken := ih (history ++ [label]) next (preserved history state label next initial stepped)
        remaining
      rwa [List.append_assoc, List.singleton_append] at taken

/-- A test of the labels that can be computed along the run. -/
def checkAll (test : σ → α → Bool) : σ → List α → Bool
  | _, [] => true
  | state, label :: rest =>
      test state label && (step state label).all fun next => checkAll test next rest

/-- The test decides the condition in the states that an invariant allows. -/
theorem meets_of_checkAll (ok : σ → α → Prop) (test : σ → α → Bool) (Inv : σ → Prop)
    (allowed : α → Prop) (sound : ∀ state label, allowed label → Inv state →
      test state label = true → ok state label)
    (preserved : ∀ state label next, allowed label → Inv state →
      step state label = some next → Inv next)
    (state : σ) (labels : List α) (initial : Inv state)
    (allows : ∀ label ∈ labels, allowed label)
    (passes : checkAll step test state labels = true) : Meets step ok state labels := by
  induction labels generalizing state with
  | nil => trivial
  | cons label rest ih =>
      simp only [checkAll, Bool.and_eq_true] at passes
      have here := allows label List.mem_cons_self
      refine ⟨sound state label here initial passes.1, fun next stepped => ?_⟩
      refine ih next (preserved state label next here initial stepped)
        (fun other member => allows other (List.mem_cons_of_mem label member)) ?_
      simpa only [stepped, Option.all_some] using passes.2

theorem meets_trivial (state : σ) (labels : List α) :
    Meets step (fun _ _ => True) state labels := by
  induction labels generalizing state with
  | nil => trivial
  | cons label rest ih => exact ⟨trivial, fun next _ => ih next⟩

/-- An invariant of one step holds along every run. -/
theorem run_preserves (Inv : σ → Prop)
    (preserved : ∀ state label next, Inv state → step state label = some next → Inv next)
    (state final : σ) (labels : List α) (initial : Inv state)
    (reached : run step state labels = some final) : Inv final :=
  run_preserves_of_meets step (fun _ _ => True) Inv
    (fun state label next _ => preserved state label next) state final labels
    (meets_trivial step state labels) initial reached

end Runs
