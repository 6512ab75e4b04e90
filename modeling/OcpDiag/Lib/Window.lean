import Mathlib.Order.Lattice
import Mathlib.Data.List.Basic

set_option autoImplicit false

/- A sequence of events seen through windows that leave out their lower bound. -/
namespace Window

variable {α β τ : Type*} (time : α → τ)

/-- A report that keeps the time of its event is filtered as the event is. -/
theorem filter_filterMap_of_time (reportTime : β → τ) (report : α → Option β)
    (keeps : ∀ event reported, report event = some reported → reportTime reported = time event)
    (test : τ → Bool) (events : List α) :
    (events.filterMap report).filter (fun reported => test (reportTime reported)) =
      (events.filter (fun event => test (time event))).filterMap report := by
  induction events with
  | nil => rfl
  | cons event rest ih =>
      cases reported : report event with
      | none =>
          rw [List.filterMap_cons_none reported, ih, List.filter_cons]
          split
          next => rw [List.filterMap_cons_none reported]
          next => rfl
      | some value =>
          rw [List.filterMap_cons_some reported, List.filter_cons, List.filter_cons,
            keeps event value reported, ih]
          split
          next => rw [List.filterMap_cons_some reported]
          next => rfl

variable [LinearOrder τ]

/-- The events after the lower bound, up to the upper one. -/
def within (lower upper : τ) (events : List α) : List α :=
  events.filter (fun event => decide (lower < time event ∧ time event ≤ upper))

/-- The early part of a window is the window up to there. -/
theorem within_until (lower middle upper : τ) (before : middle ≤ upper) (events : List α) :
    (within time lower upper events).filter (fun event => decide (time event ≤ middle)) =
      within time lower middle events := by
  unfold within
  rw [List.filter_filter]
  apply List.filter_congr
  intro event _
  rw [← Bool.decide_and]
  apply decide_eq_decide.mpr
  constructor
  · rintro ⟨early, after, -⟩
    exact ⟨after, early⟩
  · rintro ⟨after, early⟩
    exact ⟨early, after, le_trans early before⟩

/-- The late part of a window is the window from there on. -/
theorem within_after (lower middle upper : τ) (after : lower ≤ middle) (events : List α) :
    (within time lower upper events).filter (fun event => decide (middle < time event)) =
      within time middle upper events := by
  unfold within
  rw [List.filter_filter]
  apply List.filter_congr
  intro event _
  rw [← Bool.decide_and]
  apply decide_eq_decide.mpr
  constructor
  · rintro ⟨late, -, upTo⟩
    exact ⟨late, upTo⟩
  · rintro ⟨late, upTo⟩
    exact ⟨late, lt_of_le_of_lt after late, upTo⟩

theorem within_all (lower upper : τ) (events : List α)
    (all : ∀ event ∈ events, lower < time event ∧ time event ≤ upper) :
    within time lower upper events = events := by
  unfold within
  rw [List.filter_eq_self]
  intro event member
  exact decide_eq_true (all event member)

end Window
