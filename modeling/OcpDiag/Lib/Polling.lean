import Mathlib.Logic.Function.Iterate

set_option autoImplicit false

/- A loop that looks at a changing world until it has an answer. -/
namespace OcpDiag.Polling

variable {σ ρ : Type}

/-- The loop, for as many rounds as there is fuel; a round answers, or leaves the next state. -/
def loop (round : σ → ρ ⊕ σ) : Nat → σ → Option ρ
  | 0, _ => none
  | fuel + 1, state =>
      match round state with
      | .inl answer => some answer
      | .inr next => loop round fuel next

/-- The rounds up to one leave these states and have no answer. -/
def Unanswered (round : σ → ρ ⊕ σ) (visited : Nat → σ) (count : Nat) : Prop :=
  ∀ index < count, round (visited index) = .inr (visited (index + 1))

variable {round : σ → ρ ⊕ σ}

theorem loop_unanswered (visited : Nat → σ) (count fuel : Nat)
    (unanswered : Unanswered round visited count) :
    loop round (count + fuel) (visited 0) = loop round fuel (visited count) := by
  induction count generalizing visited with
  | zero => rw [Nat.zero_add]
  | succ count ih =>
      have here := unanswered 0 (Nat.succ_pos count)
      have later := ih (fun index => visited (index + 1)) fun index below =>
        unanswered (index + 1) (Nat.succ_lt_succ below)
      rw [Nat.succ_add, loop, here]
      exact later

/-- The loop has the answer of the first round that has one. -/
theorem loop_eq_some_iff (step : σ → σ)
    (steps : ∀ state next, round state = .inr next → next = step state) (state : σ) (answer : ρ) :
    (∃ fuel, loop round fuel state = some answer) ↔
      ∃ count, Unanswered round (fun index => step^[index] state) count ∧
        round (step^[count] state) = .inl answer := by
  constructor
  · rintro ⟨fuel, answered⟩
    induction fuel generalizing state with
    | zero => cases answered
    | succ fuel ih =>
        rw [loop] at answered
        cases here : round state with
        | inl found =>
            rw [here] at answered
            obtain rfl := Option.some.inj answered
            exact ⟨0, fun _ below => absurd below (Nat.not_lt_zero _), here⟩
        | inr next =>
            rw [here] at answered
            obtain rfl := steps state next here
            obtain ⟨count, unanswered, last⟩ := ih (step state) answered
            refine ⟨count + 1, fun index below => ?_, last⟩
            cases index with
            | zero => exact here
            | succ index => exact unanswered index (Nat.lt_of_succ_lt_succ below)
  · rintro ⟨count, unanswered, last⟩
    refine ⟨count + 1, ?_⟩
    have one : loop round 1 (step^[count] state) = some answer := by
      rw [loop, last]
    exact (loop_unanswered (fun index => step^[index] state) count 1 unanswered).trans one

/-- Where each round without an answer leaves less to do, the loop ends. -/
theorem loop_ends (left : σ → Nat)
    (lower : ∀ state next, round state = .inr next → left next < left state) (fuel : Nat)
    (state : σ) (enough : left state < fuel) : (loop round fuel state).isSome = true := by
  induction fuel generalizing state with
  | zero => exact absurd enough (Nat.not_lt_zero _)
  | succ fuel ih =>
      rw [loop]
      cases here : round state with
      | inl answer => rfl
      | inr next =>
          have less := lower state next here
          exact ih next (by omega)

/-- More fuel changes no answer. -/
theorem loop_more {fuel more : Nat} (enough : fuel ≤ more) {state : σ} {answer : ρ}
    (answered : loop round fuel state = some answer) : loop round more state = some answer := by
  induction fuel generalizing state more with
  | zero => cases answered
  | succ fuel ih =>
      obtain ⟨more, rfl⟩ := Nat.exists_eq_add_of_le' enough
      rw [← Nat.add_assoc, loop]
      rw [loop] at answered
      cases here : round state with
      | inl found =>
          rw [here] at answered
          exact answered
      | inr next =>
          rw [here] at answered
          exact ih (Nat.le_add_left fuel more) answered

end OcpDiag.Polling
