import Mathlib.Logic.Function.Basic

set_option autoImplicit false

/- Numbers that are drawn from a counter by one party and served in their order later. -/
namespace Tickets

variable {τ : Type*} [DecidableEq τ]

/-- The numbers that are held are those from the next one to serve up to the counter, each with
one party. -/
structure InOrder (served drawn : Nat) (held : τ → Option Nat) : Prop where
  le : served ≤ drawn
  range : ∀ party number, held party = some number → served ≤ number ∧ number < drawn
  distinct : ∀ first second number, held first = some number → held second = some number →
    first = second
  covered : ∀ number, served ≤ number → number < drawn → ∃ party, held party = some number

omit [DecidableEq τ] in
theorem inOrder_fresh (start : Nat) (held : τ → Option Nat) (nothing : ∀ party, held party = none) :
    InOrder start start held := by
  refine ⟨Nat.le_refl _, fun party number has => ?_, fun first _ number has => ?_,
    fun number low high => ?_⟩
  · rw [nothing] at has
    cases has
  · rw [nothing] at has
    cases has
  · exact absurd high (Nat.not_lt.mpr low)

theorem InOrder.draw {served drawn : Nat} {held : τ → Option Nat} (order : InOrder served drawn held)
    (party : τ) (free : held party = none) :
    InOrder served (drawn + 1) (Function.update held party (some drawn)) := by
  have other : ∀ someone number, Function.update held party (some drawn) someone = some number →
      (someone = party ∧ number = drawn) ∨ held someone = some number := by
    intro someone number has
    by_cases same : someone = party
    · subst same
      rw [Function.update_self] at has
      exact Or.inl ⟨rfl, (Option.some.inj has).symm⟩
    · rw [Function.update_of_ne same] at has
      exact Or.inr has
  have le := order.le
  refine ⟨by omega, fun someone number has => ?_, fun first second number one two => ?_,
    fun number low high => ?_⟩
  · rcases other someone number has with ⟨_, rfl⟩ | has
    · omega
    · have range := order.range someone number has
      omega
  · rcases other first number one with ⟨mine, newest⟩ | older
    · rcases other second number two with ⟨also, _⟩ | older
      · exact mine.trans also.symm
      · have range := order.range second number older
        omega
    · rcases other second number two with ⟨_, newest⟩ | alsoOlder
      · have range := order.range first number older
        omega
      · exact order.distinct first second number older alsoOlder
  · by_cases last : number = drawn
    · exact ⟨party, by rw [Function.update_self, last]⟩
    · obtain ⟨someone, has⟩ := order.covered number low (by omega)
      refine ⟨someone, ?_⟩
      have different : someone ≠ party := by
        rintro rfl
        rw [free] at has
        cases has
      rwa [Function.update_of_ne different]

theorem InOrder.serve {served drawn : Nat} {held : τ → Option Nat}
    (order : InOrder served drawn held) (party : τ) (mine : held party = some served) :
    InOrder (served + 1) drawn (Function.update held party none) := by
  have other : ∀ someone number, Function.update held party none someone = some number →
      someone ≠ party ∧ held someone = some number := by
    intro someone number has
    by_cases same : someone = party
    · subst same
      rw [Function.update_self] at has
      cases has
    · rw [Function.update_of_ne same] at has
      exact ⟨same, has⟩
  refine ⟨(order.range party served mine).2, fun someone number has => ?_,
    fun first second number one two => ?_, fun number low high => ?_⟩
  · obtain ⟨different, has⟩ := other someone number has
    have range := order.range someone number has
    have later : number ≠ served := by
      rintro rfl
      exact different (order.distinct someone party _ has mine)
    omega
  · exact order.distinct first second number (other first number one).2 (other second number two).2
  · obtain ⟨someone, has⟩ := order.covered number (by omega) high
    refine ⟨someone, ?_⟩
    have different : someone ≠ party := by
      rintro rfl
      rw [mine] at has
      have same := Option.some.inj has
      omega
    rwa [Function.update_of_ne different]

omit [DecidableEq τ] in
/-- Whoever holds the smallest number is served next. -/
theorem InOrder.first {served drawn number : Nat} {held : τ → Option Nat}
    (order : InOrder served drawn held) (party : τ) (mine : held party = some number)
    (smallest : ∀ other earlier, other ≠ party → held other = some earlier → number ≤ earlier) :
    number = served := by
  obtain ⟨low, high⟩ := order.range party number mine
  by_contra different
  obtain ⟨other, has⟩ := order.covered served (Nat.le_refl _) (by omega)
  have elsewhere : other ≠ party := by
    rintro rfl
    rw [mine] at has
    exact different (Option.some.inj has)
  have least := smallest other served elsewhere has
  omega

omit [DecidableEq τ] in
/-- When nobody holds a number, all have been served. -/
theorem InOrder.all {served drawn : Nat} {held : τ → Option Nat}
    (order : InOrder served drawn held) (nothing : ∀ party, held party = none) :
    served = drawn := by
  by_contra different
  have le := order.le
  obtain ⟨party, has⟩ := order.covered served (Nat.le_refl _) (by omega)
  rw [nothing] at has
  cases has

end Tickets
