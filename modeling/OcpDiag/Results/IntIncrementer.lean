import OcpDiag.Results.Outcome

set_option autoImplicit false

namespace OcpDiag.Results

/-- The largest int. -/
def intMax : Nat := 2147483647

/-- Next() takes the counter's own mutex, so it is one step of the thread that calls it. -/
structure IntIncrementer where
  count : Nat := 0
  deriving DecidableEq, Repr

/-- `return count_++`. Incrementing the largest int overflows. -/
def IntIncrementer.next (counter : IntIncrementer) : Outcome (Nat × IntIncrementer) :=
  if counter.count < intMax then .ok (counter.count, ⟨counter.count + 1⟩) else .undefined

theorem IntIncrementer.next_eq_ok (counter after : IntIncrementer) (value : Nat) :
    counter.next = .ok (value, after) ↔
      counter.count < intMax ∧ value = counter.count ∧ after = ⟨counter.count + 1⟩ := by
  unfold next
  split
  · rename_i inRange
    simp only [Outcome.ok.injEq, Prod.mk.injEq, inRange, true_and, eq_comm]
  · rename_i overflow
    simp only [reduceCtorEq, overflow, false_and]

/-- What is done with the number once it is drawn. -/
theorem IntIncrementer.next_bind_eq_ok {α : Type} (counter : IntIncrementer)
    (use : Nat → IntIncrementer → α) (result : α) :
    (counter.next >>= fun drawn => pure (use drawn.1 drawn.2)) = .ok result ↔
      counter.count < intMax ∧ result = use counter.count ⟨counter.count + 1⟩ := by
  simp only [Outcome.bind_eq_ok, Prod.exists, next_eq_ok, Outcome.pure_eq_ok, Outcome.ok.injEq]
  constructor
  · rintro ⟨number, after, ⟨inRange, rfl, rfl⟩, rfl⟩
    exact ⟨inRange, rfl⟩
  · rintro ⟨inRange, rfl⟩
    exact ⟨_, _, ⟨inRange, rfl, rfl⟩, rfl⟩

theorem IntIncrementer.next_ne_die (counter : IntIncrementer) (message : String) :
    counter.next ≠ .die message := by
  unfold next
  split <;> simp

/-- absl::StrCat of an int that is not negative. -/
def strCat (value : Nat) : String := toString value

/-- Different numbers make different ids. -/
theorem strCat_injective : Function.Injective strCat := by
  intro first second same
  have digits : Nat.toDigits 10 first = Nat.toDigits 10 second := by
    rw [← Nat.toList_repr, ← Nat.toList_repr]
    exact congrArg String.toList same
  calc first = Nat.ofDigitChars 10 (Nat.toDigits 10 first) 0 :=
        Nat.ofDigitChars_ten_toDigits.symm
    _ = Nat.ofDigitChars 10 (Nat.toDigits 10 second) 0 := by rw [digits]
    _ = second := Nat.ofDigitChars_ten_toDigits

theorem strCat_ne_empty (value : Nat) : strCat value ≠ "" := by
  intro empty
  have digits : (toString value).toList = [] := by
    rw [show toString value = "" from empty]
    rfl
  simp at digits

end OcpDiag.Results
