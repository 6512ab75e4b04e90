import Mathlib.Algebra.Order.Ring.Nat

set_option autoImplicit false

/- How floating-point numbers of 64 bits compare. -/
namespace Binary64

def exponent (word : BitVec 64) : Nat := word.toNat / 2 ^ 52 % 2 ^ 11

def fraction (word : BitVec 64) : Nat := word.toNat % 2 ^ 52

def isNaN (word : BitVec 64) : Bool := exponent word == 2047 && fraction word != 0

/-- In units of the smallest number. An infinity comes out beyond all that is finite. -/
def magnitude (word : BitVec 64) : Nat :=
  if exponent word = 0 then fraction word
  else (2 ^ 52 + fraction word) * 2 ^ (exponent word - 1)

def number (word : BitVec 64) : Int :=
  if word.msb then -(magnitude word) else magnitude word

def le (first second : BitVec 64) : Bool :=
  !isNaN first && !isNaN second && decide (number first ≤ number second)

def lt (first second : BitVec 64) : Bool :=
  !isNaN first && !isNaN second && decide (number first < number second)

/-- The two zeros are equal, and no NaN is equal to itself. -/
def eq (first second : BitVec 64) : Bool :=
  !isNaN first && !isNaN second && decide (number first = number second)

variable {first second third : BitVec 64}

theorem le_iff :
    le first second = true ↔
      isNaN first = false ∧ isNaN second = false ∧ number first ≤ number second := by
  simp [le, and_assoc]

theorem lt_iff :
    lt first second = true ↔
      isNaN first = false ∧ isNaN second = false ∧ number first < number second := by
  simp [lt, and_assoc]

theorem eq_iff :
    eq first second = true ↔
      isNaN first = false ∧ isNaN second = false ∧ number first = number second := by
  simp [eq, and_assoc]

/-- A comparison that allows equality is one of the other two. -/
theorem le_iff_lt_or_same :
    le first second = true ↔ lt first second = true ∨ eq first second = true := by
  have split : number first ≤ number second ↔
      number first < number second ∨ number first = number second := by omega
  rw [le_iff, lt_iff, eq_iff, ← and_or_left, ← and_or_left, split]

theorem not_lt_of_eq (same : eq first second = true) : lt first second = false := by
  obtain ⟨-, -, numbers⟩ := eq_iff.mp same
  rw [Bool.eq_false_iff, ne_eq, lt_iff]
  omega

theorem lt_of_eq_of_lt (same : eq first second = true) (less : lt first third = true) :
    lt second third = true := by
  obtain ⟨-, solid, numbers⟩ := eq_iff.mp same
  obtain ⟨-, other, below⟩ := lt_iff.mp less
  exact lt_iff.mpr ⟨solid, other, numbers ▸ below⟩

theorem number_pos {word : BitVec 64} (positive : word.msb = false) (normal : exponent word ≠ 0) :
    0 < number word := by
  have product : 0 < (2 ^ 52 + fraction word) * 2 ^ (exponent word - 1) :=
    Nat.mul_pos (by omega) (Nat.two_pow_pos _)
  rw [number, positive, magnitude, if_neg normal]
  exact Int.natCast_pos.mpr product

/-- The zeros compare as one number. -/
example : eq 0#64 0x8000000000000000#64 = true ∧ lt 0#64 0x8000000000000000#64 = false := by decide

end Binary64
