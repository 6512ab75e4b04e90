import Mathlib.Logic.Basic

set_option autoImplicit false

namespace OcpDiag.Results

/-- What a C++ function of the library does: it returns, a CHECK or LOG(FATAL) ends the
process with a message, or it runs into undefined behaviour and nothing is known of it. -/
inductive Outcome (α : Type) where
  | ok (value : α)
  | die (message : String)
  | undefined
  deriving DecidableEq, Repr

namespace Outcome

variable {α β : Type}

def bind (first : Outcome α) (next : α → Outcome β) : Outcome β :=
  match first with
  | .ok value => next value
  | .die message => .die message
  | .undefined => .undefined

instance : Monad Outcome where
  pure := .ok
  bind := bind

@[simp] theorem ok_bind (value : α) (next : α → Outcome β) : (ok value >>= next) = next value := rfl

@[simp] theorem die_bind (message : String) (next : α → Outcome β) :
    (die message >>= next) = die message := rfl

@[simp] theorem undefined_bind (next : α → Outcome β) : (undefined >>= next) = undefined := rfl

@[simp] theorem pure_eq_ok (value : α) : (pure value : Outcome α) = ok value := rfl

theorem bind_eq_ok (first : Outcome α) (next : α → Outcome β) (result : β) :
    (first >>= next) = ok result ↔ ∃ value, first = ok value ∧ next value = ok result := by
  cases first with
  | ok value => simp only [ok_bind, ok.injEq, exists_eq_left']
  | die message => simp only [die_bind, reduceCtorEq, false_and, exists_false]
  | undefined => simp only [undefined_bind, reduceCtorEq, false_and, exists_false]

theorem map_eq_ok (first : Outcome α) (convert : α → β) (result : β) :
    convert <$> first = ok result ↔ ∃ value, first = ok value ∧ convert value = result := by
  cases first <;> simp [Functor.map, bind]

theorem map_eq_undefined (first : Outcome α) (convert : α → β) :
    convert <$> first = undefined ↔ first = undefined := by
  cases first <;> simp [Functor.map, bind]

theorem bind_ne_undefined (first : Outcome α) (next : α → Outcome β)
    (head : first ≠ undefined) (tail : ∀ value, next value ≠ undefined) :
    (first >>= next) ≠ undefined := by
  cases first with
  | ok value => simpa only [ok_bind] using tail value
  | die message => simp only [die_bind, ne_eq, reduceCtorEq, not_false_eq_true]
  | undefined => exact absurd rfl head

/-- The state to go on from, if the process is still there. -/
def toOption : Outcome α → Option α
  | .ok value => some value
  | _ => none

theorem toOption_eq_some (outcome : Outcome α) (value : α) :
    outcome.toOption = some value ↔ outcome = ok value := by
  cases outcome <;> simp [toOption]

end Outcome

/-- CHECK(condition) << message. The text is the one the log sinks receive. -/
def check (holds : Bool) (condition message : String) : Outcome Unit :=
  if holds then .ok () else .die ("Check failed: " ++ condition ++ " " ++ message)

@[simp] theorem check_eq_ok (holds : Bool) (condition message : String) (value : Unit) :
    check holds condition message = .ok value ↔ holds = true := by
  cases holds <;> simp [check]

@[simp] theorem check_true (condition message : String) : check true condition message = .ok () := rfl

end OcpDiag.Results
