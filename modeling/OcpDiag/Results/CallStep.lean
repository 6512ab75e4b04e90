import OcpDiag.Lib.ThreadPool
import OcpDiag.Results.IntIncrementer
import OcpDiag.Results.Messages
import OcpDiag.Results.TestResultCalculator

set_option autoImplicit false

/- The calls of the library's objects run in steps. A step is local work up to and including
one critical section of another object, and yields the object itself, what is asked of the
rest of the process, and what is left of the call. -/
namespace OcpDiag.Results

abbrev DutRef := Nat

/-- A TestStep is named by the number that its id is made from. -/
abbrev StepRef := Nat

/-- A MeasurementSeries, likewise. -/
abbrev SeriesRef := Nat

/-- Calls begin on live objects. The thread is the one in the constructor or destructor. -/
inductive Lifetime where
  | unborn
  | constructing (thread : ThreadPool.ThreadId)
  | live
  | destroying (thread : ThreadPool.ThreadId)
  | destroyed
  deriving DecidableEq, Repr

/-- The part of a step that is outside its object. -/
inductive Request where
  | none
  | write (artifact : Pb.OutputVariant)
  | notify (event : Notification)
  | registerDutInfo (dutInfo : DutRef)
  | finalize
  | checkAndSetInitializationGuard
  | unsetInitializationGuard
  | addLogSink
  | removeLogSink
  | destroyDutInfo (dutInfo : DutRef)

inductive Continue (φ : Type) where
  | next (frame : φ)
  | done
  | die (message : String)

variable {σ φ α : Type}

/-- A step that goes on with the value of a check or a conversion. When that dies, so does the
step, and the object keeps the mutex it has. -/
def orDie (object : σ) (outcome : Outcome α) (next : α → σ × Request × Continue φ) :
    Option (σ × Request × Continue φ) :=
  match outcome with
  | .ok value => some (next value)
  | .die message => some (object, .none, .die message)
  | .undefined => none

theorem orDie_eq_some (object : σ) (outcome : Outcome α) (next : α → σ × Request × Continue φ)
    (result : σ × Request × Continue φ) :
    orDie object outcome next = some result ↔
      (∃ value, outcome = .ok value ∧ result = next value) ∨
      (∃ message, outcome = .die message ∧ result = (object, .none, .die message)) := by
  cases outcome <;> simp [orDie, eq_comm]

end OcpDiag.Results
