import Mathlib.Data.List.Induction
import OcpDiag.Results.Outcome
import OcpDiag.Results.OutputModel

set_option autoImplicit false

namespace OcpDiag.Results

/-- Every public call takes the calculator's mutex for its whole body. -/
structure TestResultCalculator where
  finalized : Bool := false
  runStarted : Bool := false
  result : TestResult := .notApplicable
  status : TestStatus := .unknown
  deriving DecidableEq, Repr

namespace TestResultCalculator

def checkFinalized (calculator : TestResultCalculator) : Outcome Unit :=
  check (!calculator.finalized) "!finalized_" "Test run already finalized"

def notifyStartRun (calculator : TestResultCalculator) : Outcome TestResultCalculator := do
  calculator.checkFinalized
  return { calculator with runStarted := true }

def notifySkip (calculator : TestResultCalculator) : Outcome TestResultCalculator := do
  calculator.checkFinalized
  if calculator.status = .unknown then
    return { calculator with result := .notApplicable, status := .skip }
  else return calculator

def notifyError (calculator : TestResultCalculator) : Outcome TestResultCalculator := do
  calculator.checkFinalized
  if calculator.status = .unknown then
    return { calculator with result := .notApplicable, status := .error }
  else return calculator

def notifyFailureDiagnosis (calculator : TestResultCalculator) :
    Outcome TestResultCalculator := do
  calculator.checkFinalized
  if calculator.result = .notApplicable ∧ calculator.status = .unknown then
    return { calculator with result := .fail }
  else return calculator

/-- What Finalize() does once the calculator is known not to be final yet. -/
def finish (calculator : TestResultCalculator) : TestResultCalculator :=
  if calculator.runStarted then
    if calculator.status = .unknown then
      { calculator with
        finalized := true
        status := .complete
        result := if calculator.result = .notApplicable then .pass else calculator.result }
    else { calculator with finalized := true }
  else if calculator.status ≠ .error then
    { calculator with finalized := true, status := .skip, result := .notApplicable }
  else { calculator with finalized := true }

def finalize (calculator : TestResultCalculator) : Outcome TestResultCalculator := do
  calculator.checkFinalized
  return calculator.finish

end TestResultCalculator

/-- The calls that tell a calculator what happened. -/
inductive Notification where
  | startRun | skip | error | failureDiagnosis
  deriving DecidableEq, Repr

namespace TestResultCalculator

def notify (calculator : TestResultCalculator) : Notification → Outcome TestResultCalculator
  | .startRun => calculator.notifyStartRun
  | .skip => calculator.notifySkip
  | .error => calculator.notifyError
  | .failureDiagnosis => calculator.notifyFailureDiagnosis

def notifyAll (calculator : TestResultCalculator) : List Notification →
    Outcome TestResultCalculator
  | [] => .ok calculator
  | event :: rest => do
      let next ← calculator.notify event
      next.notifyAll rest

/-- The status and result of a fresh calculator after the calls and Finalize(). -/
def runOutcome (events : List Notification) : Outcome (TestStatus × TestResult) := do
  let calculator ← notifyAll {} events
  let final ← calculator.finalize
  return (final.status, final.result)

/-- The precedence the comments give: an error first, then a skip, then a failure. -/
def documentedOutcome (events : List Notification) : TestStatus × TestResult :=
  if .error ∈ events then (.error, .notApplicable)
  else if .skip ∈ events ∨ .startRun ∉ events then (.skip, .notApplicable)
  else if .failureDiagnosis ∈ events then (.complete, .fail)
  else (.complete, .pass)

/-- The status that the first of the skips and errors has set. -/
def settled : List Notification → TestStatus
  | [] => .unknown
  | .skip :: _ => .skip
  | .error :: _ => .error
  | .startRun :: rest => settled rest
  | .failureDiagnosis :: rest => settled rest

theorem settled_append (first second : List Notification) :
    settled (first ++ second) =
      if settled first = .unknown then settled second else settled first := by
  induction first with
  | nil => rfl
  | cons event rest ih =>
      cases event with
      | skip => rfl
      | error => rfl
      | startRun => exact ih
      | failureDiagnosis => exact ih

theorem settled_unknown_iff (events : List Notification) :
    settled events = .unknown ↔ .skip ∉ events ∧ .error ∉ events := by
  induction events with
  | nil => simp [settled]
  | cons event rest ih => cases event <;> simp [settled, ih]

theorem settled_ne_complete (events : List Notification) : settled events ≠ .complete := by
  induction events with
  | nil => simp [settled]
  | cons event rest ih =>
      cases event with
      | skip => simp [settled]
      | error => simp [settled]
      | startRun => exact ih
      | failureDiagnosis => exact ih

/-- A skip settles the status exactly when it comes before every error. -/
theorem settled_skip_iff (events : List Notification) :
    settled events = .skip ↔ .skip ∈ events.takeWhile (· != .error) := by
  induction events with
  | nil => simp [settled]
  | cons event rest ih => cases event <;> simp [settled, ih]

/-- What a fresh calculator holds after the calls. A failure counts only while the status
is not settled. -/
def afterEvents (events : List Notification) : TestResultCalculator where
  runStarted := decide (.startRun ∈ events)
  status := settled events
  result := if settled events = .unknown ∧ .failureDiagnosis ∈ events then .fail
    else .notApplicable

theorem notifyAll_append (calculator : TestResultCalculator)
    (first second : List Notification) :
    calculator.notifyAll (first ++ second) =
      (calculator.notifyAll first >>= fun next => next.notifyAll second) := by
  induction first generalizing calculator with
  | nil => rfl
  | cons event rest ih =>
      simp only [List.cons_append, notifyAll]
      cases calculator.notify event with
      | ok next => exact ih next
      | die message => rfl
      | undefined => rfl

/-- One more call keeps the description of the calculator. -/
theorem notify_afterEvents (events : List Notification) (event : Notification) :
    (afterEvents events).notify event = .ok (afterEvents (events ++ [event])) := by
  cases event with
  | startRun =>
      simp [notify, notifyStartRun, checkFinalized, afterEvents, settled_append, settled]
  | skip =>
      simp only [notify, notifySkip, checkFinalized, afterEvents, settled_append, settled]
      by_cases unknown : settled events = .unknown <;> simp [unknown]
  | error =>
      simp only [notify, notifyError, checkFinalized, afterEvents, settled_append, settled]
      by_cases unknown : settled events = .unknown <;> simp [unknown]
  | failureDiagnosis =>
      simp only [notify, notifyFailureDiagnosis, checkFinalized, afterEvents, settled_append,
        settled]
      by_cases unknown : settled events = .unknown <;>
        by_cases failed : .failureDiagnosis ∈ events <;> simp [unknown, failed]

theorem notifyAll_fresh (events : List Notification) :
    notifyAll {} events = .ok (afterEvents events) := by
  induction events using List.reverseRecOn with
  | nil => rfl
  | append_singleton events event ih =>
      rw [notifyAll_append, ih, Outcome.ok_bind]
      simp only [notifyAll, notify_afterEvents, Outcome.ok_bind]

theorem runOutcome_eq (events : List Notification) :
    runOutcome events =
      .ok ((afterEvents events).finish.status, (afterEvents events).finish.result) := by
  simp only [runOutcome, notifyAll_fresh, Outcome.ok_bind, finalize, checkFinalized, afterEvents,
    Bool.not_false, check_true, Outcome.pure_eq_ok]

/-- The outcome, by what the first of the skips and errors was. -/
theorem runOutcome_of_settled (events : List Notification) :
    runOutcome events = .ok (match settled events with
      | .error => (.error, .notApplicable)
      | .skip => (.skip, .notApplicable)
      | _ => documentedOutcome events) := by
  rw [runOutcome_eq]
  have possible := settled_ne_complete events
  have unknown := settled_unknown_iff events
  by_cases started : .startRun ∈ events <;> cases status : settled events <;>
    simp_all [finish, afterEvents, documentedOutcome]
  split <;> simp

theorem error_mem_of_settled (events : List Notification) (first : settled events = .error) :
    .error ∈ events := by
  induction events with
  | nil => simp [settled] at first
  | cons event rest ih => cases event <;> simp_all [settled]

/-- The run has the documented outcome exactly when no skip comes before the first error. -/
theorem runOutcome_documented_iff (events : List Notification) :
    runOutcome events = .ok (documentedOutcome events) ↔
      (.error ∈ events → .skip ∉ events.takeWhile (· != .error)) := by
  rw [runOutcome_of_settled, ← settled_skip_iff]
  cases status : settled events with
  | unknown => simp [(settled_unknown_iff events).mp status]
  | complete => exact absurd status (settled_ne_complete events)
  | error => simp [documentedOutcome, error_mem_of_settled events status]
  | skip =>
      have skipped : .skip ∈ events :=
        (List.takeWhile_prefix _).subset ((settled_skip_iff events).mp status)
      by_cases failed : .error ∈ events <;> simp [documentedOutcome, failed, skipped]

theorem documentedOutcome_perm {first second : List Notification} (same : first.Perm second) :
    documentedOutcome first = documentedOutcome second := by
  simp only [documentedOutcome, same.mem_iff]

/-- The order of the calls is without effect exactly when errors and skips do not meet. -/
theorem runOutcome_perm_iff (events : List Notification) :
    (∀ other, other.Perm events → runOutcome other = runOutcome events) ↔
      ¬ (.error ∈ events ∧ .skip ∈ events) := by
  constructor
  · rintro invariant ⟨failed, skipped⟩
    have errorFirst := invariant (.error :: events.erase .error)
      (List.perm_cons_erase failed).symm
    have skipFirst := invariant (.skip :: events.erase .skip) (List.perm_cons_erase skipped).symm
    rw [← skipFirst, runOutcome_of_settled, runOutcome_of_settled] at errorFirst
    simp [settled] at errorFirst
  · intro apart other same
    have documented : ∀ list : List Notification, list.Perm events →
        runOutcome list = .ok (documentedOutcome list) := by
      intro list perm
      refine (runOutcome_documented_iff list).mpr fun failed early => apart ⟨?_, ?_⟩
      · exact perm.mem_iff.mp failed
      · exact perm.mem_iff.mp ((List.takeWhile_prefix _).subset early)
    rw [documented other same, documented events (List.Perm.refl events),
      documentedOutcome_perm same]

/-- Errors take priority over skips only when they come first; everything else follows the
documented precedence. -/
theorem run_outcome_precedence (events : List Notification) :
    (runOutcome events = .ok (documentedOutcome events) ↔
      (.error ∈ events → .skip ∉ events.takeWhile (· != .error))) ∧
    ((∀ other, other.Perm events → runOutcome other = runOutcome events) ↔
      ¬ (.error ∈ events ∧ .skip ∈ events)) :=
  ⟨runOutcome_documented_iff events, runOutcome_perm_iff events⟩

/-- A started run that is skipped before an error ends as skipped. -/
theorem skip_hides_later_error :
    runOutcome [.startRun, .skip, .error] ≠ .ok (documentedOutcome [.startRun, .skip, .error]) ∧
    runOutcome [.startRun, .skip, .error] ≠ runOutcome [.startRun, .error, .skip] := by
  decide

theorem notify_not_finalized {calculator next : TestResultCalculator} {event : Notification}
    (notified : calculator.notify event = .ok next) :
    calculator.finalized = false ∧ next.finalized = false := by
  cases event <;>
    simp only [notify, notifyStartRun, notifySkip, notifyError, notifyFailureDiagnosis,
      checkFinalized, Outcome.bind_eq_ok, check_eq_ok, Bool.not_eq_true'] at notified <;>
    obtain ⟨_, running, taken⟩ := notified <;>
    first
      | (cases taken; exact ⟨running, running⟩)
      | (split at taken <;> cases taken <;> exact ⟨running, running⟩)

theorem finalize_eq_ok {calculator next : TestResultCalculator}
    (finalized : calculator.finalize = .ok next) :
    calculator.finalized = false ∧ next = calculator.finish := by
  simp only [finalize, checkFinalized, Outcome.bind_eq_ok, check_eq_ok, Bool.not_eq_true',
    Outcome.pure_eq_ok, Outcome.ok.injEq] at finalized
  obtain ⟨_, running, rfl⟩ := finalized
  exact ⟨running, rfl⟩

theorem finish_finalized (calculator : TestResultCalculator) :
    calculator.finish.finalized = true := by
  unfold finish
  split
  · split <;> rfl
  · split <;> rfl

end TestResultCalculator

end OcpDiag.Results
