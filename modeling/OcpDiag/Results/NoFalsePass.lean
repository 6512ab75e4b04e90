import OcpDiag.Results.Mutexes

set_option autoImplicit false

/- Errors and failures reach the result before the stream, or while the run's mutex keeps the
end of the run away. -/
namespace OcpDiag.Results

open ThreadPool

namespace TestResultCalculator

/-- The result is not, and does not become, PASS. -/
def Tainted (calculator : TestResultCalculator) : Prop :=
  if calculator.finalized then calculator.result ≠ .pass
  else calculator.status ≠ .unknown ∨ calculator.result = .fail

/-- PASS is given by Finalize() alone, and only to a run that has been started. -/
structure Valid (calculator : TestResultCalculator) : Prop where
  unfinished : calculator.finalized = false → calculator.result ≠ .pass
  passed : calculator.result = .pass → calculator.runStarted = true

theorem notify_valid {calculator next : TestResultCalculator} {event : Notification}
    (valid : calculator.Valid) (notified : calculator.notify event = .ok next) : next.Valid := by
  have failing := valid.unfinished (notify_not_finalized notified).1
  have running := (notify_not_finalized notified).2
  have kept : next.result ≠ .pass := by
    cases event <;>
      simp only [notify, notifyStartRun, notifySkip, notifyError, notifyFailureDiagnosis,
        Outcome.bind_eq_ok] at notified <;>
      obtain ⟨_, _, taken⟩ := notified <;>
      first
        | (cases taken; exact failing)
        | (split at taken <;> cases taken <;> first | exact failing | simp)
  exact ⟨fun _ => kept, fun passed => absurd passed kept⟩

theorem notify_tainted {calculator next : TestResultCalculator} {event : Notification}
    (tainted : calculator.Tainted) (notified : calculator.notify event = .ok next) :
    next.Tainted := by
  obtain ⟨running, still⟩ := notify_not_finalized notified
  simp only [Tainted, running, still, Bool.false_eq_true, ↓reduceIte] at tainted ⊢
  cases event <;>
    simp only [notify, notifyStartRun, notifySkip, notifyError, notifyFailureDiagnosis,
      Outcome.bind_eq_ok] at notified <;>
    obtain ⟨_, _, taken⟩ := notified <;>
    first
      | (cases taken; exact tainted)
      | (split at taken <;> cases taken <;> simp_all)

/-- An error that has been reported cannot be passed over. -/
theorem tainted_of_error {calculator next : TestResultCalculator}
    (notified : calculator.notify .error = .ok next) : next.Tainted := by
  have still := (notify_not_finalized notified).2
  simp only [Tainted, still, Bool.false_eq_true, ↓reduceIte]
  simp only [notify, notifyError, Outcome.bind_eq_ok] at notified
  obtain ⟨_, _, taken⟩ := notified
  split at taken
  · cases taken
    exact Or.inl (by simp)
  · rename_i settled
    cases taken
    exact Or.inl settled

theorem tainted_of_failureDiagnosis {calculator next : TestResultCalculator}
    (valid : calculator.Valid) (notified : calculator.notify .failureDiagnosis = .ok next) :
    next.Tainted := by
  obtain ⟨running, still⟩ := notify_not_finalized notified
  simp only [Tainted, still, Bool.false_eq_true, ↓reduceIte]
  simp only [notify, notifyFailureDiagnosis, Outcome.bind_eq_ok] at notified
  obtain ⟨_, _, taken⟩ := notified
  split at taken
  · cases taken
    exact Or.inr rfl
  · rename_i other
    cases taken
    by_cases unknown : calculator.status = .unknown
    · refine Or.inr ?_
      have notPass := valid.unfinished running
      cases result : calculator.result <;> simp_all
    · exact Or.inl unknown

theorem finish_runStarted (calculator : TestResultCalculator) :
    calculator.finish.runStarted = calculator.runStarted := by
  unfold finish
  split
  · split <;> rfl
  · split <;> rfl

theorem finish_valid {calculator : TestResultCalculator} (valid : calculator.Valid) :
    calculator.finish.Valid := by
  refine ⟨fun running => ?_, fun passed => ?_⟩
  · rw [finish_finalized] at running
    cases running
  · rw [finish_runStarted]
    by_contra unstarted
    simp only [Bool.not_eq_true] at unstarted
    simp only [finish, unstarted, Bool.false_eq_true, ↓reduceIte] at passed
    split at passed
    · cases passed
    · exact absurd (valid.passed passed) (by simp [unstarted])

theorem finish_tainted {calculator : TestResultCalculator} (valid : calculator.Valid)
    (running : calculator.finalized = false) (tainted : calculator.Tainted) :
    calculator.finish.Tainted := by
  have notPass := valid.unfinished running
  simp only [Tainted, running, Bool.false_eq_true, ↓reduceIte] at tainted
  simp only [Tainted, finish_finalized, ↓reduceIte]
  unfold finish
  split
  · split
    · rename_i unknown
      rcases tainted with settled | failed
      · exact absurd unknown settled
      · simp [failed]
    · exact notPass
  · split
    · simp
    · exact notPass

theorem notify_runStarted {calculator next : TestResultCalculator} {event : Notification}
    (notified : calculator.notify event = .ok next) (other : event ≠ .startRun) :
    next.runStarted = calculator.runStarted := by
  cases event with
  | startRun => exact absurd rfl other
  | _ =>
      simp only [notify, notifySkip, notifyError, notifyFailureDiagnosis,
        Outcome.bind_eq_ok] at notified
      obtain ⟨_, _, taken⟩ := notified
      split at taken <;> cases taken <;> rfl

/-- What a step of the program can do to the calculator. -/
inductive Updates (calculator : TestResultCalculator) : TestResultCalculator → Prop
  | same : Updates calculator calculator
  | notify (event : Notification) (next : TestResultCalculator) :
      calculator.notify event = .ok next → Updates calculator next
  | finish : calculator.finalized = false → Updates calculator calculator.finish

theorem Updates.valid {calculator next : TestResultCalculator} (updates : calculator.Updates next)
    (valid : calculator.Valid) : next.Valid := by
  cases updates with
  | same => exact valid
  | notify event _ notified => exact notify_valid valid notified
  | finish => exact finish_valid valid

theorem Updates.tainted {calculator next : TestResultCalculator}
    (updates : calculator.Updates next) (valid : calculator.Valid)
    (tainted : calculator.Tainted) : next.Tainted := by
  cases updates with
  | same => exact tainted
  | notify event _ notified => exact notify_tainted tainted notified
  | finish running => exact finish_tainted valid running tainted

/-- Once final, a calculator does not change. -/
theorem Updates.final {calculator next : TestResultCalculator}
    (updates : calculator.Updates next) (final : calculator.finalized = true) :
    next = calculator := by
  cases updates with
  | same => rfl
  | notify event _ notified =>
      rw [(notify_not_finalized notified).1] at final
      cases final
  | finish running =>
      rw [running] at final
      cases final

end TestResultCalculator

/-- An Error or a failure Diagnosis, of the run or of a step. -/
def Pb.OutputVariant.failing : Pb.OutputVariant → Bool
  | .testRunArtifact (.error _) => true
  | .testStepArtifact proto => proto.artifact.failing
  | _ => false

namespace Process

def FailureReported (process : Process) : Prop :=
  ∃ artifact ∈ process.artifacts, artifact.failing = true

/-- What has been reported counts. -/
def Settled (process : Process) : Prop :=
  process.FailureReported → process.calculator.Tainted

structure Accounted (process : Process) : Prop where
  calculator : process.calculator.Valid
  started : process.calculator.runStarted = true → process.run.started = true
  reported : process.FailureReported →
    process.calculator.Tainted ∨ process.run.started = false
  settled : process.run.mutex = none → process.Settled
  ended : ∀ testRunEnd, .testRunArtifact (.testRunEnd testRunEnd) ∈ process.artifacts →
    process.calculator.finalized = true ∧
      testRunEnd.result = process.calculator.result.toProto

/-- What is known where a thread is. A pre-start error is written before it counts, an error of
a step counts before it is written. -/
def Expects (process : Process) : Frame → Prop
  | .run (.writePreStartError _) => process.run.started = false ∧ process.Settled
  | .run .notifyPreStartError => process.run.started = false
  | .run .readStatus | .run (.readResult _) =>
      process.calculator.finalized = true ∧ process.Settled
  | .run (.emitEnd _ result) =>
      process.calculator.finalized = true ∧ result = process.calculator.result ∧ process.Settled
  | .run frame => frame.holds = true → process.Settled
  | .step _ (.checkEnded added _) | .step _ (.assignIdAndEmit added _) =>
      added.variant.failing = true → process.calculator.Tainted
  | _ => True

/-- What a step leaves for one of the other threads. -/
structure Leaves (other : ThreadId) (before after : Process) : Prop where
  tainted : before.calculator.Tainted → after.calculator.Tainted
  final : before.calculator.finalized = true → after.calculator = before.calculator
  held : before.run.mutex = some other → after.run.started = before.run.started ∧
    (before.Settled → after.Settled)

theorem Leaves.refl (process : Process) (other : ThreadId) : Leaves other process process :=
  ⟨id, fun _ => rfl, fun _ => ⟨rfl, id⟩⟩

theorem expects_of_leaves {before after : Process} {other : ThreadId} {frame : Frame}
    (leaves : Leaves other before after) (placed : before.Placed other frame)
    (expects : before.Expects frame) : after.Expects frame := by
  cases frame with
  | run frame =>
      cases frame with
      | writePreStartError error =>
          obtain ⟨started, settled⟩ := leaves.held (placed.held rfl)
          exact ⟨started.trans expects.1, settled expects.2⟩
      | notifyPreStartError => exact (leaves.held (placed.held rfl)).1.trans expects
      | readStatus =>
          rw [Expects, leaves.final expects.1]
          exact ⟨expects.1, (leaves.held (placed.held rfl)).2 expects.2⟩
      | readResult status =>
          rw [Expects, leaves.final expects.1]
          exact ⟨expects.1, (leaves.held (placed.held rfl)).2 expects.2⟩
      | emitEnd status result =>
          rw [Expects, leaves.final expects.1]
          exact ⟨expects.1, expects.2.1, (leaves.held (placed.held rfl)).2 expects.2.2⟩
      | _ => exact fun holds => (leaves.held (placed.held holds)).2 (expects holds)
  | step ref frame =>
      cases frame with
      | checkEnded added fatal => exact fun failing => leaves.tainted (expects failing)
      | assignIdAndEmit added fatal => exact fun failing => leaves.tainted (expects failing)
      | _ => trivial
  | _ => trivial

section

variable {before : Process} (after : Process) (added : List Pb.OutputVariant)

theorem settled_of_updates (valid : before.calculator.Valid)
    (updates : before.calculator.Updates after.calculator)
    (artifacts : after.artifacts = before.artifacts ++ added)
    (failing : ∀ artifact ∈ added, artifact.failing = true → after.calculator.Tainted)
    (settled : before.Settled) : after.Settled := by
  rintro ⟨artifact, written, fails⟩
  rw [artifacts, List.mem_append] at written
  rcases written with earlier | new
  · exact updates.tainted valid (settled ⟨artifact, earlier, fails⟩)
  · exact failing artifact new fails

/-- A step that keeps the invariant, given what it adds to the stream and does to the run. -/
theorem accounted_of_updates (accounted : before.Accounted)
    (updates : before.calculator.Updates after.calculator)
    (artifacts : after.artifacts = before.artifacts ++ added)
    (runStarted : after.calculator.runStarted = true → after.run.started = true)
    (failing : ∀ artifact ∈ added, artifact.failing = true →
      after.calculator.Tainted ∨ after.run.started = false)
    (starts : after.run.started = true → before.run.started = true ∨ before.Settled)
    (settled : after.run.mutex = none → after.Settled)
    (ended : ∀ testRunEnd, .testRunArtifact (.testRunEnd testRunEnd) ∈ added →
      after.calculator.finalized = true ∧
        testRunEnd.result = after.calculator.result.toProto) : after.Accounted := by
  refine ⟨updates.valid accounted.calculator, runStarted, ?_, settled, ?_⟩
  · rintro ⟨artifact, written, fails⟩
    rw [artifacts, List.mem_append] at written
    rcases written with earlier | new
    · have failed : before.FailureReported := ⟨artifact, earlier, fails⟩
      rcases accounted.reported failed with tainted | unstarted
      · exact Or.inl (updates.tainted accounted.calculator tainted)
      · cases now : after.run.started with
        | false => exact Or.inr rfl
        | true =>
            rcases starts now with started | settled
            · rw [unstarted] at started
              cases started
            · exact Or.inl (updates.tainted accounted.calculator (settled failed))
    · exact failing artifact new fails
  · intro testRunEnd written
    rw [artifacts, List.mem_append] at written
    rcases written with earlier | new
    · obtain ⟨final, result⟩ := accounted.ended testRunEnd earlier
      rw [updates.final final]
      exact ⟨final, result⟩
    · exact ended testRunEnd new

/-- A step that neither takes nor gives the run's mutex. -/
theorem accounted_elsewhere (accounted : before.Accounted)
    (updates : before.calculator.Updates after.calculator)
    (artifacts : after.artifacts = before.artifacts ++ added)
    (runStarted : after.calculator.runStarted = before.calculator.runStarted)
    (mutex : after.run.mutex = before.run.mutex) (started : after.run.started = before.run.started)
    (failing : ∀ artifact ∈ added, artifact.failing = true → after.calculator.Tainted)
    (ended : ∀ testRunEnd, .testRunArtifact (.testRunEnd testRunEnd) ∉ added) :
    after.Accounted ∧ ∀ other, Leaves other before after := by
  refine ⟨accounted_of_updates _ _ accounted updates artifacts ?_ ?_ ?_ ?_ ?_, fun other =>
    ⟨updates.tainted accounted.calculator, updates.final, fun _ => ⟨started, ?_⟩⟩⟩
  · rw [runStarted, started]
    exact accounted.started
  · exact fun artifact new fails => Or.inl (failing artifact new fails)
  · rw [started]
    exact Or.inl
  · rw [mutex]
    exact fun free => settled_of_updates _ _ accounted.calculator updates artifacts failing
      (accounted.settled free)
  · exact fun testRunEnd new => absurd new (ended testRunEnd)
  · exact settled_of_updates _ _ accounted.calculator updates artifacts failing

theorem leaves_of_access {thread : ThreadId} (valid : before.calculator.Valid)
    (updates : before.calculator.Updates after.calculator)
    (access : before.run.mutex = none ∨ before.run.mutex = some thread) :
    ∀ other, other ≠ thread → Leaves other before after :=
  fun _ different => ⟨updates.tainted valid, updates.final,
    fun theirs => absurd theirs (not_held_by_other access different)⟩

end

/-- A write by a thread that leaves the run's mutex as it is. -/
theorem accounted_of_write {process next : Process} {origin : Origin}
    {artifact : Pb.OutputVariant} {now : Pb.Timestamp} (accounted : process.Accounted)
    (wrote : process.write origin artifact now = .ok next)
    (failing : artifact.failing = true → process.calculator.Tainted)
    (ended : ∀ testRunEnd, artifact ≠ .testRunArtifact (.testRunEnd testRunEnd)) :
    next.Accounted ∧ ∀ other, Leaves other process next := by
  obtain ⟨same, artifacts, calculator, _⟩ := write_spec _ _ _ _ _ wrote
  refine accounted_elsewhere _ _ accounted (calculator ▸ .same) artifacts (by rw [calculator])
    (by rw [same.run]) (by rw [same.run]) ?_ ?_
  · intro other new fails
    obtain rfl := List.mem_singleton.mp new
    rw [calculator]
    exact failing fails
  · intro testRunEnd new
    exact ended testRunEnd (List.mem_singleton.mp new).symm

/-- A step that none of the invariant's terms sees. -/
theorem accounted_of_same {process : Process} (next : Process) (accounted : process.Accounted)
    (artifacts : next.artifacts = process.artifacts)
    (calculator : next.calculator = process.calculator)
    (mutex : next.run.mutex = process.run.mutex)
    (started : next.run.started = process.run.started) :
    next.Accounted ∧ ∀ other, Leaves other process next :=
  accounted_elsewhere _ [] accounted (calculator ▸ .same)
    (artifacts.trans (List.append_nil _).symm) (by rw [calculator]) mutex started
    (fun _ new => by cases new) (fun _ new => by cases new)

theorem accounted_of_quiet {settings : Settings} {process next : Process} {origin : Origin}
    {now : Pb.Timestamp} {request : Request} (run : TestRun) (accounted : process.Accounted)
    (performed : process.perform settings origin now request = .ok next)
    (quiet : request.quiet = true) (mutex : run.mutex = process.run.mutex)
    (started : run.started = process.run.started) :
    ({ next with run } : Process).Accounted ∧
    (process.Settled → ({ next with run } : Process).Settled) ∧
    ∀ other, Leaves other process { next with run } := by
  obtain ⟨stream, _, calculator⟩ := perform_quiet _ _ _ _ _ _ quiet performed
  have artifacts : ({ next with run } : Process).artifacts = process.artifacts := by
    simp only [Process.artifacts, stream]
  obtain ⟨kept, leaves⟩ := accounted_of_same { next with run } accounted artifacts
    calculator mutex started
  refine ⟨kept, fun settled => ?_, leaves⟩
  rintro ⟨artifact, written, fails⟩
  rw [artifacts] at written
  exact calculator ▸ settled ⟨artifact, written, fails⟩

theorem accounted_of_notify {process : Process} {calculator : TestResultCalculator}
    {event : Notification} (accounted : process.Accounted)
    (notified : process.calculator.notify event = .ok calculator) (other : event ≠ .startRun) :
    ({ process with calculator } : Process).Accounted ∧
      ∀ other, Leaves other process { process with calculator } := by
  refine accounted_elsewhere _ [] accounted (.notify event _ notified)
    (List.append_nil _).symm ?_ rfl rfl ?_ ?_
  · exact TestResultCalculator.notify_runStarted notified other
  · intro artifact new
    cases new
  · intro testRunEnd new
    cases new

theorem accounted_of_deliver {process next : Process} {severity : AbslSeverity}
    {message : String} {now : Pb.Timestamp} (accounted : process.Accounted)
    (delivered : process.deliver severity message now = .ok next) :
    next.Accounted ∧ ∀ other, Leaves other process next := by
  rcases deliver_spec _ _ _ _ _ delivered with rfl | ⟨_, wrote⟩
  · exact ⟨accounted, Leaves.refl _⟩
  · refine accounted_of_write accounted wrote ?_ ?_
    · intro fails
      cases fails
    · intro testRunEnd same
      cases same

theorem begins_accounted {settings : Settings} {thread : ThreadId} {now : Pb.Timestamp}
    {process next : Process} {call : Call} {frame : Frame} (accounted : process.Accounted)
    (begins : Begins settings thread now process call next frame) :
    next.Accounted ∧ next.Expects frame ∧ ∀ other, Leaves other process next := by
  have same := begins_sameRecord _ _ _ _ _ _ _ begins
  have artifacts : next.artifacts = process.artifacts ++ [] := by
    simp only [Process.artifacts, same.stream, List.append_nil]
  obtain ⟨accounted, leaves⟩ := accounted_elsewhere _ _ accounted (same.calculator ▸ .same) artifacts
    (by rw [same.calculator]) same.mutex same.started (fun _ new => by cases new)
    (fun _ new => by cases new)
  refine ⟨accounted, ?_, leaves⟩
  cases begins with
  | onRun call entered entry live =>
      cases call with
      | startAndRegisterDutInfo dutInfo =>
          cases dutInfo with
          | none =>
              cases entry
              exact fun holds => by cases holds
          | some dutInfo => cases entry
      | _ =>
          cases entry
          all_goals exact fun holds => by cases holds
  | onStep call ref entered entry live =>
      cases TestStep.entry_of_stepFrame entry with
      | checkEnded added fatal passes =>
          intro fails
          rw [passes] at fails
          cases fails
      | _ => trivial
  | newTestRun unborn => exact fun holds => by cases holds
  | startAndRegisterDutInfo dutInfo live owned => exact fun holds => by cases holds
  | deleteTestRun live => exact fun holds => by cases holds
  | _ => trivial

theorem step_accounted {settings : Settings} {process next : Process} {thread : ThreadId}
    {now : Pb.Timestamp} {ref : StepRef} {frame : TestStep.Frame} {step : TestStep}
    {request : Request} {rest : Continue TestStep.Frame} (accounted : process.Accounted)
    (expects : process.Expects (.step ref frame))
    (advances : (process.steps ref).Advances ref thread process.run.mutex process.run.started
      frame step request rest)
    (performed : process.perform settings .step now request = .ok next) :
    next.Accounted ∧ next.Expects (rest.toFrame (.step ref)) ∧
      ∀ other, Leaves other process next := by
  cases advances with
  | emitStart =>
      obtain ⟨kept, leaves⟩ := accounted_of_write accounted performed (fun fails => by cases fails)
        (fun _ same => by cases same)
      exact ⟨kept, trivial, leaves⟩
  | notifyFailureDiagnosis added =>
      obtain ⟨calculator, notified, rfl⟩ := perform_notify performed
      obtain ⟨kept, leaves⟩ := accounted_of_notify accounted notified (by simp)
      exact ⟨kept, fun _ => TestResultCalculator.tainted_of_failureDiagnosis accounted.calculator
        notified, leaves⟩
  | notifyError added =>
      obtain ⟨calculator, notified, rfl⟩ := perform_notify performed
      obtain ⟨kept, leaves⟩ := accounted_of_notify accounted notified (by simp)
      exact ⟨kept, fun _ => TestResultCalculator.tainted_of_error notified, leaves⟩
  | assignIdAndEmit added =>
      obtain ⟨kept, leaves⟩ := accounted_of_write accounted performed expects (by
        intro testRunEnd same
        cases same)
      exact ⟨kept, trivial, leaves⟩
  | assignIdAndEmitFatal added message =>
      obtain ⟨kept, leaves⟩ := accounted_of_write accounted performed expects (by
        intro testRunEnd same
        cases same)
      exact ⟨kept, trivial, leaves⟩
  | emitEnd destroy =>
      obtain ⟨kept, leaves⟩ := accounted_of_write accounted performed (fun fails => by cases fails)
        (fun _ same => by cases same)
      exact ⟨kept, trivial, leaves⟩
  | checkEnded added fatal free running =>
      obtain rfl := Outcome.ok.inj performed
      exact ⟨accounted, expects, Leaves.refl process⟩
  | _ =>
      obtain rfl := Outcome.ok.inj performed
      exact ⟨accounted, trivial, Leaves.refl process⟩

theorem series_accounted {settings : Settings} {process next : Process} {thread : ThreadId}
    {now : Pb.Timestamp} {ref : SeriesRef} {frame : MeasurementSeries.Frame}
    {series : MeasurementSeries} {request : Request} {rest : Continue MeasurementSeries.Frame}
    {stepMutex : Option ThreadId} {stepEnded : Bool} (accounted : process.Accounted)
    (advances : (process.series ref).Advances settings.protobuf ref thread stepMutex stepEnded
      frame series request rest)
    (performed : process.perform settings .series now request = .ok next) :
    next.Accounted ∧ ∀ other, Leaves other process next := by
  cases advances with
  | emitStart start built proto constructs =>
      exact accounted_of_write accounted performed (fun fails => by cases fails)
        (fun _ same => by cases same)
  | emitElement element =>
      exact accounted_of_write accounted performed (fun fails => by cases fails)
        (fun _ same => by cases same)
  | emitEnd totalCount destroy =>
      exact accounted_of_write accounted performed (fun fails => by cases fails)
        (fun _ same => by cases same)
  | _ =>
      obtain rfl := Outcome.ok.inj performed
      exact ⟨accounted, Leaves.refl process⟩

/-- A step that only takes the run's mutex. -/
theorem accounted_of_lock {process : Process} (thread : ThreadId) (accounted : process.Accounted)
    (free : process.run.mutex = none) :
    ({ process with run := { process.run with mutex := some thread } } : Process).Accounted ∧
      ∀ other, other ≠ thread →
        Leaves other process { process with run := { process.run with mutex := some thread } } :=
  ⟨⟨accounted.calculator, accounted.started, accounted.reported, (fun nothing => by cases nothing),
      accounted.ended⟩,
    leaves_of_access _ accounted.calculator .same (Or.inl free)⟩

/-- A write by the thread that holds the run's mutex. -/
theorem accounted_of_heldWrite {process next : Process} {thread : ThreadId}
    {artifact : Pb.OutputVariant} {origin : Origin} {now : Pb.Timestamp}
    (mutex : Option ThreadId) (accounted : process.Accounted)
    (held : process.run.mutex = some thread) (settled : process.Settled)
    (wrote : process.write origin artifact now = .ok next) (passes : artifact.failing = false)
    (ended : ∀ testRunEnd, artifact = .testRunArtifact (.testRunEnd testRunEnd) →
      process.calculator.finalized = true ∧
        testRunEnd.result = process.calculator.result.toProto) :
    ({ next with run := { process.run with mutex } } : Process).Accounted ∧
    ({ next with run := { process.run with mutex } } : Process).Settled ∧
      ∀ other, other ≠ thread →
        Leaves other process { next with run := { process.run with mutex } } := by
  obtain ⟨same, artifacts, calculator, _⟩ := write_spec _ _ _ _ _ wrote
  have updates : process.calculator.Updates next.calculator := calculator ▸ .same
  have harmless : ∀ other ∈ [artifact], other.failing = true → next.calculator.Tainted := by
    intro other new fails
    obtain rfl := List.mem_singleton.mp new
    rw [passes] at fails
    cases fails
  have still : ({ next with run := { process.run with mutex } } : Process).Settled :=
    settled_of_updates { next with run := { process.run with mutex } } _
      accounted.calculator updates artifacts harmless settled
  refine ⟨accounted_of_updates _ _ accounted updates artifacts ?_ ?_ Or.inl (fun _ => still) ?_,
    still, leaves_of_access _ accounted.calculator updates (Or.inr held)⟩
  · rw [calculator]
    exact accounted.started
  · exact fun other new fails => Or.inl (harmless other new fails)
  · intro testRunEnd new
    rw [calculator]
    exact ended testRunEnd (List.mem_singleton.mp new).symm

/-- NotifyStartRun(), and the run is started. -/
theorem accounted_of_start {settings : Settings} {process next : Process} {thread : ThreadId}
    {now : Pb.Timestamp} (dutInfo : DutRef) (accounted : process.Accounted)
    (held : process.run.mutex = some thread) (settled : process.Settled)
    (performed : process.perform settings .run now (.registerDutInfo dutInfo) = .ok next) :
    ({ next with run := { process.run with started := true, dutInfo := some dutInfo } } :
      Process).Accounted ∧
    ({ next with run := { process.run with started := true, dutInfo := some dutInfo } } :
      Process).Settled ∧
    ∀ other, other ≠ thread → Leaves other process
      { next with run := { process.run with started := true, dutInfo := some dutInfo } } := by
  obtain ⟨calculator, notified, rfl⟩ := perform_registerDutInfo performed
  have updates : process.calculator.Updates calculator := .notify .startRun _ notified
  have artifacts : process.artifacts = process.artifacts ++ [] := (List.append_nil _).symm
  have still := settled_of_updates
    { (setDutOwner { process with calculator } dutInfo .run) with
      run := { process.run with started := true, dutInfo := some dutInfo } }
    _ accounted.calculator updates artifacts (fun _ new => by cases new) settled
  exact ⟨accounted_of_updates _ _ accounted updates artifacts (fun _ => rfl) (fun _ new => by cases new)
    (fun _ => Or.inr settled) (fun _ => still) (fun _ new => by cases new), still,
    leaves_of_access _ accounted.calculator updates (Or.inr held)⟩

theorem run_accounted {settings : Settings} {process next : Process} {thread : ThreadId}
    {now : Pb.Timestamp} {frame : TestRun.Frame} {run : TestRun} {request : Request}
    {rest : Continue TestRun.Frame} (placed : frame.Placed process.run thread)
    (accounted : process.Accounted) (expects : process.Expects (.run frame))
    (advances : process.run.Advances settings.protobuf thread process.calculator process.dutInfos
      frame run request rest)
    (performed : process.perform settings .run now request = .ok next) :
    ({ next with run } : Process).Accounted ∧
    ({ next with run } : Process).Expects (rest.toFrame .run) ∧
      ∀ other, other ≠ thread → Leaves other process { next with run } := by
  cases advances with
  | addPreStartError error free unstarted =>
      obtain rfl := Outcome.ok.inj performed
      obtain ⟨kept, leaves⟩ := accounted_of_lock thread accounted free
      exact ⟨kept, ⟨unstarted, accounted.settled free⟩, leaves⟩
  | addPreStartErrorDies error message free =>
      obtain rfl := Outcome.ok.inj performed
      obtain ⟨kept, leaves⟩ := accounted_of_lock thread accounted free
      exact ⟨kept, trivial, leaves⟩
  | writePreStartError error =>
      obtain ⟨unstarted, settled⟩ := expects
      obtain ⟨same, artifacts, calculator, _⟩ := write_spec _ _ _ _ _ performed
      have updates : process.calculator.Updates next.calculator := calculator ▸ .same
      have locked := placed.held rfl
      refine ⟨accounted_of_updates _ _ accounted updates artifacts ?_ ?_ Or.inl ?_ ?_, unstarted,
        leaves_of_access _ accounted.calculator updates (Or.inr locked)⟩
      · rw [calculator]
        exact accounted.started
      · exact fun _ _ _ => Or.inr unstarted
      · intro free
        rw [locked] at free
        cases free
      · intro testRunEnd new
        cases List.mem_singleton.mp new
  | notifyPreStartError =>
      obtain ⟨calculator, notified, rfl⟩ := perform_notify performed
      have updates : process.calculator.Updates calculator := .notify .error _ notified
      have tainted := TestResultCalculator.tainted_of_error notified
      refine ⟨accounted_of_updates _ [] accounted updates (List.append_nil _).symm ?_ ?_
        Or.inl (fun _ _ => tainted) ?_, trivial,
        leaves_of_access _ accounted.calculator updates (Or.inr (placed.held rfl))⟩
      · intro started
        rw [TestResultCalculator.notify_runStarted notified (by simp)] at started
        exact accounted.started started
      · intro artifact new
        cases new
      · intro testRunEnd new
        cases new
  | addPreStartLog log free unstarted =>
      obtain rfl := Outcome.ok.inj performed
      obtain ⟨kept, leaves⟩ := accounted_of_lock thread accounted free
      exact ⟨kept, fun _ => accounted.settled free, leaves⟩
  | addPreStartLogDies log message free =>
      obtain rfl := Outcome.ok.inj performed
      obtain ⟨kept, leaves⟩ := accounted_of_lock thread accounted free
      exact ⟨kept, trivial, leaves⟩
  | writePreStartLog log =>
      obtain ⟨kept, _, leaves⟩ := accounted_of_heldWrite none accounted (placed.held rfl)
        (expects rfl) performed rfl (fun _ same => by cases same)
      exact ⟨kept, trivial, leaves⟩
  | writePreStartLogFatal log =>
      obtain ⟨kept, _, leaves⟩ := accounted_of_heldWrite process.run.mutex accounted
        (placed.held rfl) (expects rfl) performed rfl (fun _ same => by cases same)
      exact ⟨kept, trivial, leaves⟩
  | startAndRegisterDutInfo dutInfo free =>
      obtain rfl := Outcome.ok.inj performed
      obtain ⟨kept, leaves⟩ := accounted_of_lock thread accounted free
      exact ⟨kept, fun _ => accounted.settled free, leaves⟩
  | startAndRegisterDutInfoDies message free =>
      obtain rfl := Outcome.ok.inj performed
      obtain ⟨kept, leaves⟩ := accounted_of_lock thread accounted free
      exact ⟨kept, trivial, leaves⟩
  | notifyStartRun dutInfo first =>
      obtain ⟨kept, still, leaves⟩ := accounted_of_start dutInfo accounted (placed.held rfl)
        (expects rfl) performed
      exact ⟨kept, fun _ => still, leaves⟩
  | notifyStartRunAgain dutInfo previous again =>
      obtain ⟨kept, still, leaves⟩ := accounted_of_start dutInfo accounted (placed.held rfl)
        (expects rfl) performed
      exact ⟨kept, fun _ => still, leaves⟩
  | destroyPreviousDutInfo previous =>
      obtain ⟨kept, still, leaves⟩ := accounted_of_quiet process.run accounted performed rfl rfl rfl
      exact ⟨kept, fun _ => still (expects rfl), fun other _ => leaves other⟩
  | emitStart artifact built =>
      obtain ⟨start, rfl, _⟩ := TestRun.startArtifact_eq_ok _ _ _ _ built
      obtain ⟨kept, _, leaves⟩ := accounted_of_heldWrite none accounted (placed.held rfl)
        (expects rfl) performed rfl (fun _ same => by cases same)
      exact ⟨kept, trivial, leaves⟩
  | emitMissingStart artifact built =>
      obtain ⟨start, rfl, _⟩ := TestRun.startArtifact_eq_ok _ _ _ _ built
      obtain ⟨kept, still, leaves⟩ := accounted_of_heldWrite process.run.mutex accounted
        (placed.held rfl) (expects rfl) performed rfl (fun _ same => by cases same)
      exact ⟨kept, fun _ => still, leaves⟩
  | skip =>
      obtain ⟨calculator, notified, rfl⟩ := perform_notify performed
      obtain ⟨kept, leaves⟩ := accounted_of_notify accounted notified (by simp)
      exact ⟨kept, trivial, fun other _ => leaves other⟩
  | lockEnd free =>
      obtain rfl := Outcome.ok.inj performed
      obtain ⟨kept, leaves⟩ := accounted_of_lock thread accounted free
      refine ⟨kept, ?_, leaves⟩
      cases process.run.started with
      | true => exact fun _ => accounted.settled free
      | false => exact fun _ => accounted.settled free
  | finalize =>
      obtain ⟨calculator, finalized, rfl⟩ := perform_finalize performed
      obtain ⟨running, rfl⟩ := TestResultCalculator.finalize_eq_ok finalized
      have updates := TestResultCalculator.Updates.finish running
      have still : ({ process with calculator := process.calculator.finish } : Process).Settled :=
        settled_of_updates _ [] accounted.calculator updates (List.append_nil _).symm
          (fun _ new => by cases new) (expects rfl)
      refine ⟨accounted_of_updates _ [] accounted updates (List.append_nil _).symm ?_ ?_
        Or.inl (fun _ => still) ?_, ⟨TestResultCalculator.finish_finalized _, still⟩,
        leaves_of_access _ accounted.calculator updates (Or.inr (placed.held rfl))⟩
      · intro started
        rw [TestResultCalculator.finish_runStarted] at started
        exact accounted.started started
      · intro artifact new
        cases new
      · intro testRunEnd new
        cases new
  | readStatus =>
      obtain rfl := Outcome.ok.inj performed
      exact ⟨accounted, expects, fun other _ => Leaves.refl process other⟩
  | readResult status =>
      obtain rfl := Outcome.ok.inj performed
      exact ⟨accounted, ⟨expects.1, rfl, expects.2⟩, fun other _ => Leaves.refl process other⟩
  | emitEnd status result =>
      obtain ⟨kept, _, leaves⟩ := accounted_of_heldWrite none accounted (placed.held rfl)
        expects.2.2 performed rfl (by
          intro testRunEnd same
          cases same
          exact ⟨expects.1, by rw [expects.2.1]⟩)
      refine ⟨kept, ?_, leaves⟩
      rintro ⟨⟩
  | emitSchemaVersion =>
      obtain ⟨_, artifacts, calculator, _⟩ := write_spec _ _ _ _ _ performed
      obtain ⟨kept, leaves⟩ := accounted_elsewhere
        { next with run := { process.run with lifetime := .live } } _ accounted
        (calculator ▸ .same) artifacts (by rw [calculator]) rfl rfl
        (fun _ new fails => by cases List.mem_singleton.mp new; cases fails)
        (fun _ new => by cases List.mem_singleton.mp new)
      exact ⟨kept, trivial, fun other _ => leaves other⟩
  | emitSchemaVersionDies message =>
      obtain ⟨kept, _, leaves⟩ := accounted_of_quiet process.run accounted performed rfl rfl rfl
      exact ⟨kept, trivial, fun other _ => leaves other⟩
  | emitStartDies message =>
      obtain ⟨kept, _, leaves⟩ := accounted_of_quiet process.run accounted performed rfl rfl rfl
      exact ⟨kept, trivial, fun other _ => leaves other⟩
  | emitMissingStartDies message =>
      obtain ⟨kept, _, leaves⟩ := accounted_of_quiet process.run accounted performed rfl rfl rfl
      exact ⟨kept, trivial, fun other _ => leaves other⟩
  | destroyMembers registered =>
      obtain ⟨kept, _, leaves⟩ := accounted_of_quiet { process.run with lifetime := .destroyed }
        accounted performed rfl rfl rfl
      exact ⟨kept, trivial, fun other _ => leaves other⟩
  | destroyMembersDutInfo dutInfo registered =>
      obtain ⟨kept, _, leaves⟩ := accounted_of_quiet { process.run with lifetime := .destroyed }
        accounted performed rfl rfl rfl
      exact ⟨kept, trivial, fun other _ => leaves other⟩
  | _ =>
      obtain ⟨kept, _, leaves⟩ := accounted_of_quiet process.run accounted performed rfl rfl rfl
      refine ⟨kept, ?_, fun other _ => leaves other⟩
      rintro ⟨⟩

theorem moves_accounted {settings : Settings} {thread : ThreadId} {process next : Process}
    {label : Label} {frame after : Frame} (placed : process.Placed thread frame)
    (accounted : process.Accounted) (expects : process.Expects frame)
    (moves : Moves settings thread process label frame next after) :
    next.Accounted ∧ next.Expects after ∧
      ∀ other, other ≠ thread → Leaves other process next := by
  cases moves with
  | log _ severity message _ delivered =>
      obtain ⟨kept, leaves⟩ := accounted_of_deliver accounted delivered
      exact ⟨kept, expects_of_leaves (leaves thread) placed expects, fun other _ => leaves other⟩
  | call call _ _ _ begins =>
      obtain ⟨kept, expected, leaves⟩ := begins_accounted accounted begins
      exact ⟨kept, expected, fun other _ => leaves other⟩
  | run frame run request rest performed _ _ advances perform =>
      exact run_accounted placed accounted expects advances perform
  | step ref frame step request rest performed _ _ advances perform =>
      obtain ⟨kept, expected, leaves⟩ := step_accounted accounted expects advances perform
      refine ⟨⟨kept.calculator, kept.started, kept.reported, kept.settled, kept.ended⟩, ?_,
        fun other _ => ⟨(leaves other).tainted, (leaves other).final, (leaves other).held⟩⟩
      exact expected
  | series ref frame series request rest performed _ _ _ advances perform =>
      obtain ⟨kept, leaves⟩ := series_accounted accounted advances perform
      refine ⟨⟨kept.calculator, kept.started, kept.reported, kept.settled, kept.ended⟩, ?_,
        fun other _ => ⟨(leaves other).tainted, (leaves other).final, (leaves other).held⟩⟩
      cases rest <;> trivial
  | dying message _ delivered =>
      obtain ⟨kept, leaves⟩ := accounted_of_deliver accounted delivered
      exact ⟨kept, trivial, fun other _ => leaves other⟩
  | aborting =>
      obtain ⟨kept, leaves⟩ := accounted_of_same { process with aborted := true }
        accounted rfl rfl rfl rfl
      exact ⟨kept, trivial, fun other _ => leaves other⟩
  | _ => exact ⟨accounted, trivial, fun other _ => Leaves.refl process other⟩

/-- The errors and failures of a program and its result, in every state. -/
structure ResultSound (pool : Pool Process Frame) : Prop where
  held : MutexesHeld pool
  outline : Outline Accounted (fun process _ frame => process.Expects frame) pool

theorem resultSound_initial (testRunStart : TestRunStart) :
    ResultSound (initialPool testRunStart) := by
  refine ⟨mutexesHeld_initial testRunStart, ⟨⟨?_, ?_⟩, ?_, ?_, ?_, ?_⟩, fun _ => trivial⟩
  · intro _ same
    cases same
  · intro same
    cases same
  · intro same
    cases same
  · rintro ⟨_, written, _⟩
    cases written
  · rintro _ ⟨_, written, _⟩
    cases written
  · intro _ written
    cases written

theorem resultSound_step (settings : Settings) (pool : Pool Process Frame)
    (label : ThreadId × Label) (final : Pool Process Frame) (sound : ResultSound pool)
    (stepped : systemStep settings pool label = some final) : ResultSound final := by
  refine ⟨mutexesHeld_step settings pool final label sound.held stepped, ?_⟩
  refine outline_of_moves
    (fun thread before after => ∀ other, other ≠ thread → Leaves other before after)
    sound.held sound.outline stepped ?_ ?_
  · intro next after moves
    exact moves_accounted (sound.held.threads label.1) sound.outline.shared
      (sound.outline.threads label.1) moves
  · intro next thread different _ leaves placed expects
    exact expects_of_leaves (leaves thread different) placed expects

end Process

theorem TestResult.toProto_eq_pass (result : TestResult) :
    result.toProto = .PASS ↔ result = .pass := by
  cases result <;> simp [toProto]

/-- A stream with a passing TestRunEnd has no Error and no failure Diagnosis in it, whatever the
threads do. -/
theorem no_false_pass (settings : Settings) (testRunStart : TestRunStart)
    (labels : List (ThreadId × Label)) (final : Pool Process Frame)
    (reached : Runs.run (systemStep settings) (initialPool testRunStart) labels = some final)
    (testRunEnd : Pb.TestRunEnd)
    (written : .testRunArtifact (.testRunEnd testRunEnd) ∈ final.shared.artifacts)
    (passed : testRunEnd.result = .PASS) :
    ∀ artifact ∈ final.shared.artifacts, artifact.failing = false := by
  have sound := Runs.run_preserves _ Process.ResultSound (Process.resultSound_step settings) _ final
    labels (Process.resultSound_initial testRunStart) reached
  have accounted := sound.outline.shared
  obtain ⟨finalized, result⟩ := accounted.ended testRunEnd written
  rw [passed] at result
  have pass := (TestResult.toProto_eq_pass _).mp result.symm
  have started := accounted.started (accounted.calculator.passed pass)
  intro artifact member
  by_contra fails
  rcases accounted.reported ⟨artifact, member, by simpa using fails⟩ with tainted | unstarted
  · rw [TestResultCalculator.Tainted, if_pos finalized] at tainted
    exact tainted pass
  · rw [unstarted] at started
    cases started

/-- Two threads: one logs through Abseil while the other brings the run to its end. -/
def passingLabels : List (ThreadId × Label) :=
  sampleStart ++ callLabels 0 (.newTestStep "fans") 2 ++
    callLabels 0 (.addDiagnosis 0 { verdict := "spins", type := .pass }) 2 ++
    [(1, { action := .log .warning "slow" })] ++ callLabels 0 (.deleteTestStep 0) 2 ++
    callLabels 0 .deleteTestRun 5

theorem no_false_pass_passingLabels :
    ∃ final, Runs.run (systemStep sampleSettings) (initialPool sampleTestRunStart) passingLabels =
        some final ∧
      .testRunArtifact (.testRunEnd ⟨.COMPLETE, .PASS⟩) ∈ final.shared.artifacts ∧
      ∀ artifact ∈ final.shared.artifacts, artifact.failing = false := by
  refine ⟨_, rfl, ?_, no_false_pass sampleSettings sampleTestRunStart passingLabels _ rfl
    ⟨.COMPLETE, .PASS⟩ ?_ rfl⟩
  · exact List.mem_of_getElem? (i := 6) rfl
  · exact List.mem_of_getElem? (i := 6) rfl

end OcpDiag.Results
