import OcpDiag.Lib.Trace
import OcpDiag.Results.DutOwnership

set_option autoImplicit false

/- The run's mutex is free only when the stream has as many TestRunStart artifacts as it should. -/
namespace OcpDiag.Results

open ThreadPool

def Pb.OutputVariant.isTestRunStart : Pb.OutputVariant → Bool
  | .testRunArtifact (.testRunStart _) => true
  | _ => false

def Pb.OutputVariant.isTestRunEnd : Pb.OutputVariant → Bool
  | .testRunArtifact (.testRunEnd _) => true
  | _ => false

/-- What only a started run writes: the artifacts of its steps and its end. -/
def Pb.OutputVariant.followsStart : Pb.OutputVariant → Bool
  | .testRunArtifact (.testRunEnd _) => true
  | .testStepArtifact _ => true
  | _ => false

/-- The destructor has begun. -/
def Lifetime.ending : Lifetime → Bool
  | .destroying _ | .destroyed => true
  | _ => false

namespace Process

def startCount (process : Process) : Nat :=
  process.artifacts.countP Pb.OutputVariant.isTestRunStart

/-- What follows the start comes after exactly one. -/
def AfterStart (before : List Pb.OutputVariant) (artifact : Pb.OutputVariant) : Prop :=
  artifact.followsStart = true → before.countP Pb.OutputVariant.isTestRunStart = 1

/-- The run has its start artifact once it is started or final, and not before. -/
def Counted (process : Process) : Prop :=
  process.startCount =
    if process.run.started = true ∨ process.calculator.finalized = true then 1 else 0

structure StartsOnce (process : Process) : Prop where
  once : process.startCount ≤ 1
  counted : process.run.mutex = none → process.Counted
  constructed : ∀ ref, (process.steps ref).lifetime.constructed = true → process.startCount = 1
  each : Trace.EachAfter AfterStart process.artifacts
  unfinished : process.run.lifetime.ending = false → process.calculator.finalized = false

/-- What is known of the start where a thread is. -/
def StartKnown (process : Process) : Frame → Prop
  | .run (.writePreStartError _) | .run .notifyPreStartError | .run (.writePreStartLog _)
  | .run (.notifyStartRun _) => process.Counted
  | .run .emitStart => process.startCount = 0 ∧ process.run.started = true
  | .run .lockEnd => process.calculator.finalized = false
  | .run .emitMissingStart => process.startCount = 0
  | .run .finalize => process.startCount = 1
  | .run .readStatus | .run (.readResult _) | .run (.emitEnd _ _) =>
      process.startCount = 1 ∧ process.calculator.finalized = true
  | .step _ .emitStart => process.startCount = 1
  | _ => True

structure KeepsStart (other : ThreadId) (before after : Process) : Prop where
  held : before.run.mutex = some other → after.startCount = before.startCount ∧
    after.calculator.finalized = before.calculator.finalized ∧
    after.run.started = before.run.started
  ending : before.run.lifetime = .destroying other →
    after.calculator.finalized = before.calculator.finalized
  one : before.startCount = 1 → after.startCount = 1

theorem startKnown_of_keepsStart {before after : Process} {other : ThreadId} {frame : Frame}
    (keeps : KeepsStart other before after) (placed : before.Placed other frame)
    (known : before.StartKnown frame) : after.StartKnown frame := by
  have counted : before.run.mutex = some other → before.Counted → after.Counted := by
    intro mine counted
    obtain ⟨count, finalized, started⟩ := keeps.held mine
    simpa only [Counted, count, finalized, started] using counted
  cases frame with
  | run frame =>
      cases frame with
      | writePreStartError error => exact counted (placed.held rfl) known
      | notifyPreStartError => exact counted (placed.held rfl) known
      | writePreStartLog log => exact counted (placed.held rfl) known
      | notifyStartRun dutInfo => exact counted (placed.held rfl) known
      | emitStart =>
          obtain ⟨count, _, started⟩ := keeps.held (placed.held rfl)
          exact ⟨count.trans known.1, started.trans known.2⟩
      | lockEnd => exact (keeps.ending (placed.destroying rfl)).trans known
      | emitMissingStart => exact (keeps.held (placed.held rfl)).1.trans known
      | finalize => exact keeps.one known
      | readStatus =>
          exact ⟨keeps.one known.1, (keeps.held (placed.held rfl)).2.1.trans known.2⟩
      | readResult status =>
          exact ⟨keeps.one known.1, (keeps.held (placed.held rfl)).2.1.trans known.2⟩
      | emitEnd status result =>
          exact ⟨keeps.one known.1, (keeps.held (placed.held rfl)).2.1.trans known.2⟩
      | _ => trivial
  | step ref frame =>
      cases frame with
      | emitStart => exact keeps.one known
      | _ => trivial
  | _ => trivial

section

variable {before after : Process}

/-- A step that writes no TestRunStart and does not finalize. -/
theorem startsOnce_of_same (starts : before.StartsOnce)
    (count : after.startCount = before.startCount)
    (finalized : after.calculator.finalized = before.calculator.finalized)
    (started : after.run.started = before.run.started)
    (each : Trace.EachAfter AfterStart after.artifacts)
    (counted : after.run.mutex = none → before.Counted)
    (constructed : ∀ ref, (after.steps ref).lifetime.constructed = true →
      before.startCount = 1)
    (ending : after.run.lifetime.ending = false → before.run.lifetime.ending = false) :
    after.StartsOnce := by
  refine ⟨count ▸ starts.once, fun free => ?_, fun ref isConstructed => ?_, each, ?_⟩
  · simpa only [Counted, count, finalized, started] using counted free
  · rw [count]
    exact constructed ref isConstructed
  · rw [finalized]
    exact fun running => starts.unfinished (ending running)

theorem keepsStart_of_same (count : after.startCount = before.startCount)
    (finalized : after.calculator.finalized = before.calculator.finalized)
    (started : after.run.started = before.run.started) (other : ThreadId) :
    KeepsStart other before after :=
  ⟨fun _ => ⟨count, finalized, started⟩, fun _ => finalized, fun one => count.trans one⟩

theorem startCount_snoc (artifact : Pb.OutputVariant)
    (artifacts : after.artifacts = before.artifacts ++ [artifact])
    (other : artifact.isTestRunStart = false) : after.startCount = before.startCount := by
  simp only [startCount, artifacts, List.countP_append, List.countP_cons, other, List.countP_nil,
    Bool.false_eq_true, ↓reduceIte, Nat.add_zero]

theorem startCount_start (artifact : Pb.OutputVariant)
    (artifacts : after.artifacts = before.artifacts ++ [artifact])
    (start : artifact.isTestRunStart = true) : after.startCount = before.startCount + 1 := by
  simp only [startCount, artifacts, List.countP_append, List.countP_cons, start, List.countP_nil,
    ↓reduceIte]

theorem each_snoc (artifact : Pb.OutputVariant) (starts : before.StartsOnce)
    (artifacts : after.artifacts = before.artifacts ++ [artifact])
    (follows : artifact.followsStart = true → before.startCount = 1) :
    Trace.EachAfter AfterStart after.artifacts := by
  rw [artifacts]
  exact (Trace.eachAfter_snoc _ _).mpr ⟨starts.each, follows⟩

/-- Where nothing is written, or what is written is no TestRunStart and may follow one. -/
theorem StartsOnce.of_written (starts : before.StartsOnce)
    (written : after.artifacts = before.artifacts ∨ ∃ artifact : Pb.OutputVariant,
      after.artifacts = before.artifacts ++ [artifact] ∧ artifact.isTestRunStart = false ∧
        (artifact.followsStart = true → before.startCount = 1)) :
    after.startCount = before.startCount ∧ Trace.EachAfter AfterStart after.artifacts := by
  rcases written with same | ⟨artifact, added, other, follows⟩
  · have count : after.startCount = before.startCount := by
      simp only [startCount, same]
    exact ⟨count, same ▸ starts.each⟩
  · exact ⟨startCount_snoc artifact added other, each_snoc artifact starts added follows⟩

end

theorem perform_finalized {settings : Settings} {process next : Process} {origin : Origin}
    {now : Pb.Timestamp} {request : Request}
    (performed : process.perform settings origin now request = .ok next)
    (other : request ≠ .finalize) :
    next.calculator.finalized = process.calculator.finalized := by
  cases request with
  | write artifact => rw [(write_spec _ _ _ _ _ performed).2.2.1]
  | notify event =>
      obtain ⟨calculator, notified, rfl⟩ := perform_notify performed
      obtain ⟨running, still⟩ := TestResultCalculator.notify_not_finalized notified
      exact still.trans running.symm
  | registerDutInfo dutInfo =>
      obtain ⟨calculator, notified, rfl⟩ := perform_registerDutInfo performed
      obtain ⟨running, still⟩ := TestResultCalculator.notify_not_finalized notified
      exact still.trans running.symm
  | finalize => exact absurd rfl other
  | _ => rw [(perform_quiet _ _ _ _ _ _ rfl performed).2.2]

/-- A step that no term of the invariant sees but for what it writes. -/
theorem startsOnce_elsewhere {process : Process} (next : Process) (starts : process.StartsOnce)
    (written : next.artifacts = process.artifacts ∨ ∃ artifact : Pb.OutputVariant,
      next.artifacts = process.artifacts ++ [artifact] ∧ artifact.isTestRunStart = false ∧
        (artifact.followsStart = true → process.startCount = 1))
    (finalized : next.calculator.finalized = process.calculator.finalized)
    (run : next.run = process.run)
    (constructed : ∀ ref, (next.steps ref).lifetime.constructed = true →
      process.startCount = 1) :
    next.StartsOnce ∧ ∀ other, KeepsStart other process next := by
  obtain ⟨count, each⟩ := starts.of_written written
  refine ⟨startsOnce_of_same starts count finalized (by rw [run]) each ?_ constructed ?_,
    keepsStart_of_same count finalized (by rw [run])⟩
  · rw [run]
    exact starts.counted
  · rw [run]
    exact id

theorem startsOnce_of_deliver {process next : Process} {severity : AbslSeverity}
    {message : String} {now : Pb.Timestamp} (starts : process.StartsOnce)
    (delivered : process.deliver severity message now = .ok next) :
    next.StartsOnce ∧ ∀ other, KeepsStart other process next := by
  have same := deliver_same delivered
  rcases deliver_spec _ _ _ _ _ delivered with rfl | ⟨_, wrote⟩
  · exact ⟨starts, keepsStart_of_same rfl rfl rfl⟩
  · obtain ⟨_, artifacts, calculator, _⟩ := write_spec _ _ _ _ _ wrote
    exact startsOnce_elsewhere next starts
      (Or.inr ⟨_, artifacts, rfl, fun follows => by cases follows⟩) (by rw [calculator]) same.run
      (same.steps ▸ starts.constructed)

end Process

theorem TestStep.advances_constructed {step next : TestStep} {ref : StepRef} {thread : ThreadId}
    {runMutex : Option ThreadId} {runStarted : Bool} {frame : TestStep.Frame} {request : Request}
    {rest : Continue TestStep.Frame} (placed : frame.Placed step thread)
    (advances : TestStep.Advances step ref thread runMutex runStarted frame next request rest)
    (constructed : next.lifetime.constructed = true) :
    step.lifetime.constructed = true ∨ frame = .emitStart := by
  cases advances with
  | emitStart => exact Or.inr rfl
  | endAgain destroy free ended => exact Or.inl (placed.constructed rfl)
  | emitEnd destroy => exact Or.inl (placed.constructed rfl)
  | _ => exact Or.inl constructed

namespace Process

theorem step_startsOnce {settings : Settings} {process next : Process} {thread : ThreadId}
    {now : Pb.Timestamp} {ref : StepRef} {frame : TestStep.Frame} {step : TestStep}
    {request : Request} {rest : Continue TestStep.Frame}
    (placed : process.Placed thread (.step ref frame)) (starts : process.StartsOnce)
    (known : process.StartKnown (.step ref frame))
    (advances : (process.steps ref).Advances ref thread process.run.mutex process.run.started
      frame step request rest)
    (performed : process.perform settings .step now request = .ok next) :
    (next.setStep ref step).StartsOnce ∧
    (next.setStep ref step).StartKnown (rest.toFrame (.step ref)) ∧
    ∀ other, KeepsStart other process (next.setStep ref step) := by
  obtain ⟨same, artifacts⟩ := perform_spec _ _ _ _ _ _ performed
  have finalized := perform_finalized performed (by cases advances <;> simp)
  have written : next.artifacts = process.artifacts ∨ ∃ artifact : Pb.OutputVariant,
      next.artifacts = process.artifacts ++ [artifact] ∧ artifact.isTestRunStart = false ∧
        (artifact.followsStart = true → process.startCount = 1) := by
    cases advances with
    | emitStart => exact Or.inr ⟨_, artifacts, rfl, fun _ => known⟩
    | assignIdAndEmit added =>
        exact Or.inr ⟨_, artifacts, rfl, fun _ => starts.constructed ref (placed.2.constructed rfl)⟩
    | assignIdAndEmitFatal added message =>
        exact Or.inr ⟨_, artifacts, rfl, fun _ => starts.constructed ref (placed.2.constructed rfl)⟩
    | emitEnd destroy =>
        exact Or.inr ⟨_, artifacts, rfl, fun _ => starts.constructed ref (placed.2.constructed rfl)⟩
    | _ => exact Or.inl (artifacts.trans (List.append_nil _))
  have constructed : ∀ other, ((next.setStep ref step).steps other).lifetime.constructed = true →
      process.startCount = 1 := by
    intro other isConstructed
    by_cases self : other = ref
    · subst self
      simp only [setStep, Function.update_self] at isConstructed
      rcases TestStep.advances_constructed placed.2 advances isConstructed with was | rfl
      · exact starts.constructed other was
      · exact known
    · simp only [setStep, ne_eq, self, not_false_eq_true, Function.update_of_ne,
        same.steps] at isConstructed
      exact starts.constructed other isConstructed
  obtain ⟨kept, keeps⟩ := startsOnce_elsewhere (next.setStep ref step) starts written finalized
    same.run constructed
  refine ⟨kept, ?_, keeps⟩
  cases advances with
  | checkStarted free started =>
      obtain rfl := Outcome.ok.inj performed
      have counted := starts.counted free
      rw [Counted, if_pos (Or.inl started)] at counted
      exact counted
  | _ => trivial

theorem series_startsOnce {settings : Settings} {process next : Process} {thread : ThreadId}
    {now : Pb.Timestamp} {ref : SeriesRef} {frame : MeasurementSeries.Frame}
    {series : MeasurementSeries} {request : Request} {rest : Continue MeasurementSeries.Frame}
    {stepMutex : Option ThreadId} {stepEnded : Bool} (allocated : process.Allocated)
    (placed : process.Placed thread (.series ref frame)) (starts : process.StartsOnce)
    (advances : (process.series ref).Advances settings.protobuf ref thread stepMutex stepEnded
      frame series request rest)
    (performed : process.perform settings .series now request = .ok next) :
    (next.setSeries ref series).StartsOnce ∧
    ∀ other, KeepsStart other process (next.setSeries ref series) := by
  obtain ⟨same, artifacts⟩ := perform_spec _ _ _ _ _ _ performed
  have finalized := perform_finalized performed (by cases advances <;> simp)
  have started : process.startCount = 1 :=
    starts.constructed _ (allocated.testStep ref placed.2.born)
  refine startsOnce_elsewhere (next.setSeries ref series) starts ?_ finalized same.run
    (fun _ _ => started)
  cases advances with
  | emitStart start built proto constructs => exact Or.inr ⟨_, artifacts, rfl, fun _ => started⟩
  | emitElement element => exact Or.inr ⟨_, artifacts, rfl, fun _ => started⟩
  | emitEnd totalCount destroy => exact Or.inr ⟨_, artifacts, rfl, fun _ => started⟩
  | _ => exact Or.inl (artifacts.trans (List.append_nil _))

theorem begins_constructed {settings : Settings} {thread : ThreadId} {now : Pb.Timestamp}
    {process next : Process} {call : Call} {frame : Frame}
    (begins : Begins settings thread now process call next frame) (ref : StepRef)
    (constructed : (next.steps ref).lifetime.constructed = true) :
    (process.steps ref).lifetime.constructed = true := by
  cases begins with
  | newTestStep name live =>
      by_cases new : ref = process.run.stepId.count
      · subst new
        simp only [setStep, Function.update_self] at constructed
        cases constructed
      · simpa only [setStep, ne_eq, new, not_false_eq_true, Function.update_of_ne] using constructed
  | deleteTestStep other live =>
      by_cases self : ref = other
      · subst self
        rw [live]
        rfl
      · simpa only [setStep, ne_eq, self, not_false_eq_true, Function.update_of_ne] using
          constructed
  | _ => exact constructed

theorem begins_startsOnce {settings : Settings} {thread : ThreadId} {now : Pb.Timestamp}
    {process next : Process} {call : Call} {frame : Frame} (starts : process.StartsOnce)
    (begins : Begins settings thread now process call next frame) :
    next.StartsOnce ∧ next.StartKnown frame ∧ ∀ other, KeepsStart other process next := by
  have same := begins_sameRecord _ _ _ _ _ _ _ begins
  have artifacts : next.artifacts = process.artifacts := by
    simp only [Process.artifacts, same.stream]
  have count : next.startCount = process.startCount := by simp only [startCount, artifacts]
  have finalized : next.calculator.finalized = process.calculator.finalized := by
    rw [same.calculator]
  refine ⟨startsOnce_of_same starts count finalized same.started (artifacts ▸ starts.each)
    (same.mutex ▸ starts.counted) (fun ref isConstructed =>
      starts.constructed ref (begins_constructed begins ref isConstructed)) ?_, ?_,
    keepsStart_of_same count finalized same.started⟩
  · cases begins with
    | newTestRun unborn =>
        rw [unborn]
        exact fun _ => rfl
    | deleteTestRun live => exact fun running => by cases running
    | _ => exact id
  · cases begins with
    | onRun call entered entry live =>
        cases call with
        | startAndRegisterDutInfo dutInfo =>
            cases dutInfo with
            | none =>
                cases entry
                trivial
            | some dutInfo => cases entry
        | _ =>
            cases entry
            all_goals trivial
    | onStep call ref entered entry live => cases TestStep.entry_of_stepFrame entry <;> trivial
    | deleteTestRun live =>
        refine starts.unfinished ?_
        rw [live]
        rfl
    | _ => trivial

/-- A step of a run that writes no TestRunStart, does not start and does not finalize. -/
theorem startsOnce_of_run {process next : Process} (run : TestRun) (starts : process.StartsOnce)
    (same : SameObjects process next)
    (written : next.artifacts = process.artifacts ∨ ∃ artifact : Pb.OutputVariant,
      next.artifacts = process.artifacts ++ [artifact] ∧ artifact.isTestRunStart = false ∧
        (artifact.followsStart = true → process.startCount = 1))
    (finalized : next.calculator.finalized = process.calculator.finalized)
    (started : run.started = process.run.started)
    (counted : run.mutex = none → process.Counted)
    (ending : run.lifetime.ending = false → process.run.lifetime.ending = false) :
    ({ next with run } : Process).StartsOnce ∧ next.startCount = process.startCount ∧
    ∀ other, KeepsStart other process { next with run } := by
  obtain ⟨count, each⟩ := starts.of_written written
  exact ⟨startsOnce_of_same starts count finalized started each counted
    (same.steps ▸ starts.constructed) ending, count, keepsStart_of_same count finalized started⟩

/-- A step that only takes the run's mutex. -/
theorem startsOnce_of_lock {process : Process} (thread : ThreadId) (starts : process.StartsOnce) :
    ({ process with run := { process.run with mutex := some thread } } : Process).StartsOnce ∧
    ∀ other, other ≠ thread →
      KeepsStart other process { process with run := { process.run with mutex := some thread } } := by
  obtain ⟨kept, _, keeps⟩ := startsOnce_of_run { process.run with mutex := some thread } starts
    (.refl process) (Or.inl rfl) rfl rfl (fun nothing => by cases nothing) id
  exact ⟨kept, fun other _ => keeps other⟩

/-- The start artifact of a run, by StartAndRegisterDutInfo() or by End(). -/
theorem startsOnce_of_start {process next : Process} {thread : ThreadId} {origin : Origin}
    {artifact : Pb.OutputVariant} {now : Pb.Timestamp} (mutex : Option ThreadId)
    (starts : process.StartsOnce) (held : process.run.mutex = some thread)
    (fresh : process.startCount = 0)
    (wrote : process.write origin artifact now = .ok next) (start : artifact.isTestRunStart = true)
    (started : mutex = none → process.run.started = true) :
    ({ next with run := { process.run with mutex } } : Process).StartsOnce ∧
    next.startCount = 1 ∧
    ∀ other, other ≠ thread →
      KeepsStart other process { next with run := { process.run with mutex } } := by
  obtain ⟨same, artifacts, calculator, _⟩ := write_spec _ _ _ _ _ wrote
  have count : next.startCount = 1 := by rw [startCount_start artifact artifacts start, fresh]
  have plain : artifact.followsStart = true → process.startCount = 1 := by
    cases artifact with
    | testRunArtifact proto =>
        cases proto with
        | testRunStart proto => exact fun follows => by cases follows
        | _ => cases start
    | _ => cases start
  refine ⟨⟨count.le, fun free => ?_, fun _ _ => count, each_snoc artifact starts artifacts plain,
    ?_⟩, count, fun other different => ⟨fun theirs => ?_, fun _ => by rw [calculator],
      fun _ => count⟩⟩
  · rw [Counted, if_pos (Or.inl (started free))]
    exact count
  · rw [calculator]
    exact starts.unfinished
  · exact absurd theirs (not_held_by_other (Or.inr held) different)

theorem run_startsOnce {settings : Settings} {process next : Process} {thread : ThreadId}
    {now : Pb.Timestamp} {frame : TestRun.Frame} {run : TestRun} {request : Request}
    {rest : Continue TestRun.Frame} (placed : frame.Placed process.run thread)
    (alive : process.run.lifetime ≠ .destroyed) (one : process.OneDutInfo)
    (passes : process.Passes thread (.run frame)) (starts : process.StartsOnce)
    (known : process.StartKnown (.run frame))
    (advances : process.run.Advances settings.protobuf thread process.calculator process.dutInfos
      frame run request rest)
    (performed : process.perform settings .run now request = .ok next) :
    ({ next with run } : Process).StartsOnce ∧
    ({ next with run } : Process).StartKnown (rest.toFrame .run) ∧
    ∀ other, other ≠ thread → KeepsStart other process { next with run } := by
  obtain ⟨same, artifacts⟩ := perform_spec _ _ _ _ _ _ performed
  cases advances with
  | addPreStartError error free unstarted =>
      obtain rfl := Outcome.ok.inj performed
      obtain ⟨kept, keeps⟩ := startsOnce_of_lock thread starts
      exact ⟨kept, starts.counted free, keeps⟩
  | addPreStartLog log free unstarted =>
      obtain rfl := Outcome.ok.inj performed
      obtain ⟨kept, keeps⟩ := startsOnce_of_lock thread starts
      exact ⟨kept, starts.counted free, keeps⟩
  | startAndRegisterDutInfo dutInfo free =>
      obtain rfl := Outcome.ok.inj performed
      obtain ⟨kept, keeps⟩ := startsOnce_of_lock thread starts
      exact ⟨kept, starts.counted free, keeps⟩
  | addPreStartErrorDies error message free =>
      obtain rfl := Outcome.ok.inj performed
      obtain ⟨kept, keeps⟩ := startsOnce_of_lock thread starts
      exact ⟨kept, trivial, keeps⟩
  | addPreStartLogDies log message free =>
      obtain rfl := Outcome.ok.inj performed
      obtain ⟨kept, keeps⟩ := startsOnce_of_lock thread starts
      exact ⟨kept, trivial, keeps⟩
  | startAndRegisterDutInfoDies message free =>
      obtain rfl := Outcome.ok.inj performed
      obtain ⟨kept, keeps⟩ := startsOnce_of_lock thread starts
      exact ⟨kept, trivial, keeps⟩
  | lockEnd free =>
      obtain rfl := Outcome.ok.inj performed
      obtain ⟨kept, keeps⟩ := startsOnce_of_lock thread starts
      refine ⟨kept, ?_, keeps⟩
      have counted := starts.counted free
      rw [Counted, known] at counted
      cases started : process.run.started with
      | true =>
          rw [if_pos (Or.inl started)] at counted
          exact counted
      | false =>
          rw [if_neg (by simp [started])] at counted
          exact counted
  | writePreStartError error =>
      have finalized := perform_finalized performed (by simp)
      obtain ⟨kept, count, keeps⟩ := startsOnce_of_run process.run starts same
        (Or.inr ⟨_, artifacts, rfl, fun follows => by cases follows⟩) finalized rfl
        (fun _ => known) id
      refine ⟨kept, ?_, fun other _ => keeps other⟩
      show next.startCount =
        if process.run.started = true ∨ next.calculator.finalized = true then 1 else 0
      rw [count, finalized]
      exact known
  | writePreStartLog log =>
      have finalized := perform_finalized performed (by simp)
      obtain ⟨kept, _, keeps⟩ := startsOnce_of_run { process.run with mutex := none } starts same
        (Or.inr ⟨_, artifacts, rfl, fun follows => by cases follows⟩) finalized rfl
        (fun _ => known) id
      exact ⟨kept, trivial, fun other _ => keeps other⟩
  | writePreStartLogFatal log =>
      have finalized := perform_finalized performed (by simp)
      obtain ⟨kept, _, keeps⟩ := startsOnce_of_run process.run starts same
        (Or.inr ⟨_, artifacts, rfl, fun follows => by cases follows⟩) finalized rfl
        (fun _ => known) id
      exact ⟨kept, trivial, fun other _ => keeps other⟩
  | notifyPreStartError =>
      have finalized := perform_finalized performed (by simp)
      obtain ⟨kept, _, keeps⟩ := startsOnce_of_run { process.run with mutex := none } starts same
        (Or.inl (artifacts.trans (List.append_nil _))) finalized rfl (fun _ => known) id
      exact ⟨kept, trivial, fun other _ => keeps other⟩
  | notifyStartRun dutInfo first =>
      obtain ⟨calculator, notified, rfl⟩ := perform_registerDutInfo performed
      obtain ⟨running, still⟩ := TestResultCalculator.notify_not_finalized notified
      have unstarted := unstarted_of_passed one alive passes
      have fresh : process.startCount = 0 := by
        have counted : process.Counted := known
        rw [Counted, if_neg (by simp [unstarted, running])] at counted
        exact counted
      have held := placed.held rfl
      refine ⟨⟨starts.once, fun free => ?_, starts.constructed, starts.each, fun _ => still⟩,
        ⟨fresh, rfl⟩, fun other different => ⟨fun theirs => ?_, fun _ => still.trans running.symm,
        id⟩⟩
      · rw [held] at free
        cases free
      · exact absurd theirs (not_held_by_other (Or.inr held) different)
  | notifyStartRunAgain dutInfo previous again =>
      rw [one.unregistered (unstarted_of_passed one alive passes)] at again
      cases again
  | destroyPreviousDutInfo previous => exact passes.elim
  | emitStart artifact built =>
      obtain ⟨start, rfl, _⟩ := TestRun.startArtifact_eq_ok _ _ _ _ built
      obtain ⟨kept, _, keeps⟩ := startsOnce_of_start none starts (placed.held rfl) known.1 performed
        rfl (fun _ => known.2)
      exact ⟨kept, trivial, keeps⟩
  | emitMissingStart artifact built =>
      obtain ⟨start, rfl, _⟩ := TestRun.startArtifact_eq_ok _ _ _ _ built
      obtain ⟨kept, count, keeps⟩ := startsOnce_of_start process.run.mutex starts (placed.held rfl)
        known performed rfl (fun free => by rw [placed.held rfl] at free; cases free)
      exact ⟨kept, count, keeps⟩
  | finalize =>
      obtain ⟨calculator, finalized, rfl⟩ := perform_finalize performed
      obtain ⟨running, rfl⟩ := TestResultCalculator.finalize_eq_ok finalized
      have held := placed.held rfl
      have mine := placed.destroying rfl
      refine ⟨⟨starts.once, fun free => ?_, starts.constructed, starts.each, fun running => ?_⟩,
        ⟨known, TestResultCalculator.finish_finalized _⟩, fun other different =>
        ⟨fun theirs => ?_, fun theirs => ?_, id⟩⟩
      · rw [held] at free
        cases free
      · rw [mine] at running
        cases running
      · exact absurd theirs (not_held_by_other (Or.inr held) different)
      · rw [mine] at theirs
        exact absurd (Lifetime.destroying.inj theirs).symm different
  | readStatus =>
      obtain rfl := Outcome.ok.inj performed
      exact ⟨starts, known, fun other _ => keepsStart_of_same rfl rfl rfl other⟩
  | readResult status =>
      obtain rfl := Outcome.ok.inj performed
      exact ⟨starts, known, fun other _ => keepsStart_of_same rfl rfl rfl other⟩
  | emitEnd status result =>
      have finalized := perform_finalized performed (by simp)
      obtain ⟨kept, _, keeps⟩ := startsOnce_of_run { process.run with mutex := none } starts same
        (Or.inr ⟨_, artifacts, rfl, fun _ => known.1⟩) finalized rfl
        (fun _ => by rw [Counted, if_pos (Or.inr known.2)]; exact known.1) id
      exact ⟨kept, trivial, fun other _ => keeps other⟩
  | emitSchemaVersion =>
      have finalized := perform_finalized performed (by simp)
      obtain ⟨kept, _, keeps⟩ := startsOnce_of_run { process.run with lifetime := .live } starts
        same (Or.inr ⟨_, artifacts, rfl, fun follows => by cases follows⟩) finalized rfl
        starts.counted (fun _ => by rw [placed.constructing rfl]; rfl)
      exact ⟨kept, trivial, fun other _ => keeps other⟩
  | destroyMembers registered =>
      have finalized := perform_finalized performed (by simp)
      obtain ⟨kept, _, keeps⟩ := startsOnce_of_run { process.run with lifetime := .destroyed } starts
        same (Or.inl (artifacts.trans (List.append_nil _))) finalized rfl starts.counted
        (fun running => by cases running)
      exact ⟨kept, trivial, fun other _ => keeps other⟩
  | destroyMembersDutInfo dutInfo registered =>
      have finalized := perform_finalized performed (by simp)
      obtain ⟨kept, _, keeps⟩ := startsOnce_of_run { process.run with lifetime := .destroyed } starts
        same (Or.inl (artifacts.trans (List.append_nil _))) finalized rfl starts.counted
        (fun running => by cases running)
      exact ⟨kept, trivial, fun other _ => keeps other⟩
  | _ =>
      have finalized := perform_finalized performed (by simp)
      obtain ⟨kept, _, keeps⟩ := startsOnce_of_run process.run starts same
        (Or.inl (artifacts.trans (List.append_nil _))) finalized rfl starts.counted id
      exact ⟨kept, trivial, fun other _ => keeps other⟩

theorem moves_startsOnce {settings : Settings} {thread : ThreadId} {process next : Process}
    {label : Label} {frame after : Frame} (allocated : process.Allocated)
    (placed : process.Placed thread frame) (one : process.OneDutInfo)
    (passes : process.Passes thread frame) (starts : process.StartsOnce)
    (known : process.StartKnown frame)
    (moves : Moves settings thread process label frame next after) :
    next.StartsOnce ∧ next.StartKnown after ∧
      ∀ other, other ≠ thread → KeepsStart other process next := by
  cases moves with
  | log _ severity message _ delivered =>
      obtain ⟨kept, keeps⟩ := startsOnce_of_deliver starts delivered
      exact ⟨kept, startKnown_of_keepsStart (keeps thread) placed known, fun other _ => keeps other⟩
  | call call _ _ _ begins =>
      obtain ⟨kept, knows, keeps⟩ := begins_startsOnce starts begins
      exact ⟨kept, knows, fun other _ => keeps other⟩
  | run frame run request rest performed _ alive advances perform =>
      exact run_startsOnce placed alive one passes starts known advances perform
  | step ref frame step request rest performed _ _ advances perform =>
      obtain ⟨kept, knows, keeps⟩ := step_startsOnce placed starts known advances perform
      exact ⟨kept, knows, fun other _ => keeps other⟩
  | series ref frame series request rest performed _ _ _ advances perform =>
      obtain ⟨kept, keeps⟩ := series_startsOnce allocated placed starts advances perform
      refine ⟨kept, ?_, fun other _ => keeps other⟩
      cases rest <;> trivial
  | dying message _ delivered =>
      obtain ⟨kept, keeps⟩ := startsOnce_of_deliver starts delivered
      exact ⟨kept, trivial, fun other _ => keeps other⟩
  | aborting =>
      obtain ⟨kept, keeps⟩ := startsOnce_elsewhere { process with aborted := true } starts
        (Or.inl rfl) rfl rfl starts.constructed
      exact ⟨kept, trivial, fun other _ => keeps other⟩
  | _ => exact ⟨starts, trivial, fun other _ => keepsStart_of_same rfl rfl rfl other⟩

/-- The start of the run, in every state. -/
structure StartSound (pool : Pool Process Frame) : Prop where
  held : MutexesHeld pool
  owned : DutInfoOwned pool
  outline : Outline StartsOnce (fun process _ frame => process.StartKnown frame) pool

theorem startSound_initial (testRunStart : TestRunStart) :
    StartSound (initialPool testRunStart) := by
  refine ⟨mutexesHeld_initial testRunStart, dutInfoOwned_initial testRunStart,
    ⟨Nat.zero_le _, fun _ => rfl, ?_, Trace.eachAfter_nil, fun _ => rfl⟩, fun _ => trivial⟩
  intro _ constructed
  cases constructed

theorem startSound_step (settings : Settings) (pool : Pool Process Frame)
    (label : ThreadId × Label) (final : Pool Process Frame) (sound : StartSound pool)
    (stepped : systemStep settings pool label = some final) : StartSound final := by
  refine ⟨mutexesHeld_step settings pool final label sound.held stepped,
    dutInfoOwned_step settings pool final label sound.held sound.owned stepped, ?_⟩
  refine outline_of_moves
    (fun thread before after => ∀ other, other ≠ thread → KeepsStart other before after)
    sound.held sound.outline stepped ?_ ?_
  · intro next after moves
    exact moves_startsOnce sound.held.shared (sound.held.threads label.1) sound.owned.shared
      (sound.owned.threads label.1) sound.outline.shared (sound.outline.threads label.1) moves
  · intro next thread different _ keeps placed known
    exact startKnown_of_keepsStart (keeps thread different) placed known

end Process

/-- No stream has two TestRunStart artifacts, and every artifact of a step and the TestRunEnd come
after exactly one. -/
theorem exactly_one_test_run_start (settings : Settings) (testRunStart : TestRunStart)
    (labels : List (ThreadId × Label)) (final : Pool Process Frame)
    (reached : Runs.run (systemStep settings) (initialPool testRunStart) labels = some final) :
    final.shared.artifacts.countP Pb.OutputVariant.isTestRunStart ≤ 1 ∧
    ∀ before artifact after, final.shared.artifacts = before ++ artifact :: after →
      artifact.followsStart = true →
      before.countP Pb.OutputVariant.isTestRunStart = 1 := by
  have sound := Runs.run_preserves _ Process.StartSound (Process.startSound_step settings) _ final
    labels (Process.startSound_initial testRunStart) reached
  exact ⟨sound.outline.shared.once, sound.outline.shared.each⟩

/-- One thread starts and ends the run, another creates and ends a step. -/
def startedLabels : List (ThreadId × Label) :=
  sampleStart ++ callLabels 1 (.newTestStep "fans") 2 ++ callLabels 1 (.deleteTestStep 0) 2 ++
    callLabels 0 .deleteTestRun 5

theorem exactly_one_test_run_start_startedLabels :
    ∃ final, Runs.run (systemStep sampleSettings) (initialPool sampleTestRunStart) startedLabels =
        some final ∧
      final.shared.artifacts.countP Pb.OutputVariant.isTestRunStart ≤ 1 ∧
      ∀ before artifact after, final.shared.artifacts = before ++ artifact :: after →
        artifact.followsStart = true →
        before.countP Pb.OutputVariant.isTestRunStart = 1 :=
  ⟨_, rfl, exactly_one_test_run_start sampleSettings sampleTestRunStart startedLabels _ rfl⟩

end OcpDiag.Results
