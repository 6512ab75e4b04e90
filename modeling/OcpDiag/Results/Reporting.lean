import OcpDiag.Lib.ThreadPool
import OcpDiag.Results.RunStart
import OcpDiag.Results.StepStatus

set_option autoImplicit false

/- What a step of a program can do to the stream and to the calculator, and nothing else of it. -/
namespace OcpDiag.Results

open ThreadPool

namespace Pb

def TestStepVariant.isFailure : TestStepVariant → Bool
  | .diagnosis proto => proto.type == .FAIL
  | _ => false

/-- An Error, of the run or of a step. -/
def OutputVariant.isError : OutputVariant → Bool
  | .testRunArtifact (.error _) => true
  | .testStepArtifact proto => proto.artifact.isError
  | _ => false

/-- A Diagnosis of type FAIL. -/
def OutputVariant.isFailure : OutputVariant → Bool
  | .testStepArtifact proto => proto.artifact.isFailure
  | _ => false

/-- The artifacts that have nothing to do with the outcome. -/
def OutputVariant.plain (artifact : OutputVariant) : Bool :=
  !artifact.isError && !artifact.isFailure && !artifact.isTestRunEnd

end Pb

/-- The points of a program at which nothing is known of the outcome, and none is owed. -/
def Frame.plain : Frame → Bool
  | .run .notifyPreStartError | .run .readStatus | .run (.readResult _)
  | .run (.emitEnd _ _) => false
  | .step _ (.notifyFailureDiagnosis _) | .step _ (.setError _) | .step _ (.notifyError _)
  | .step _ (.checkEnded _ _) | .step _ (.assignIdAndEmit _ _) => false
  | .dying _ | .aborting => false
  | _ => true

/-- Where the Add calls of a step start, with what they are about to report. -/
inductive TestStep.Reported : TestStep.Frame → Prop
  | checkEnded (added : AddedArtifact) (fatal : Option String) :
      added.variant.isError = false → added.variant.isFailure = false →
      TestStep.Reported (.checkEnded added fatal)
  | notifyFailureDiagnosis (added : AddedArtifact) : added.variant.isError = false →
      added.variant.isFailure = true → TestStep.Reported (.notifyFailureDiagnosis added)
  | setError (added : AddedArtifact) : added.variant.isError = true →
      added.variant.isFailure = false → TestStep.Reported (.setError added)

theorem TestStep.reported_of_stepFrame {settings : Settings} {call : Call} {ref : StepRef}
    {frame : TestStep.Frame} (entry : call.stepFrame settings = some (ref, .ok frame)) :
    TestStep.Reported frame ∨ (Results.Frame.step ref frame).plain = true := by
  cases call with
  | addMeasurement _ measurement =>
      simp only [Call.stepFrame, Option.some.injEq, Prod.mk.injEq, addMeasurement,
        Outcome.bind_eq_ok, Outcome.pure_eq_ok, Outcome.ok.injEq] at entry
      obtain ⟨_, _, _, _, _, rfl⟩ := entry
      exact Or.inl (.checkEnded _ _ rfl rfl)
  | addDiagnosis _ diagnosis =>
      simp only [Call.stepFrame, Option.some.injEq, Prod.mk.injEq, addDiagnosis,
        Outcome.bind_eq_ok] at entry
      obtain ⟨_, _, _, entry⟩ := entry
      split at entry
      · rename_i fails
        cases entry
        refine Or.inl (.notifyFailureDiagnosis _ rfl ?_)
        simp [Pb.TestStepVariant.isFailure, Diagnosis.structToProto, fails, DiagnosisType.toProto]
      · rename_i passes
        cases entry
        refine Or.inl (.checkEnded _ _ rfl ?_)
        simpa [Pb.TestStepVariant.isFailure, Diagnosis.structToProto,
          DiagnosisType.toProto_eq_fail] using passes
  | addError _ error =>
      simp only [Call.stepFrame, Option.some.injEq, Prod.mk.injEq, addError,
        Outcome.bind_eq_ok, Outcome.pure_eq_ok, Outcome.ok.injEq] at entry
      obtain ⟨_, _, _, rfl⟩ := entry
      exact Or.inl (.setError _ rfl rfl)
  | addFile _ file =>
      simp only [Call.stepFrame, Option.some.injEq, Prod.mk.injEq, addFile,
        Outcome.bind_eq_ok, Outcome.pure_eq_ok, Outcome.ok.injEq] at entry
      obtain ⟨_, _, _, rfl⟩ := entry
      exact Or.inl (.checkEnded _ _ rfl rfl)
  | addLog _ log =>
      simp only [Call.stepFrame, Option.some.injEq, Prod.mk.injEq, addLog,
        Outcome.bind_eq_ok, Outcome.pure_eq_ok, Outcome.ok.injEq] at entry
      obtain ⟨_, _, _, rfl⟩ := entry
      exact Or.inl (.checkEnded _ _ rfl rfl)
  | addExtension _ extension =>
      simp only [Call.stepFrame, Option.some.injEq, Prod.mk.injEq, addExtension,
        Outcome.bind_eq_ok, Outcome.pure_eq_ok, Outcome.ok.injEq] at entry
      obtain ⟨_, _, _, _, _, rfl⟩ := entry
      exact Or.inl (.checkEnded _ _ rfl rfl)
  | skipTestStep _ =>
      cases entry
      exact Or.inr rfl
  | endTestStep _ =>
      cases entry
      exact Or.inr rfl
  | _ => cases entry

namespace Process

/-- What a step adds to the stream, and how it leaves the calculator. -/
structure Adds (process next : Process) (added : List Pb.OutputVariant) : Prop where
  artifacts : next.artifacts = process.artifacts ++ added
  calculator : next.calculator = process.calculator

/-- A step that only tells the calculator something. -/
structure Notifies (process next : Process) (event : Notification) : Prop where
  artifacts : next.artifacts = process.artifacts
  notified : process.calculator.notify event = .ok next.calculator

/-- The steps of a thread, as far as the stream and the calculator go. -/
inductive Reports (process next : Process) : Frame → Frame → Prop
  | sink (frame : Frame) (added : List Pb.OutputVariant) :
      (∀ artifact ∈ added, artifact.plain = true) → process.Adds next added →
      Reports process next frame frame
  | quiet (frame after : Frame) (added : List Pb.OutputVariant) : frame.plain = true →
      after.plain = true → (∀ artifact ∈ added, artifact.plain = true) →
      process.Adds next added → Reports process next frame after
  | notifies (frame after : Frame) (event : Notification) : frame.plain = true →
      after.plain = true → event = .startRun ∨ event = .skip → process.Notifies next event →
      Reports process next frame after
  | dies (frame : Frame) (message : String) (added : List Pb.OutputVariant) :
      (∀ artifact ∈ added, artifact.plain = true) → process.Adds next added →
      Reports process next frame (.dying message)
  | delivers (message : String) (added : List Pb.OutputVariant) :
      (∀ artifact ∈ added, artifact.plain = true) → process.Adds next added →
      Reports process next (.dying message) .aborting
  | enters (ref : StepRef) (frame : TestStep.Frame) : TestStep.Reported frame →
      process.Adds next [] → Reports process next .idle (.step ref frame)
  | setError (ref : StepRef) (added : AddedArtifact) : process.Adds next [] →
      Reports process next (.step ref (.setError added)) (.step ref (.notifyError added))
  | notifyError (ref : StepRef) (added : AddedArtifact) : process.Notifies next .error →
      Reports process next (.step ref (.notifyError added)) (.step ref (.checkEnded added none))
  | notifyFailureDiagnosis (ref : StepRef) (added : AddedArtifact) :
      process.Notifies next .failureDiagnosis →
      Reports process next (.step ref (.notifyFailureDiagnosis added))
        (.step ref (.checkEnded added none))
  | checkEnded (ref : StepRef) (added : AddedArtifact) (fatal : Option String) :
      process.Adds next [] →
      Reports process next (.step ref (.checkEnded added fatal))
        (.step ref (.assignIdAndEmit added fatal))
  | assignIdAndEmit (ref : StepRef) (added : AddedArtifact) (fatal : Option String)
      (after : Frame) : (after = .idle ∨ ∃ message, after = .dying message) →
      process.Adds next [TestStep.artifact ref added.variant] →
      Reports process next (.step ref (.assignIdAndEmit added fatal)) after
  | writePreStartError (error : Pb.Error) :
      process.Adds next [.testRunArtifact (.error error)] →
      Reports process next (.run (.writePreStartError error)) (.run .notifyPreStartError)
  | notifyPreStartError : process.Notifies next .error →
      Reports process next (.run .notifyPreStartError) .idle
  | finalize : next.artifacts = process.artifacts → process.calculator.finalized = false →
      next.calculator = process.calculator.finish →
      Reports process next (.run .finalize) (.run .readStatus)
  | readStatus : process.Adds next [] →
      Reports process next (.run .readStatus) (.run (.readResult process.calculator.status))
  | readResult (status : TestStatus) : process.Adds next [] →
      Reports process next (.run (.readResult status))
        (.run (.emitEnd status process.calculator.result))
  | emitEnd (status : TestStatus) (result : TestResult) :
      process.Adds next [.testRunArtifact (.testRunEnd ⟨status.toProto, result.toProto⟩)] →
      Reports process next (.run (.emitEnd status result)) (.run .deregisterLogSink)

section

variable {settings : Settings} {process next : Process} {thread : ThreadId} {label : Label}
  {origin : Origin} {now : Pb.Timestamp} {artifact : Pb.OutputVariant}

theorem adds_of_write (wrote : process.write origin artifact now = .ok next) :
    process.Adds next [artifact] := by
  obtain ⟨_, artifacts, calculator, _⟩ := write_spec _ _ _ _ _ wrote
  exact ⟨artifacts, calculator⟩

theorem adds_of_quiet {request : Request} (quiet : request.quiet = true)
    (performed : process.perform settings origin now request = .ok next) :
    process.Adds next [] := by
  obtain ⟨stream, _, calculator⟩ := perform_quiet _ _ _ _ _ _ quiet performed
  exact ⟨by simp only [Process.artifacts, stream, List.append_nil], calculator⟩

theorem adds_refl (process : Process) : process.Adds process [] :=
  ⟨(List.append_nil _).symm, rfl⟩

theorem notifies_of_perform {event : Notification}
    (performed : process.perform settings origin now (.notify event) = .ok next) :
    process.Notifies next event := by
  obtain ⟨calculator, notified, rfl⟩ := perform_notify performed
  exact ⟨rfl, notified⟩

theorem plain_singleton {artifact : Pb.OutputVariant} (plain : artifact.plain = true) :
    ∀ other ∈ [artifact], other.plain = true := fun _ member =>
  List.mem_singleton.mp member ▸ plain

/-- What is logged through Abseil is a log of the run. -/
theorem adds_of_deliver {severity : AbslSeverity} {message : String}
    (delivered : process.deliver severity message now = .ok next) :
    ∃ added, (∀ artifact ∈ added, artifact.plain = true) ∧ process.Adds next added := by
  rcases deliver_spec _ _ _ _ _ delivered with rfl | ⟨_, wrote⟩
  · exact ⟨[], (fun _ member => by cases member), adds_refl _⟩
  · exact ⟨_, plain_singleton rfl, adds_of_write wrote⟩

/-- A step between two plain points, by what it asks for. -/
theorem reports_of_write {frame after : Frame} (before : frame.plain = true)
    (later : after.plain = true) (plain : artifact.plain = true)
    (wrote : process.write origin artifact now = .ok next) : process.Reports next frame after :=
  .quiet _ _ _ before later (plain_singleton plain) (adds_of_write wrote)

theorem reports_of_quiet {frame after : Frame} {request : Request} (before : frame.plain = true)
    (later : after.plain = true) (quiet : request.quiet = true)
    (performed : process.perform settings origin now request = .ok next) :
    process.Reports next frame after :=
  .quiet _ _ [] before later (fun _ member => by cases member) (adds_of_quiet quiet performed)

theorem reports_of_begins {call : Call} {frame : Frame}
    (begins : Begins settings thread now process call next frame) :
    process.Reports next .idle frame := by
  have same := begins_sameRecord _ _ _ _ _ _ _ begins
  have adds : process.Adds next [] :=
    ⟨by simp only [Process.artifacts, same.stream, List.append_nil], same.calculator⟩
  have quiet : frame.plain = true → process.Reports next .idle frame := fun plain =>
    .quiet _ _ [] rfl plain (fun _ member => by cases member) adds
  cases begins with
  | onRun call entered entry live =>
      cases call with
      | startAndRegisterDutInfo dutInfo =>
          cases dutInfo with
          | none =>
              cases entry
              exact quiet rfl
          | some dutInfo => cases entry
      | _ =>
          cases entry
          all_goals exact quiet rfl
  | onStep call ref entered entry live =>
      rcases TestStep.reported_of_stepFrame entry with reported | plain
      · exact .enters ref entered reported adds
      · exact quiet plain
  | dies call message => exact .dies _ message [] (fun _ member => by cases member) adds
  | _ => exact quiet rfl

theorem reports_of_run {frame : TestRun.Frame} {run : TestRun} {request : Request}
    {rest : Continue TestRun.Frame}
    (advances : process.run.Advances settings.protobuf thread process.calculator process.dutInfos
      frame run request rest)
    (performed : process.perform settings .run now request = .ok next) :
    process.Reports next (.run frame) (rest.toFrame .run) := by
  cases advances with
  | emitSchemaVersion => exact reports_of_write rfl rfl rfl performed
  | writePreStartError error => exact .writePreStartError error (adds_of_write performed)
  | notifyPreStartError => exact .notifyPreStartError (notifies_of_perform performed)
  | writePreStartLog log => exact reports_of_write rfl rfl rfl performed
  | writePreStartLogFatal log =>
      exact .dies _ _ _ (plain_singleton rfl) (adds_of_write performed)
  | notifyStartRun dutInfo first =>
      obtain ⟨calculator, notified, rfl⟩ := perform_registerDutInfo performed
      exact .notifies _ _ .startRun rfl rfl (Or.inl rfl) ⟨rfl, notified⟩
  | notifyStartRunAgain dutInfo previous again =>
      obtain ⟨calculator, notified, rfl⟩ := perform_registerDutInfo performed
      exact .notifies _ _ .startRun rfl rfl (Or.inl rfl) ⟨rfl, notified⟩
  | emitStart artifact built =>
      obtain ⟨start, rfl, _⟩ := TestRun.startArtifact_eq_ok _ _ _ _ built
      exact reports_of_write rfl rfl rfl performed
  | emitMissingStart artifact built =>
      obtain ⟨start, rfl, _⟩ := TestRun.startArtifact_eq_ok _ _ _ _ built
      exact reports_of_write rfl rfl rfl performed
  | skip => exact .notifies _ _ .skip rfl rfl (Or.inr rfl) (notifies_of_perform performed)
  | lockEnd free =>
      refine reports_of_quiet rfl ?_ rfl performed
      cases process.run.started <;> rfl
  | finalize =>
      obtain ⟨calculator, finalized, rfl⟩ := perform_finalize performed
      obtain ⟨running, same⟩ := TestResultCalculator.finalize_eq_ok finalized
      exact .finalize rfl running same
  | readStatus =>
      obtain rfl := Outcome.ok.inj performed
      exact .readStatus (adds_refl _)
  | readResult status =>
      obtain rfl := Outcome.ok.inj performed
      exact .readResult status (adds_refl _)
  | emitEnd status result => exact .emitEnd status result (adds_of_write performed)
  | addPreStartErrorDies | addPreStartLogDies | startAndRegisterDutInfoDies
  | emitSchemaVersionDies | emitStartDies | emitMissingStartDies =>
      exact .dies _ _ [] (fun _ member => by cases member) (adds_of_quiet rfl performed)
  | _ => exact reports_of_quiet rfl rfl rfl performed

theorem reports_of_step {ref : StepRef} {frame : TestStep.Frame} {step : TestStep}
    {request : Request} {rest : Continue TestStep.Frame} {runMutex : Option ThreadId}
    {runStarted : Bool}
    (advances : (process.steps ref).Advances ref thread runMutex runStarted frame step request rest)
    (performed : process.perform settings .step now request = .ok next) :
    process.Reports next (.step ref frame) (rest.toFrame (.step ref)) := by
  cases advances with
  | emitStart => exact reports_of_write rfl rfl rfl performed
  | notifyFailureDiagnosis added =>
      exact .notifyFailureDiagnosis ref added (notifies_of_perform performed)
  | setError added free => exact .setError ref added (adds_of_quiet rfl performed)
  | notifyError added => exact .notifyError ref added (notifies_of_perform performed)
  | checkEnded added fatal free running =>
      exact .checkEnded ref added fatal (adds_of_quiet rfl performed)
  | assignIdAndEmit added =>
      exact .assignIdAndEmit ref added none _ (Or.inl rfl) (adds_of_write performed)
  | assignIdAndEmitFatal added message =>
      exact .assignIdAndEmit ref added _ _ (Or.inr ⟨message, rfl⟩) (adds_of_write performed)
  | emitEnd destroy => exact reports_of_write rfl rfl rfl performed
  | checkStartedDies | emitStartDies | checkEndedDies =>
      exact .dies _ _ [] (fun _ member => by cases member) (adds_of_quiet rfl performed)
  | _ => exact reports_of_quiet rfl rfl rfl performed

theorem reports_of_series {ref : SeriesRef} {frame : MeasurementSeries.Frame}
    {series : MeasurementSeries} {request : Request} {rest : Continue MeasurementSeries.Frame}
    {stepMutex : Option ThreadId} {stepEnded : Bool}
    (advances : (process.series ref).Advances settings.protobuf ref thread stepMutex stepEnded frame
      series request rest)
    (performed : process.perform settings .series now request = .ok next) :
    process.Reports next (.series ref frame) (rest.toFrame (.series ref)) := by
  cases advances with
  | emitStart start built proto constructs => exact reports_of_write rfl rfl rfl performed
  | emitElement element => exact reports_of_write rfl rfl rfl performed
  | emitEnd totalCount destroy => exact reports_of_write rfl rfl rfl performed
  | checkStepDies | emitStartDies | checkTypeDies | drawIndexDies | checkElementDies =>
      exact .dies _ _ [] (fun _ member => by cases member) (adds_of_quiet rfl performed)
  | _ => exact reports_of_quiet rfl rfl rfl performed

/-- The objects of a process are no part of a report. -/
theorem Reports.congr {other : Process} {frame after : Frame}
    (reports : process.Reports next frame after) (artifacts : other.artifacts = next.artifacts)
    (calculator : other.calculator = next.calculator) : process.Reports other frame after := by
  have adds : ∀ {added}, process.Adds next added → process.Adds other added := fun adds =>
    ⟨artifacts.trans adds.artifacts, calculator.trans adds.calculator⟩
  have notifies : ∀ {event}, process.Notifies next event → process.Notifies other event :=
    fun notifies => ⟨artifacts.trans notifies.artifacts, calculator ▸ notifies.notified⟩
  cases reports with
  | sink _ added plain adding => exact .sink _ added plain (adds adding)
  | quiet _ _ added before later plain adding =>
      exact .quiet _ _ added before later plain (adds adding)
  | notifies _ _ event before later which notified =>
      exact .notifies _ _ event before later which (notifies notified)
  | dies _ message added plain adding => exact .dies _ message added plain (adds adding)
  | delivers message added plain adding => exact .delivers message added plain (adds adding)
  | enters ref entered reported adding => exact .enters ref entered reported (adds adding)
  | setError ref added adding => exact .setError ref added (adds adding)
  | notifyError ref added notified => exact .notifyError ref added (notifies notified)
  | notifyFailureDiagnosis ref added notified =>
      exact .notifyFailureDiagnosis ref added (notifies notified)
  | checkEnded ref added fatal adding => exact .checkEnded ref added fatal (adds adding)
  | assignIdAndEmit ref added fatal _ ends adding =>
      exact .assignIdAndEmit ref added fatal _ ends (adds adding)
  | writePreStartError error adding => exact .writePreStartError error (adds adding)
  | notifyPreStartError notified => exact .notifyPreStartError (notifies notified)
  | finalize same running finished =>
      exact .finalize (artifacts.trans same) running (calculator.trans finished)
  | readStatus adding => exact .readStatus (adds adding)
  | readResult status adding => exact .readResult status (adds adding)
  | emitEnd status result adding => exact .emitEnd status result (adds adding)

/-- Every step of a program is one of those that `Reports` lists. -/
theorem reports_of_moves {frame after : Frame}
    (moves : Moves settings thread process label frame next after) :
    process.Reports next frame after := by
  cases moves with
  | log _ severity message _ delivered =>
      obtain ⟨added, plain, adds⟩ := adds_of_deliver delivered
      exact .sink _ added plain adds
  | call call _ _ _ begins => exact reports_of_begins begins
  | run frame run request rest performed _ _ advances perform =>
      exact (reports_of_run advances perform).congr rfl rfl
  | step ref frame step request rest performed _ _ advances perform =>
      exact (reports_of_step advances perform).congr rfl rfl
  | series ref frame series request rest performed _ _ _ advances perform =>
      exact (reports_of_series advances perform).congr rfl rfl
  | dying message _ delivered =>
      obtain ⟨added, plain, adds⟩ := adds_of_deliver delivered
      exact .delivers message added plain adds
  | aborting => exact .sink _ [] (fun _ member => by cases member) ⟨(List.append_nil _).symm, rfl⟩
  | _ => exact .dies _ _ [] (fun _ member => by cases member) (adds_refl _)

end

end Process

end OcpDiag.Results
