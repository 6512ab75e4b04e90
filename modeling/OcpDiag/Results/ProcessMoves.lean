import OcpDiag.Results.Process

set_option autoImplicit false

namespace OcpDiag.Results

open ThreadPool

/-- What a request adds to the stream. -/
def Request.written : Request → List Pb.OutputVariant
  | .write artifact => [artifact]
  | _ => []

/-- The requests that neither write nor reach the calculator. -/
def Request.quiet : Request → Bool
  | .write _ | .notify _ | .registerDutInfo _ | .finalize => false
  | _ => true

/-- The calls of a TestRun that change nothing when they begin. -/
def Call.runFrame : Call → Option TestRun.Frame
  | .addPreStartError error => some (.addPreStartError error)
  | .addPreStartLog log => some (.addPreStartLog log)
  | .startAndRegisterDutInfo none => some (.startAndRegisterDutInfo none)
  | .skipTestRun => some .skip
  | _ => none

/-- The calls of a TestStep but for its destructor. -/
def Call.stepFrame (settings : Settings) : Call → Option (StepRef × Outcome TestStep.Frame)
  | .addMeasurement ref measurement =>
      some (ref, TestStep.addMeasurement settings.protobuf measurement)
  | .addDiagnosis ref diagnosis => some (ref, TestStep.addDiagnosis diagnosis)
  | .addError ref error => some (ref, TestStep.addError error)
  | .addFile ref file => some (ref, TestStep.addFile file)
  | .addLog ref log => some (ref, TestStep.addLog log)
  | .addExtension ref extension => some (ref, TestStep.addExtension settings.protobuf extension)
  | .skipTestStep ref => some (ref, .ok .skip)
  | .endTestStep ref => some (ref, .ok (.lockEnd false))
  | _ => none

/-- The calls of a MeasurementSeries but for its destructor. -/
def Call.seriesFrame (now : Pb.Timestamp) : Call → Option (SeriesRef × MeasurementSeries.Frame)
  | .addElement ref element => some (ref, .checkType element now)
  | .endMeasurementSeries ref => some (ref, .lockEnd false)
  | _ => none

/-- An Error, or a Diagnosis of type FAIL. -/
def Pb.TestStepVariant.failing : Pb.TestStepVariant → Bool
  | .error _ => true
  | .diagnosis proto => proto.type == .FAIL
  | _ => false

/-- Where the calls of a TestStep start. -/
inductive TestStep.Entry : TestStep.Frame → Prop
  | checkEnded (added : AddedArtifact) (fatal : Option String) :
      added.variant.failing = false → TestStep.Entry (.checkEnded added fatal)
  | notifyFailureDiagnosis (added : AddedArtifact) :
      TestStep.Entry (.notifyFailureDiagnosis added)
  | setError (added : AddedArtifact) : TestStep.Entry (.setError added)
  | skip : TestStep.Entry .skip
  | lockEnd : TestStep.Entry (.lockEnd false)

theorem DiagnosisType.toProto_eq_fail (type : DiagnosisType) :
    type.toProto = .FAIL ↔ type = .fail := by
  cases type <;> simp [toProto]

theorem TestStep.entry_of_stepFrame {settings : Settings} {call : Call} {ref : StepRef}
    {frame : TestStep.Frame} (entry : call.stepFrame settings = some (ref, .ok frame)) :
    TestStep.Entry frame := by
  cases call with
  | addMeasurement _ measurement =>
      simp only [Call.stepFrame, Option.some.injEq, Prod.mk.injEq, addMeasurement,
        Outcome.bind_eq_ok, Outcome.pure_eq_ok, Outcome.ok.injEq] at entry
      obtain ⟨_, _, _, _, _, rfl⟩ := entry
      exact .checkEnded _ _ rfl
  | addDiagnosis _ diagnosis =>
      simp only [Call.stepFrame, Option.some.injEq, Prod.mk.injEq, addDiagnosis,
        Outcome.bind_eq_ok] at entry
      obtain ⟨_, _, _, entry⟩ := entry
      split at entry
      · cases entry
        exact .notifyFailureDiagnosis _
      · rename_i passes
        cases entry
        refine .checkEnded _ _ ?_
        simpa [Pb.TestStepVariant.failing, Diagnosis.structToProto,
          DiagnosisType.toProto_eq_fail] using passes
  | addError _ error =>
      simp only [Call.stepFrame, Option.some.injEq, Prod.mk.injEq, addError,
        Outcome.bind_eq_ok, Outcome.pure_eq_ok, Outcome.ok.injEq] at entry
      obtain ⟨_, _, _, rfl⟩ := entry
      exact .setError _
  | addFile _ file =>
      simp only [Call.stepFrame, Option.some.injEq, Prod.mk.injEq, addFile,
        Outcome.bind_eq_ok, Outcome.pure_eq_ok, Outcome.ok.injEq] at entry
      obtain ⟨_, _, _, rfl⟩ := entry
      exact .checkEnded _ _ rfl
  | addLog _ log =>
      simp only [Call.stepFrame, Option.some.injEq, Prod.mk.injEq, addLog,
        Outcome.bind_eq_ok, Outcome.pure_eq_ok, Outcome.ok.injEq] at entry
      obtain ⟨_, _, _, rfl⟩ := entry
      exact .checkEnded _ _ rfl
  | addExtension _ extension =>
      simp only [Call.stepFrame, Option.some.injEq, Prod.mk.injEq, addExtension,
        Outcome.bind_eq_ok, Outcome.pure_eq_ok, Outcome.ok.injEq] at entry
      obtain ⟨_, _, _, _, _, rfl⟩ := entry
      exact .checkEnded _ _ rfl
  | skipTestStep _ =>
      cases entry
      exact .skip
  | endTestStep _ =>
      cases entry
      exact .lockEnd
  | _ => cases entry

namespace Process

theorem write_eq_ok (process next : Process) (origin : Origin) (artifact : Pb.OutputVariant)
    (now : Pb.Timestamp) :
    process.write origin artifact now = .ok next ↔
      process.sequenceNumber.count < intMax ∧
      next = { process with
        stream := process.stream ++ [(origin, ⟨artifact, process.sequenceNumber.count, now⟩)]
        sequenceNumber := ⟨process.sequenceNumber.count + 1⟩ } := by
  let written (number : Nat) (sequenceNumber : IntIncrementer) : Process :=
    { process with
      stream := process.stream ++ [(origin, ⟨artifact, number, now⟩)]
      sequenceNumber }
  exact process.sequenceNumber.next_bind_eq_ok written next

theorem write_ne_die (process : Process) (origin : Origin) (artifact : Pb.OutputVariant)
    (now : Pb.Timestamp) (message : String) :
    process.write origin artifact now ≠ .die message := by
  unfold write
  cases drawn : process.sequenceNumber.next with
  | ok value => simp
  | die message => exact absurd drawn (IntIncrementer.next_ne_die _ _)
  | undefined => simp

/-- The objects that no request touches. -/
structure SameObjects (process next : Process) : Prop where
  run : next.run = process.run
  steps : next.steps = process.steps
  series : next.series = process.series
  dutInfos : next.dutInfos = process.dutInfos
  dutCount : next.dutCount = process.dutCount
  hardwareReturned : next.hardwareReturned = process.hardwareReturned
  softwareReturned : next.softwareReturned = process.softwareReturned

theorem write_spec (process next : Process) (origin : Origin) (artifact : Pb.OutputVariant)
    (now : Pb.Timestamp) (wrote : process.write origin artifact now = .ok next) :
    SameObjects process next ∧ next.artifacts = process.artifacts ++ [artifact] ∧
    next.calculator = process.calculator ∧ next.dutOwner = process.dutOwner ∧
    next.singletonInitialized = process.singletonInitialized := by
  obtain ⟨_, rfl⟩ := (write_eq_ok _ _ _ _ _).mp wrote
  exact ⟨⟨rfl, rfl, rfl, rfl, rfl, rfl, rfl⟩, by simp [artifacts], rfl, rfl, rfl⟩

section

variable {settings : Settings} {process next : Process} {origin : Origin} {now : Pb.Timestamp}

theorem perform_notify {event : Notification}
    (performed : process.perform settings origin now (.notify event) = .ok next) :
    ∃ calculator, process.calculator.notify event = .ok calculator ∧
      next = { process with calculator } := by
  simp only [perform, Outcome.bind_eq_ok, Outcome.pure_eq_ok, Outcome.ok.injEq] at performed
  obtain ⟨calculator, notified, rfl⟩ := performed
  exact ⟨calculator, notified, rfl⟩

theorem perform_registerDutInfo {dutInfo : DutRef}
    (performed : process.perform settings origin now (.registerDutInfo dutInfo) = .ok next) :
    ∃ calculator, process.calculator.notify .startRun = .ok calculator ∧
      next = ({ process with calculator } : Process).setDutOwner dutInfo .run := by
  simp only [perform, Outcome.bind_eq_ok, Outcome.pure_eq_ok, Outcome.ok.injEq] at performed
  obtain ⟨calculator, notified, rfl⟩ := performed
  exact ⟨calculator, notified, rfl⟩

theorem perform_finalize
    (performed : process.perform settings origin now .finalize = .ok next) :
    ∃ calculator, process.calculator.finalize = .ok calculator ∧
      next = { process with calculator } := by
  simp only [perform, Outcome.bind_eq_ok, Outcome.pure_eq_ok, Outcome.ok.injEq] at performed
  obtain ⟨calculator, finalized, rfl⟩ := performed
  exact ⟨calculator, finalized, rfl⟩

theorem perform_checkAndSetInitializationGuard
    (performed : process.perform settings origin now .checkAndSetInitializationGuard = .ok next) :
    process.initialized = false ∧ next = { process with initialized := true } := by
  simp only [perform, Outcome.bind_eq_ok, check_eq_ok, Outcome.pure_eq_ok, Outcome.ok.injEq,
    Bool.not_eq_true'] at performed
  obtain ⟨_, free, rfl⟩ := performed
  exact ⟨free, rfl⟩

end

/-- No request touches the objects, and only a write touches the stream. -/
theorem perform_spec (settings : Settings) (process next : Process) (origin : Origin)
    (now : Pb.Timestamp) (request : Request)
    (performed : process.perform settings origin now request = .ok next) :
    SameObjects process next ∧ next.artifacts = process.artifacts ++ request.written := by
  cases request with
  | none =>
      obtain rfl := Outcome.ok.inj performed
      exact ⟨⟨rfl, rfl, rfl, rfl, rfl, rfl, rfl⟩, (List.append_nil _).symm⟩
  | write artifact =>
      obtain ⟨same, written, _⟩ := write_spec process next origin artifact now performed
      exact ⟨same, written⟩
  | notify event =>
      obtain ⟨calculator, _, rfl⟩ := perform_notify performed
      exact ⟨⟨rfl, rfl, rfl, rfl, rfl, rfl, rfl⟩, (List.append_nil _).symm⟩
  | registerDutInfo dutInfo =>
      obtain ⟨calculator, _, rfl⟩ := perform_registerDutInfo performed
      exact ⟨⟨rfl, rfl, rfl, rfl, rfl, rfl, rfl⟩, (List.append_nil _).symm⟩
  | finalize =>
      obtain ⟨calculator, _, rfl⟩ := perform_finalize performed
      exact ⟨⟨rfl, rfl, rfl, rfl, rfl, rfl, rfl⟩, (List.append_nil _).symm⟩
  | checkAndSetInitializationGuard =>
      obtain ⟨_, rfl⟩ := perform_checkAndSetInitializationGuard performed
      exact ⟨⟨rfl, rfl, rfl, rfl, rfl, rfl, rfl⟩, (List.append_nil _).symm⟩
  | unsetInitializationGuard =>
      obtain rfl := Outcome.ok.inj performed
      exact ⟨⟨rfl, rfl, rfl, rfl, rfl, rfl, rfl⟩, (List.append_nil _).symm⟩
  | addLogSink =>
      obtain rfl := Outcome.ok.inj performed
      split <;> exact ⟨⟨rfl, rfl, rfl, rfl, rfl, rfl, rfl⟩, (List.append_nil _).symm⟩
  | removeLogSink =>
      obtain rfl := Outcome.ok.inj performed
      split <;> exact ⟨⟨rfl, rfl, rfl, rfl, rfl, rfl, rfl⟩, (List.append_nil _).symm⟩
  | destroyDutInfo dutInfo =>
      obtain rfl := Outcome.ok.inj performed
      exact ⟨⟨rfl, rfl, rfl, rfl, rfl, rfl, rfl⟩, (List.append_nil _).symm⟩

theorem perform_quiet (settings : Settings) (process next : Process) (origin : Origin)
    (now : Pb.Timestamp) (request : Request) (quiet : request.quiet = true)
    (performed : process.perform settings origin now request = .ok next) :
    next.stream = process.stream ∧ next.sequenceNumber = process.sequenceNumber ∧
      next.calculator = process.calculator := by
  cases request with
  | write artifact => cases quiet
  | notify event => cases quiet
  | registerDutInfo dutInfo => cases quiet
  | finalize => cases quiet
  | checkAndSetInitializationGuard =>
      obtain ⟨_, rfl⟩ := perform_checkAndSetInitializationGuard performed
      exact ⟨rfl, rfl, rfl⟩
  | addLogSink =>
      obtain rfl := Outcome.ok.inj performed
      split <;> exact ⟨rfl, rfl, rfl⟩
  | removeLogSink =>
      obtain rfl := Outcome.ok.inj performed
      split <;> exact ⟨rfl, rfl, rfl⟩
  | _ =>
      obtain rfl := Outcome.ok.inj performed
      exact ⟨rfl, rfl, rfl⟩

/-- A request adds one artifact, with the next number, or none. -/
theorem perform_stream (settings : Settings) (process next : Process) (origin : Origin)
    (now : Pb.Timestamp) (request : Request)
    (performed : process.perform settings origin now request = .ok next) :
    (next.stream = process.stream ∧ next.sequenceNumber = process.sequenceNumber) ∨
    ∃ artifact, request = .write artifact ∧
      next.stream = process.stream ++ [(origin, ⟨artifact, process.sequenceNumber.count, now⟩)] ∧
      next.sequenceNumber.count = process.sequenceNumber.count + 1 := by
  cases request with
  | write artifact =>
      obtain ⟨_, rfl⟩ := (write_eq_ok _ _ _ _ _).mp performed
      exact Or.inr ⟨artifact, rfl, rfl, rfl⟩
  | notify event =>
      obtain ⟨calculator, _, rfl⟩ := perform_notify performed
      exact Or.inl ⟨rfl, rfl⟩
  | registerDutInfo dutInfo =>
      obtain ⟨calculator, _, rfl⟩ := perform_registerDutInfo performed
      exact Or.inl ⟨rfl, rfl⟩
  | finalize =>
      obtain ⟨calculator, _, rfl⟩ := perform_finalize performed
      exact Or.inl ⟨rfl, rfl⟩
  | _ =>
      obtain ⟨stream, sequenceNumber, _⟩ := perform_quiet _ _ _ _ _ _ rfl performed
      exact Or.inl ⟨stream, sequenceNumber⟩

/-- What a request makes of the registration of the log sink. -/
def registers (settings : Settings) (registered : Bool) : Request → Bool
  | .addLogSink => registered || settings.logToResults
  | .removeLogSink => registered && !settings.logToResults
  | _ => registered

theorem perform_logSink (settings : Settings) (process next : Process) (origin : Origin)
    (now : Pb.Timestamp) (request : Request)
    (performed : process.perform settings origin now request = .ok next) :
    next.logSinkRegistered = registers settings process.logSinkRegistered request := by
  cases request with
  | write artifact =>
      obtain ⟨_, rfl⟩ := (write_eq_ok _ _ _ _ _).mp performed
      rfl
  | notify event =>
      obtain ⟨calculator, _, rfl⟩ := perform_notify performed
      rfl
  | registerDutInfo dutInfo =>
      obtain ⟨calculator, _, rfl⟩ := perform_registerDutInfo performed
      rfl
  | finalize =>
      obtain ⟨calculator, _, rfl⟩ := perform_finalize performed
      rfl
  | checkAndSetInitializationGuard =>
      obtain ⟨_, rfl⟩ := perform_checkAndSetInitializationGuard performed
      rfl
  | addLogSink =>
      obtain rfl := Outcome.ok.inj performed
      cases flag : settings.logToResults <;> simp [registers, flag]
  | removeLogSink =>
      obtain rfl := Outcome.ok.inj performed
      cases flag : settings.logToResults <;> simp [registers, flag]
  | _ =>
      obtain rfl := Outcome.ok.inj performed
      rfl

theorem deliver_spec (process next : Process) (severity : AbslSeverity) (message : String)
    (now : Pb.Timestamp) (delivered : process.deliver severity message now = .ok next) :
    next = process ∨
      (process.logSinkRegistered = true ∧
        process.write .sink (logSinkArtifact severity message) now = .ok next) := by
  unfold deliver at delivered
  split at delivered
  · rename_i registered
    exact Or.inr ⟨registered, delivered⟩
  · exact Or.inl (Outcome.ok.inj delivered).symm

/-- A selection of artifacts that takes none but those of steps and their series. -/
def OfSteps {α : Type} (select : Pb.OutputVariant → Option α) : Prop :=
  ∀ artifact, (∀ proto, artifact ≠ .testStepArtifact proto) → select artifact = none

section Selected

variable {settings : Settings} {process next : Process} {origin : Origin} {now : Pb.Timestamp}
  {request : Request} {α : Type} (select : Pb.OutputVariant → Option α)

theorem selected_perform (performed : process.perform settings origin now request = .ok next) :
    next.artifacts.filterMap select =
      process.artifacts.filterMap select ++ request.written.filterMap select := by
  rw [(perform_spec _ _ _ _ _ _ performed).2, List.filterMap_append]

theorem selected_deliver {severity : AbslSeverity} {message : String} (ofSteps : OfSteps select)
    (delivered : process.deliver severity message now = .ok next) :
    next.artifacts.filterMap select = process.artifacts.filterMap select := by
  rcases deliver_spec _ _ _ _ _ delivered with rfl | ⟨_, wrote⟩
  · rfl
  · have ignored : select (logSinkArtifact severity message) = none := ofSteps _ (by rintro _ ⟨⟩)
    rw [(write_spec _ _ _ _ _ wrote).2.1, List.filterMap_append,
      List.filterMap_cons_none ignored, List.filterMap_nil, List.append_nil]

/-- The run writes nothing of a step. -/
theorem selected_run {protobuf : Protobuf} {run after : TestRun} {thread : ThreadId}
    {calculator : TestResultCalculator} {dutInfos : DutRef → DutInfo} {frame : TestRun.Frame}
    {rest : Continue TestRun.Frame} (ofSteps : OfSteps select)
    (advances : run.Advances protobuf thread calculator dutInfos frame after request rest) :
    request.written.filterMap select = [] := by
  have ofRun : ∀ artifact ∈ request.written, ∀ proto, artifact ≠ .testStepArtifact proto := by
    cases advances with
    | emitStart artifact built =>
        obtain ⟨start, rfl, _⟩ := TestRun.startArtifact_eq_ok _ _ _ _ built
        simp [Request.written]
    | emitMissingStart artifact built =>
        obtain ⟨start, rfl, _⟩ := TestRun.startArtifact_eq_ok _ _ _ _ built
        simp [Request.written]
    | _ => simp [Request.written, TestRun.schemaVersion]
  exact List.filterMap_eq_nil_iff.mpr fun artifact member => ofSteps _ (ofRun artifact member)

end Selected

section

variable (settings : Settings) (thread : ThreadId) (now : Pb.Timestamp) (process : Process)

/-- What a DutInfo call does to the DutInfo, and what it returns to the test. -/
inductive DutInfoCall (ref : DutRef) : Call → DutInfo →
    List (DutRef × HardwareInfo × RegisteredHardwareInfo) →
    List (DutRef × SoftwareInfo × RegisteredSoftwareInfo) → Prop
  | addHardwareInfo (hardwareInfo : HardwareInfo) (reference : RegisteredHardwareInfo)
      (dutInfo : DutInfo) :
      (process.dutInfos ref).addHardwareInfo hardwareInfo = .ok (reference, dutInfo) →
      DutInfoCall ref (.addHardwareInfo ref hardwareInfo) dutInfo
        [(ref, hardwareInfo, reference)] []
  | addSoftwareInfo (softwareInfo : SoftwareInfo) (reference : RegisteredSoftwareInfo)
      (dutInfo : DutInfo) :
      (process.dutInfos ref).addSoftwareInfo softwareInfo = .ok (reference, dutInfo) →
      DutInfoCall ref (.addSoftwareInfo ref softwareInfo) dutInfo []
        [(ref, softwareInfo, reference)]
  | addPlatformInfo (platformInfo : PlatformInfo) (dutInfo : DutInfo) :
      (process.dutInfos ref).addPlatformInfo platformInfo = .ok dutInfo →
      DutInfoCall ref (.addPlatformInfo ref platformInfo) dutInfo [] []
  | setMetadataJson (json : String) :
      DutInfoCall ref (.setMetadataJson ref json) ((process.dutInfos ref).setMetadataJson json)
        [] []

/-- The ways in which a call can begin. -/
inductive Begins : Call → Process → Frame → Prop
  | newTestRun : process.run.lifetime = .unborn →
      Begins .newTestRun
        { process with run := { process.run with lifetime := .constructing thread } }
        (.run .checkAndSetInitializationGuard)
  | onRun (call : Call) (frame : TestRun.Frame) : call.runFrame = some frame →
      process.run.lifetime = .live → Begins call process (.run frame)
  | startAndRegisterDutInfo (dutInfo : DutRef) : process.run.lifetime = .live →
      process.dutOwner dutInfo = .caller →
      Begins (.startAndRegisterDutInfo (some dutInfo))
        (process.setDutOwner dutInfo (.passed thread))
        (.run (.startAndRegisterDutInfo (some dutInfo)))
  | getNextStepId :
      Begins .getNextStepId
        { process with run := { process.run with stepId := ⟨process.run.stepId.count + 1⟩ } } .idle
  | getNextMeasurementSeriesId :
      Begins .getNextMeasurementSeriesId { process with
        run := { process.run with
          measurementSeriesId := ⟨process.run.measurementSeriesId.count + 1⟩ } } .idle
  | deleteTestRun : process.run.lifetime = .live →
      Begins .deleteTestRun
        { process with run := { process.run with lifetime := .destroying thread } }
        (.run .lockEnd)
  | newTestStep (name : String) : process.run.lifetime = .live →
      Begins (.newTestStep name)
        ({ process with
          run := { process.run with stepId := ⟨process.run.stepId.count + 1⟩ } }.setStep
            process.run.stepId.count { name, lifetime := .constructing thread })
        (.step process.run.stepId.count .checkStarted)
  | onStep (call : Call) (ref : StepRef) (frame : TestStep.Frame) :
      call.stepFrame settings = some (ref, .ok frame) → (process.steps ref).lifetime = .live →
      Begins call process (.step ref frame)
  | deleteTestStep (ref : StepRef) : (process.steps ref).lifetime = .live →
      Begins (.deleteTestStep ref)
        (process.setStep ref { process.steps ref with lifetime := .destroying thread })
        (.step ref (.lockEnd true))
  | newMeasurementSeries (testStep : StepRef) (start : MeasurementSeriesStart) :
      (process.steps testStep).lifetime = .live →
      Begins (.newMeasurementSeries testStep start)
        ({ process with run := { process.run with
          measurementSeriesId := ⟨process.run.measurementSeriesId.count + 1⟩ } }.setSeries
            process.run.measurementSeriesId.count { testStep, lifetime := .constructing thread })
        (.series process.run.measurementSeriesId.count (.checkStep start))
  | onSeries (call : Call) (ref : SeriesRef) (frame : MeasurementSeries.Frame) :
      call.seriesFrame now = some (ref, frame) → (process.series ref).lifetime = .live →
      Begins call process (.series ref frame)
  | deleteMeasurementSeries (ref : SeriesRef) : (process.series ref).lifetime = .live →
      Begins (.deleteMeasurementSeries ref)
        (process.setSeries ref { process.series ref with lifetime := .destroying thread })
        (.series ref (.lockEnd true))
  | newDutInfo (name id : String) : process.singletonInitialized = false →
      Begins (.newDutInfo name id)
        (({ process with
          dutCount := process.dutCount + 1
          singletonInitialized := true }.setDutInfo process.dutCount { name, id }).setDutOwner
            process.dutCount .caller) .idle
  | onDutInfo (call : Call) (ref : DutRef) (dutInfo : DutInfo)
      (hardware : List (DutRef × HardwareInfo × RegisteredHardwareInfo))
      (software : List (DutRef × SoftwareInfo × RegisteredSoftwareInfo)) :
      process.dutOwner ref = .caller → DutInfoCall process ref call dutInfo hardware software →
      Begins call ({ process with
        hardwareReturned := process.hardwareReturned ++ hardware
        softwareReturned := process.softwareReturned ++ software }.setDutInfo ref dutInfo) .idle
  | deleteDutInfo (ref : DutRef) : process.dutOwner ref = .caller →
      Begins (.deleteDutInfo ref)
        ({ process with singletonInitialized := false }.setDutOwner ref .nobody) .idle
  | dies (call : Call) (message : String) : Begins call process (.dying message)

theorem onRun_eq_some (frame : TestRun.Frame) (result : Process × Frame)
    (begun : process.onRun frame = some result) :
    process.run.lifetime = .live ∧ result = (process, .run frame) := by
  simp only [onRun, Option.ite_none_right_eq_some, Option.some.injEq] at begun
  exact ⟨begun.1, begun.2.symm⟩

theorem begins_onStep (call : Call) (ref : StepRef) (outcome : Outcome TestStep.Frame)
    (next : Process) (frame : Frame) (entry : call.stepFrame settings = some (ref, outcome))
    (begun : process.onStep ref outcome = some (next, frame)) :
    Begins settings thread now process call next frame := by
  simp only [onStep, Option.ite_none_right_eq_some] at begun
  obtain ⟨live, begun⟩ := begun
  cases outcome with
  | ok entered =>
      cases begun
      exact .onStep call ref entered entry live
  | die message =>
      cases begun
      exact .dies call message
  | undefined => cases begun

theorem begins_onSeries (call : Call) (ref : SeriesRef) (entered : MeasurementSeries.Frame)
    (next : Process) (frame : Frame) (entry : call.seriesFrame now = some (ref, entered))
    (begun : process.onSeries ref entered = some (next, frame)) :
    Begins settings thread now process call next frame := by
  simp only [onSeries, Option.ite_none_right_eq_some] at begun
  obtain ⟨live, begun⟩ := begun
  cases begun
  exact .onSeries call ref entered entry live

theorem begins_onDutInfo {α : Type} (call : Call) (ref : DutRef) (outcome : Outcome α)
    (update : α → Process) (next : Process) (frame : Frame)
    (begun : process.onDutInfo ref outcome update = some (next, frame))
    (done : ∀ value, outcome = .ok value → process.dutOwner ref = .caller →
      Begins settings thread now process call (update value) .idle) :
    Begins settings thread now process call next frame := by
  simp only [onDutInfo, Option.ite_none_right_eq_some] at begun
  obtain ⟨owned, begun⟩ := begun
  cases outcome with
  | ok value =>
      cases begun
      exact done value rfl owned
  | die message =>
      cases begun
      exact .dies call message
  | undefined => cases begun

theorem construct_eq_ok (singletonInitialized : Bool) (name id : String) (dutInfo : DutInfo)
    (built : DutInfo.construct singletonInitialized name id = .ok dutInfo) :
    singletonInitialized = false ∧ dutInfo = { name, id } := by
  simp only [DutInfo.construct, Outcome.bind_eq_ok, check_eq_ok, Outcome.pure_eq_ok,
    Outcome.ok.injEq] at built
  obtain ⟨_, _, _, _, _, free, rfl⟩ := built
  exact ⟨by simpa using free, rfl⟩

theorem begins_of_begin (call : Call) (next : Process) (frame : Frame)
    (begun : process.begin settings thread now call = some (next, frame)) :
    Begins settings thread now process call next frame := by
  cases call with
  | newTestRun =>
      simp only [begin, Option.ite_none_right_eq_some] at begun
      obtain ⟨unborn, begun⟩ := begun
      cases begun
      exact .newTestRun unborn
  | addPreStartError error =>
      obtain ⟨live, same⟩ := onRun_eq_some _ _ _ begun
      cases same
      exact .onRun _ _ rfl live
  | addPreStartLog log =>
      obtain ⟨live, same⟩ := onRun_eq_some _ _ _ begun
      cases same
      exact .onRun _ _ rfl live
  | startAndRegisterDutInfo dutInfo =>
      cases dutInfo with
      | none =>
          obtain ⟨live, same⟩ := onRun_eq_some _ _ _ begun
          cases same
          exact .onRun _ _ rfl live
      | some dutInfo =>
          simp only [begin, Option.ite_none_right_eq_some] at begun
          obtain ⟨owned, begun⟩ := begun
          obtain ⟨live, same⟩ := onRun_eq_some _ _ _ begun
          cases same
          exact .startAndRegisterDutInfo dutInfo live owned
  | skipTestRun =>
      obtain ⟨live, same⟩ := onRun_eq_some _ _ _ begun
      cases same
      exact .onRun _ _ rfl live
  | getNextStepId =>
      simp only [begin, Option.ite_none_right_eq_some] at begun
      obtain ⟨_, begun⟩ := begun
      split at begun
      · rename_i drawn
        obtain ⟨_, _, rfl⟩ := (IntIncrementer.next_eq_ok _ _ _).mp drawn
        cases begun
        exact .getNextStepId
      · cases begun
  | getNextMeasurementSeriesId =>
      simp only [begin, Option.ite_none_right_eq_some] at begun
      obtain ⟨_, begun⟩ := begun
      split at begun
      · rename_i drawn
        obtain ⟨_, _, rfl⟩ := (IntIncrementer.next_eq_ok _ _ _).mp drawn
        cases begun
        exact .getNextMeasurementSeriesId
      · cases begun
  | deleteTestRun =>
      simp only [begin, Option.ite_none_right_eq_some] at begun
      obtain ⟨live, begun⟩ := begun
      cases begun
      exact .deleteTestRun live
  | newTestStep name =>
      simp only [begin, Option.ite_none_right_eq_some] at begun
      obtain ⟨live, begun⟩ := begun
      split at begun
      · rename_i drawn
        obtain ⟨_, rfl, rfl⟩ := (IntIncrementer.next_eq_ok _ _ _).mp drawn
        cases begun
        exact .newTestStep name live
      · cases begun
  | deleteTestStep ref =>
      simp only [begin, Option.ite_none_right_eq_some] at begun
      obtain ⟨live, begun⟩ := begun
      cases begun
      exact .deleteTestStep ref live
  | newMeasurementSeries testStep start =>
      simp only [begin, Option.ite_none_right_eq_some] at begun
      obtain ⟨⟨live, _⟩, begun⟩ := begun
      split at begun
      · rename_i drawn
        obtain ⟨_, rfl, rfl⟩ := (IntIncrementer.next_eq_ok _ _ _).mp drawn
        cases begun
        exact .newMeasurementSeries testStep start live
      · cases begun
  | addElement ref element => exact begins_onSeries _ _ _ _ _ ref _ _ _ rfl begun
  | endMeasurementSeries ref => exact begins_onSeries _ _ _ _ _ ref _ _ _ rfl begun
  | deleteMeasurementSeries ref =>
      simp only [begin, Option.ite_none_right_eq_some] at begun
      obtain ⟨live, begun⟩ := begun
      cases begun
      exact .deleteMeasurementSeries ref live
  | newDutInfo name id =>
      simp only [begin] at begun
      split at begun
      · rename_i dutInfo built
        obtain ⟨free, rfl⟩ := construct_eq_ok _ _ _ _ built
        cases begun
        exact .newDutInfo name id free
      · cases begun
        exact .dies _ _
      · cases begun
  | addHardwareInfo ref hardwareInfo =>
      refine begins_onDutInfo _ _ _ _ _ ref _ _ _ _ begun fun ⟨reference, dutInfo⟩ added owned => ?_
      simpa using Begins.onDutInfo _ ref _ _ _ owned (.addHardwareInfo _ _ _ added)
  | addSoftwareInfo ref softwareInfo =>
      refine begins_onDutInfo _ _ _ _ _ ref _ _ _ _ begun fun ⟨reference, dutInfo⟩ added owned => ?_
      simpa using Begins.onDutInfo _ ref _ _ _ owned (.addSoftwareInfo _ _ _ added)
  | addPlatformInfo ref platformInfo =>
      refine begins_onDutInfo _ _ _ _ _ ref _ _ _ _ begun fun dutInfo added owned => ?_
      simpa using Begins.onDutInfo _ ref _ _ _ owned (.addPlatformInfo _ _ added)
  | setMetadataJson ref json =>
      refine begins_onDutInfo _ _ _ _ _ ref (.ok ((process.dutInfos ref).setMetadataJson json))
        (fun dutInfo => process.setDutInfo ref dutInfo) _ _ begun fun dutInfo set owned => ?_
      obtain rfl := Outcome.ok.inj set
      simpa using Begins.onDutInfo _ ref _ _ _ owned (.setMetadataJson json)
  | deleteDutInfo ref =>
      refine begins_onDutInfo _ _ _ _ _ ref (.ok ()) (fun _ : Unit =>
        setDutOwner { process with singletonInitialized := false } ref .nobody) _ _ begun ?_
      exact fun _ _ owned => .deleteDutInfo ref owned
  | logFatal message =>
      cases begun
      exact .dies _ message
  | addMeasurement ref measurement => exact begins_onStep _ _ _ _ _ ref _ _ _ rfl begun
  | addDiagnosis ref diagnosis => exact begins_onStep _ _ _ _ _ ref _ _ _ rfl begun
  | addError ref error => exact begins_onStep _ _ _ _ _ ref _ _ _ rfl begun
  | addFile ref file => exact begins_onStep _ _ _ _ _ ref _ _ _ rfl begun
  | addLog ref log => exact begins_onStep _ _ _ _ _ ref _ _ _ rfl begun
  | addExtension ref extension => exact begins_onStep _ _ _ _ _ ref _ _ _ rfl begun
  | skipTestStep ref => exact begins_onStep _ _ _ _ _ ref _ _ _ rfl begun
  | endTestStep ref => exact begins_onStep _ _ _ _ _ ref _ _ _ rfl begun

/-- What the beginning of a call leaves alone: it writes nothing and reports nothing. -/
structure SameRecord (process next : Process) : Prop where
  stream : next.stream = process.stream
  sequenceNumber : next.sequenceNumber = process.sequenceNumber
  calculator : next.calculator = process.calculator
  logSinkRegistered : next.logSinkRegistered = process.logSinkRegistered
  mutex : next.run.mutex = process.run.mutex
  started : next.run.started = process.run.started
  dutInfo : next.run.dutInfo = process.run.dutInfo
  testRunStart : next.run.testRunStart = process.run.testRunStart

theorem begins_sameRecord (call : Call) (next : Process) (frame : Frame)
    (begins : Begins settings thread now process call next frame) : SameRecord process next := by
  cases begins <;> exact ⟨rfl, rfl, rfl, rfl, rfl, rfl, rfl, rfl⟩

/-- The ways in which a thread can take a step. -/
inductive Moves (label : Label) : Frame → Process → Frame → Prop
  | log (frame : Frame) (severity : AbslSeverity) (message : String) (next : Process) :
      process.deliver severity message label.now = .ok next → Moves label frame next frame
  | call (call : Call) (next : Process) (frame : Frame) : label.action = .call call →
      Begins settings thread label.now process call next frame → Moves label .idle next frame
  | run (frame : TestRun.Frame) (run : TestRun) (request : Request)
      (rest : Continue TestRun.Frame) (next : Process) : label.action = .advance →
      process.run.lifetime ≠ .destroyed →
      process.run.Advances settings.protobuf thread process.calculator process.dutInfos frame run
        request rest →
      process.perform settings .run label.now request = .ok next →
      Moves label (.run frame) { next with run } (rest.toFrame .run)
  | step (ref : StepRef) (frame : TestStep.Frame) (step : TestStep) (request : Request)
      (rest : Continue TestStep.Frame) (next : Process) : label.action = .advance →
      (process.steps ref).lifetime ≠ .destroyed →
      (process.steps ref).Advances ref thread process.run.mutex process.run.started frame step
        request rest →
      process.perform settings .step label.now request = .ok next →
      Moves label (.step ref frame) (next.setStep ref step) (rest.toFrame (.step ref))
  | series (ref : SeriesRef) (frame : MeasurementSeries.Frame) (series : MeasurementSeries)
      (request : Request) (rest : Continue MeasurementSeries.Frame) (next : Process) :
      label.action = .advance →
      (process.steps (process.series ref).testStep).lifetime ≠ .destroyed →
      (process.series ref).lifetime ≠ .destroyed →
      (process.series ref).Advances settings.protobuf ref thread
        (process.steps (process.series ref).testStep).mutex
        (process.steps (process.series ref).testStep).ended frame series request rest →
      process.perform settings .series label.now request = .ok next →
      Moves label (.series ref frame) (next.setSeries ref series) (rest.toFrame (.series ref))
  | runDies (frame : TestRun.Frame) (message : String) :
      Moves label (.run frame) process (.dying message)
  | stepDies (ref : StepRef) (frame : TestStep.Frame) (message : String) :
      Moves label (.step ref frame) process (.dying message)
  | dying (message : String) (next : Process) :
      process.deliver .fatal message label.now = .ok next →
      Moves label (.dying message) next .aborting
  | aborting : Moves label .aborting { process with aborted := true } .aborting

theorem complete_eq_some (origin : Origin) (request : Request) (update : Process → Process)
    (frame : Frame) (result : Process × Frame)
    (completed : process.complete settings origin now request update frame = some result) :
    (∃ next, process.perform settings origin now request = .ok next ∧
      result = (update next, frame)) ∨
    (∃ message, process.perform settings origin now request = .die message ∧
      result = (process, .dying message)) := by
  unfold complete at completed
  split at completed
  · rename_i next performed
    exact Or.inl ⟨next, performed, (Option.some.inj completed).symm⟩
  · rename_i message dies
    exact Or.inr ⟨message, dies, (Option.some.inj completed).symm⟩
  · cases completed

theorem moves_of_exec (label : Label) (frame after : Frame) (next : Process)
    (taken : exec settings label thread process frame = some (next, after)) :
    Moves settings thread process label frame next after := by
  simp only [exec, Option.ite_none_left_eq_some, Bool.or_eq_true, Bool.not_eq_true',
    not_or, Bool.not_eq_false] at taken
  obtain ⟨⟨_, usable⟩, taken⟩ := taken
  split at taken
  · rename_i call action
    split at taken
    · exact .call call next after action (begins_of_begin _ _ _ _ _ _ _ taken)
    · cases taken
  · rename_i action
    cases frame with
    | idle => cases taken
    | run frame =>
        simp only [advance, Option.bind_eq_some_iff, Prod.exists] at taken
        obtain ⟨run, request, rest, advanced, completed⟩ := taken
        have advances := TestRun.advances_of_advance _ _ _ _ _ _ _ _ _ advanced
        rcases complete_eq_some _ _ _ _ _ _ _ _ completed with
          ⟨next, performed, same⟩ | ⟨message, _, same⟩
        · cases same
          exact .run frame run request rest next action (by simpa [Process.usable] using usable)
            advances performed
        · cases same
          exact .runDies frame message
    | step ref frame =>
        simp only [advance, Option.bind_eq_some_iff, Prod.exists] at taken
        obtain ⟨step, request, rest, advanced, completed⟩ := taken
        have advances := TestStep.advances_of_advance _ _ _ _ _ _ _ _ _ advanced
        simp only [Process.usable, Bool.and_eq_true, bne_iff_ne] at usable
        rcases complete_eq_some _ _ _ _ _ _ _ _ completed with
          ⟨next, performed, same⟩ | ⟨message, _, same⟩
        · cases same
          exact .step ref frame step request rest next action usable.2 advances performed
        · cases same
          exact .stepDies ref frame message
    | series ref frame =>
        simp only [advance, Option.bind_eq_some_iff, Prod.exists] at taken
        obtain ⟨series, request, rest, advanced, completed⟩ := taken
        have advances := MeasurementSeries.advances_of_advance _ _ _ _ _ _ _ _ _ _ advanced
        simp only [Process.usable, Bool.and_eq_true, bne_iff_ne] at usable
        rcases complete_eq_some _ _ _ _ _ _ _ _ completed with
          ⟨next, performed, same⟩ | ⟨message, dies, _⟩
        · cases same
          exact .series ref frame series request rest next action usable.1.2 usable.2 advances
            performed
        · -- a series asks for nothing but writes
          cases advances <;> first | cases dies | exact absurd dies (write_ne_die _ _ _ _ _)
    | dying message =>
        simp only [advance, Option.map_eq_some_iff, Outcome.toOption_eq_some] at taken
        obtain ⟨next, delivered, same⟩ := taken
        cases same
        exact .dying message next delivered
    | aborting =>
        cases taken
        exact .aborting
  · rename_i severity message action
    simp only [Option.ite_none_left_eq_some, Option.map_eq_some_iff,
      Outcome.toOption_eq_some] at taken
    obtain ⟨_, next, delivered, same⟩ := taken
    cases same
    exact .log frame severity message next delivered

/-- What a step of a thread at a frame can write. -/
inductive Writes : Frame → Process → Origin → Pb.OutputVariant → Prop
  | sink (frame : Frame) (next : Process) (severity : AbslSeverity) (message : String) :
      process.logSinkRegistered = true → Writes frame next .sink (logSinkArtifact severity message)
  | run (frame : TestRun.Frame) (next : Process) (artifact : Pb.OutputVariant)
      (rest : Continue TestRun.Frame) : process.run.lifetime ≠ .destroyed →
      process.run.Advances settings.protobuf thread process.calculator process.dutInfos frame
        next.run (.write artifact) rest → Writes (.run frame) next .run artifact
  | step (ref : StepRef) (frame : TestStep.Frame) (next : Process) (artifact : Pb.OutputVariant)
      (rest : Continue TestStep.Frame) :
      (process.steps ref).Advances ref thread process.run.mutex process.run.started frame
        (next.steps ref) (.write artifact) rest → Writes (.step ref frame) next .step artifact
  | series (ref : SeriesRef) (frame : MeasurementSeries.Frame) (next : Process)
      (artifact : Pb.OutputVariant) (rest : Continue MeasurementSeries.Frame) :
      (process.series ref).Advances settings.protobuf ref thread
        (process.steps (process.series ref).testStep).mutex
        (process.steps (process.series ref).testStep).ended frame (next.series ref)
        (.write artifact) rest → Writes (.series ref frame) next .series artifact

/-- A step adds one artifact that its frame can write, with the next number, or none. -/
theorem moves_stream (label : Label) (frame after : Frame) (next : Process)
    (moves : Moves settings thread process label frame next after) :
    (next.stream = process.stream ∧ next.sequenceNumber = process.sequenceNumber) ∨
    ∃ origin artifact, Writes settings thread process frame next origin artifact ∧
      next.stream = process.stream ++
        [(origin, ⟨artifact, process.sequenceNumber.count, label.now⟩)] ∧
      next.sequenceNumber.count = process.sequenceNumber.count + 1 := by
  have delivers : ∀ (frame : Frame) (severity : AbslSeverity) (message : String) (next : Process),
      process.deliver severity message label.now = .ok next →
      (next.stream = process.stream ∧ next.sequenceNumber = process.sequenceNumber) ∨
      ∃ origin artifact, Writes settings thread process frame next origin artifact ∧
        next.stream = process.stream ++
          [(origin, ⟨artifact, process.sequenceNumber.count, label.now⟩)] ∧
        next.sequenceNumber.count = process.sequenceNumber.count + 1 := by
    intro frame severity message next delivered
    rcases deliver_spec _ _ _ _ _ delivered with rfl | ⟨registered, wrote⟩
    · exact Or.inl ⟨rfl, rfl⟩
    · obtain ⟨_, rfl⟩ := (write_eq_ok _ _ _ _ _).mp wrote
      exact Or.inr ⟨.sink, _, .sink frame _ severity message registered, rfl, rfl⟩
  cases moves with
  | log _ severity message _ delivered => exact delivers _ _ _ _ delivered
  | call call _ _ _ begins =>
      have same := begins_sameRecord _ _ _ _ _ _ _ begins
      exact Or.inl ⟨same.stream, same.sequenceNumber⟩
  | run frame run request rest performed _ alive advances perform =>
      rcases perform_stream _ _ _ _ _ _ perform with same | ⟨artifact, rfl, stream, number⟩
      · exact Or.inl same
      · exact Or.inr ⟨.run, artifact, .run frame _ artifact rest alive advances, stream, number⟩
  | step ref frame step request rest performed _ _ advances perform =>
      rcases perform_stream _ _ _ _ _ _ perform with same | ⟨artifact, rfl, stream, number⟩
      · exact Or.inl same
      · refine Or.inr ⟨.step, artifact, .step ref frame _ artifact rest ?_, stream, number⟩
        simpa only [setStep, Function.update_self] using advances
  | series ref frame series request rest performed _ _ _ advances perform =>
      rcases perform_stream _ _ _ _ _ _ perform with same | ⟨artifact, rfl, stream, number⟩
      · exact Or.inl same
      · refine Or.inr ⟨.series, artifact, .series ref frame _ artifact rest ?_, stream, number⟩
        simpa only [setSeries, Function.update_self] using advances
  | dying message _ delivered => exact delivers _ _ _ _ delivered
  | _ => exact Or.inl ⟨rfl, rfl⟩

end

end Process

end OcpDiag.Results
