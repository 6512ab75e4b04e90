import OcpDiag.Results.ArtifactWriter
import OcpDiag.Results.MeasurementSeries
import OcpDiag.Results.TestRun
import OcpDiag.Results.TestStep

set_option autoImplicit false

/- A program that uses the library: one TestRun with its writer and calculator, the steps,
series and DutInfos, and any number of threads that call them or log through Abseil. -/
namespace OcpDiag.Results

open ThreadPool

/-- The flag `ocpdiag_log_to_results`, and protobuf. -/
structure Settings where
  protobuf : Protobuf
  logToResults : Bool

/-- The object that has written an artifact. No step of the program depends on it. -/
inductive Origin where
  | run | step | series | sink
  deriving DecidableEq, Repr

/-- Who holds the pointer to a DutInfo: nobody before its constructor and after its destructor,
the test, a call of StartAndRegisterDutInfo(), or the run. -/
inductive DutOwner where
  | nobody
  | caller
  | passed (thread : ThreadId)
  | run
  deriving DecidableEq, Repr

/-- absl::LogSeverity. -/
inductive AbslSeverity where
  | info | warning | error | fatal
  deriving DecidableEq, Repr

/-- What LogSink::Send() makes of a log entry. -/
def logSinkArtifact (severity : AbslSeverity) (message : String) : Pb.OutputVariant :=
  .testRunArtifact (.log {
    message
    severity := match severity with
      | .info => .INFO
      | .warning => .WARNING
      | .error => .ERROR
      | .fatal => .FATAL })

/-- `hardwareReturned` and `softwareReturned` are the references that the test has got from its
DutInfos, with what it got them for. -/
structure Process where
  stream : List (Origin × Pb.OutputArtifact) := []
  sequenceNumber : IntIncrementer := {}
  calculator : TestResultCalculator := {}
  run : TestRun
  steps : StepRef → TestStep := fun _ => {}
  series : SeriesRef → MeasurementSeries := fun _ => {}
  dutInfos : DutRef → DutInfo := fun _ => { name := "", id := "" }
  dutOwner : DutRef → DutOwner := fun _ => .nobody
  dutCount : Nat := 0
  singletonInitialized : Bool := false
  initialized : Bool := false
  logSinkRegistered : Bool := false
  aborted : Bool := false
  hardwareReturned : List (DutRef × HardwareInfo × RegisteredHardwareInfo) := []
  softwareReturned : List (DutRef × SoftwareInfo × RegisteredSoftwareInfo) := []

/-- Where a thread is. A failed CHECK and LOG(FATAL) hand their message to the log sink and
then end the process. -/
inductive Frame where
  | idle
  | run (frame : TestRun.Frame)
  | step (ref : StepRef) (frame : TestStep.Frame)
  | series (ref : SeriesRef) (frame : MeasurementSeries.Frame)
  | dying (message : String)
  | aborting

def Continue.toFrame {φ : Type} (wrap : φ → Frame) : Continue φ → Frame
  | .next frame => wrap frame
  | .done => .idle
  | .die message => .dying message

/-- What a test can call, and LOG(FATAL) anywhere in it. -/
inductive Call where
  | newTestRun
  | addPreStartError (error : Error)
  | addPreStartLog (log : Log)
  | startAndRegisterDutInfo (dutInfo : Option DutRef)
  | skipTestRun
  | getNextStepId
  | getNextMeasurementSeriesId
  | deleteTestRun
  | newTestStep (name : String)
  | addMeasurement (step : StepRef) (measurement : Measurement)
  | addDiagnosis (step : StepRef) (diagnosis : Diagnosis)
  | addError (step : StepRef) (error : Error)
  | addFile (step : StepRef) (file : File)
  | addLog (step : StepRef) (log : Log)
  | addExtension (step : StepRef) (extension : Extension)
  | skipTestStep (step : StepRef)
  | endTestStep (step : StepRef)
  | deleteTestStep (step : StepRef)
  | newMeasurementSeries (step : StepRef) (start : MeasurementSeriesStart)
  | addElement (series : SeriesRef) (element : MeasurementSeriesElement)
  | endMeasurementSeries (series : SeriesRef)
  | deleteMeasurementSeries (series : SeriesRef)
  | newDutInfo (name id : String)
  | addHardwareInfo (dutInfo : DutRef) (hardwareInfo : HardwareInfo)
  | addSoftwareInfo (dutInfo : DutRef) (softwareInfo : SoftwareInfo)
  | addPlatformInfo (dutInfo : DutRef) (platformInfo : PlatformInfo)
  | setMetadataJson (dutInfo : DutRef) (json : String)
  | deleteDutInfo (dutInfo : DutRef)
  | logFatal (message : String)

inductive Action where
  | call (call : Call)
  | advance
  | log (severity : AbslSeverity) (message : String)

/-- What a thread does next, and what the clock shows. -/
structure Label where
  action : Action
  now : Pb.Timestamp := {}

namespace Process

/-- The writer's log, without the origins. -/
def log (process : Process) : ArtifactLog where
  written := process.stream.map (·.2)
  sequenceNumber := process.sequenceNumber

/-- The contents of the artifacts in the stream. -/
def artifacts (process : Process) : List Pb.OutputVariant := process.stream.map (·.2.artifact)

def write (process : Process) (origin : Origin) (artifact : Pb.OutputVariant)
    (now : Pb.Timestamp) : Outcome Process := do
  let (number, sequenceNumber) ← process.sequenceNumber.next
  return { process with
    stream := process.stream ++ [(origin, ⟨artifact, number, now⟩)]
    sequenceNumber }

def setStep (process : Process) (ref : StepRef) (step : TestStep) : Process :=
  { process with steps := Function.update process.steps ref step }

def setSeries (process : Process) (ref : SeriesRef) (series : MeasurementSeries) : Process :=
  { process with series := Function.update process.series ref series }

def setDutInfo (process : Process) (ref : DutRef) (dutInfo : DutInfo) : Process :=
  { process with dutInfos := Function.update process.dutInfos ref dutInfo }

def setDutOwner (process : Process) (ref : DutRef) (owner : DutOwner) : Process :=
  { process with dutOwner := Function.update process.dutOwner ref owner }

def perform (settings : Settings) (process : Process) (origin : Origin) (now : Pb.Timestamp) :
    Request → Outcome Process
  | .none => .ok process
  | .write artifact => process.write origin artifact now
  | .notify event => do
      let calculator ← process.calculator.notify event
      return { process with calculator }
  | .registerDutInfo dutInfo => do
      let calculator ← process.calculator.notifyStartRun
      return { process with calculator }.setDutOwner dutInfo .run
  | .finalize => do
      let calculator ← process.calculator.finalize
      return { process with calculator }
  | .checkAndSetInitializationGuard => do
      check (!process.initialized) "!initialized"
        "Only one TestRun object can be active at a time within a program"
      return { process with initialized := true }
  | .unsetInitializationGuard => .ok { process with initialized := false }
  | .addLogSink =>
      .ok (if settings.logToResults then { process with logSinkRegistered := true } else process)
  | .removeLogSink =>
      .ok (if settings.logToResults then { process with logSinkRegistered := false } else process)
  | .destroyDutInfo dutInfo =>
      .ok ({ process with singletonInitialized := false }.setDutOwner dutInfo .nobody)

/-- A request that dies leaves the process as it was, with the mutexes that are held. -/
def complete (settings : Settings) (process : Process) (origin : Origin) (now : Pb.Timestamp)
    (request : Request) (update : Process → Process) (next : Frame) : Option (Process × Frame) :=
  match process.perform settings origin now request with
  | .ok process => some (update process, next)
  | .die message => some (process, .dying message)
  | .undefined => none

/-- Hands a message to the log sink if it is registered. -/
def deliver (process : Process) (severity : AbslSeverity) (message : String)
    (now : Pb.Timestamp) : Outcome Process :=
  if process.logSinkRegistered then process.write .sink (logSinkArtifact severity message) now
  else .ok process

/-- The objects that a call goes on to use have not been destroyed. -/
def usable (process : Process) : Frame → Bool
  | .run _ => process.run.lifetime != .destroyed
  | .step ref _ => process.run.lifetime != .destroyed && (process.steps ref).lifetime != .destroyed
  | .series ref _ => process.run.lifetime != .destroyed &&
      (process.steps (process.series ref).testStep).lifetime != .destroyed &&
      (process.series ref).lifetime != .destroyed
  | _ => true

/-- Begins a call of the run. -/
def onRun (process : Process) (frame : TestRun.Frame) : Option (Process × Frame) :=
  if process.run.lifetime = .live then some (process, .run frame) else none

/-- Begins a call of a step, once its local work is done. -/
def onStep (process : Process) (ref : StepRef) (outcome : Outcome TestStep.Frame) :
    Option (Process × Frame) :=
  if (process.steps ref).lifetime = .live then
    match outcome with
    | .ok frame => some (process, .step ref frame)
    | .die message => some (process, .dying message)
    | .undefined => none
  else none

def onSeries (process : Process) (ref : SeriesRef) (frame : MeasurementSeries.Frame) :
    Option (Process × Frame) :=
  if (process.series ref).lifetime = .live then some (process, .series ref frame) else none

/-- A call of a DutInfo that the test holds. -/
def onDutInfo {α : Type} (process : Process) (ref : DutRef) (outcome : Outcome α)
    (next : α → Process) : Option (Process × Frame) :=
  if process.dutOwner ref = .caller then
    match outcome with
    | .ok value => some (next value, .idle)
    | .die message => some (process, .dying message)
    | .undefined => none
  else none

/-- The first step of a call. The constructors of steps and series draw their ids in it. -/
def begin (settings : Settings) (process : Process) (thread : ThreadId) (now : Pb.Timestamp) :
    Call → Option (Process × Frame)
  | .newTestRun =>
      if process.run.lifetime = .unborn then
        some ({ process with run := { process.run with lifetime := .constructing thread } },
          .run .checkAndSetInitializationGuard)
      else none
  | .addPreStartError error => process.onRun (.addPreStartError error)
  | .addPreStartLog log => process.onRun (.addPreStartLog log)
  | .startAndRegisterDutInfo none => process.onRun (.startAndRegisterDutInfo none)
  | .startAndRegisterDutInfo (some dutInfo) =>
      if process.dutOwner dutInfo = .caller then
        (process.setDutOwner dutInfo (.passed thread)).onRun
          (.startAndRegisterDutInfo (some dutInfo))
      else none
  | .skipTestRun => process.onRun .skip
  | .getNextStepId =>
      if process.run.lifetime = .live then
        match process.run.stepId.next with
        | .ok (_, stepId) => some ({ process with run := { process.run with stepId } }, .idle)
        | _ => none
      else none
  | .getNextMeasurementSeriesId =>
      if process.run.lifetime = .live then
        match process.run.measurementSeriesId.next with
        | .ok (_, measurementSeriesId) =>
            some ({ process with run := { process.run with measurementSeriesId } }, .idle)
        | _ => none
      else none
  | .deleteTestRun =>
      if process.run.lifetime = .live then
        some ({ process with run := { process.run with lifetime := .destroying thread } },
          .run .lockEnd)
      else none
  | .newTestStep name =>
      if process.run.lifetime = .live then
        match process.run.stepId.next with
        | .ok (ref, stepId) =>
            some ({ process with run := { process.run with stepId } }.setStep ref
              { name, lifetime := .constructing thread }, .step ref .checkStarted)
        | _ => none
      else none
  | .addMeasurement ref measurement =>
      process.onStep ref (TestStep.addMeasurement settings.protobuf measurement)
  | .addDiagnosis ref diagnosis => process.onStep ref (TestStep.addDiagnosis diagnosis)
  | .addError ref error => process.onStep ref (TestStep.addError error)
  | .addFile ref file => process.onStep ref (TestStep.addFile file)
  | .addLog ref log => process.onStep ref (TestStep.addLog log)
  | .addExtension ref extension =>
      process.onStep ref (TestStep.addExtension settings.protobuf extension)
  | .skipTestStep ref => process.onStep ref (.ok .skip)
  | .endTestStep ref => process.onStep ref (.ok (.lockEnd false))
  | .deleteTestStep ref =>
      if (process.steps ref).lifetime = .live then
        some (process.setStep ref { process.steps ref with lifetime := .destroying thread },
          .step ref (.lockEnd true))
      else none
  | .newMeasurementSeries testStep start =>
      if (process.steps testStep).lifetime = .live ∧ process.run.lifetime ≠ .destroyed then
        match process.run.measurementSeriesId.next with
        | .ok (ref, measurementSeriesId) =>
            some ({ process with run := { process.run with measurementSeriesId } }.setSeries ref
              { testStep, lifetime := .constructing thread }, .series ref (.checkStep start))
        | _ => none
      else none
  | .addElement ref element => process.onSeries ref (.checkType element now)
  | .endMeasurementSeries ref => process.onSeries ref (.lockEnd false)
  | .deleteMeasurementSeries ref =>
      if (process.series ref).lifetime = .live then
        some (process.setSeries ref { process.series ref with lifetime := .destroying thread },
          .series ref (.lockEnd true))
      else none
  | .newDutInfo name id =>
      match DutInfo.construct process.singletonInitialized name id with
      | .ok dutInfo => some (({ process with
          dutCount := process.dutCount + 1
          singletonInitialized := true }.setDutInfo process.dutCount dutInfo).setDutOwner
            process.dutCount .caller, .idle)
      | .die message => some (process, .dying message)
      | .undefined => none
  | .addHardwareInfo ref hardwareInfo =>
      process.onDutInfo ref ((process.dutInfos ref).addHardwareInfo hardwareInfo)
        fun (reference, dutInfo) => { process with
          hardwareReturned := process.hardwareReturned ++ [(ref, hardwareInfo, reference)] }.setDutInfo
            ref dutInfo
  | .addSoftwareInfo ref softwareInfo =>
      process.onDutInfo ref ((process.dutInfos ref).addSoftwareInfo softwareInfo)
        fun (reference, dutInfo) => { process with
          softwareReturned := process.softwareReturned ++ [(ref, softwareInfo, reference)] }.setDutInfo
            ref dutInfo
  | .addPlatformInfo ref platformInfo =>
      process.onDutInfo ref ((process.dutInfos ref).addPlatformInfo platformInfo)
        fun dutInfo => process.setDutInfo ref dutInfo
  | .setMetadataJson ref json =>
      process.onDutInfo ref (.ok ((process.dutInfos ref).setMetadataJson json))
        fun dutInfo => process.setDutInfo ref dutInfo
  | .deleteDutInfo ref =>
      process.onDutInfo ref (.ok ()) fun _ =>
        { process with singletonInitialized := false }.setDutOwner ref .nobody
  | .logFatal message => some (process, .dying message)

/-- The next step of a thread that is in a call. -/
def advance (settings : Settings) (process : Process) (thread : ThreadId) (now : Pb.Timestamp) :
    Frame → Option (Process × Frame)
  | .idle => none
  | .run frame =>
      (process.run.advance settings.protobuf thread process.calculator process.dutInfos frame).bind
        fun (run, request, rest) =>
          process.complete settings .run now request (fun process => { process with run })
            (rest.toFrame .run)
  | .step ref frame =>
      ((process.steps ref).advance ref thread process.run.mutex process.run.started frame).bind
        fun (step, request, rest) =>
          process.complete settings .step now request (·.setStep ref step)
            (rest.toFrame (.step ref))
  | .series ref frame =>
      let testStep := process.steps (process.series ref).testStep
      ((process.series ref).advance settings.protobuf ref thread testStep.mutex testStep.ended
          frame).bind
        fun (series, request, rest) =>
          process.complete settings .series now request (·.setSeries ref series)
            (rest.toFrame (.series ref))
  | .dying message =>
      ((process.deliver .fatal message now).toOption).map fun process => (process, .aborting)
  | .aborting => some ({ process with aborted := true }, .aborting)

/-- One step of a thread, while the process runs. -/
def exec (settings : Settings) (label : Label) (thread : ThreadId) (process : Process)
    (frame : Frame) : Option (Process × Frame) :=
  if process.aborted || !process.usable frame then none
  else match label.action with
    | .call call =>
        match frame with
        | .idle => process.begin settings thread label.now call
        | _ => none
    | .advance => process.advance settings thread label.now frame
    | .log severity message =>
        if severity = .fatal then none
        else ((process.deliver severity message label.now).toOption).map fun process =>
          (process, frame)

end Process

/-- A program before its TestRun is constructed, on a writer nothing has been written to. -/
def initialPool (testRunStart : TestRunStart) : Pool Process Frame where
  shared := { run := { testRunStart } }
  frames _ := .idle

/-- One step of any thread. -/
def systemStep (settings : Settings) : Pool Process Frame → ThreadId × Label →
    Option (Pool Process Frame) :=
  poolStep (Process.exec settings)

/-- A whole call of a thread, as the labels of its first step and of the others. -/
def callLabels (thread : ThreadId) (call : Call) (steps : Nat) : List (ThreadId × Label) :=
  (thread, { action := .call call }) :: List.replicate steps (thread, { action := .advance })

def sampleSettings : Settings := ⟨sampleProtobuf, true⟩

def sampleTestRunStart : TestRunStart where
  name := "burn-in"
  version := "1"
  commandLine := "./burn_in"

/-- Thread 0 constructs the run and starts it. -/
def sampleStart : List (ThreadId × Label) :=
  callLabels 0 .newTestRun 3 ++ callLabels 0 (.newDutInfo "host" "0") 0 ++
    callLabels 0 (.startAndRegisterDutInfo (some 0)) 3

/-- Thread 0 constructs a step and a series in it, and adds an element. -/
def sampleSeries : List (ThreadId × Label) :=
  sampleStart ++ callLabels 0 (.newTestStep "fans") 2 ++
    callLabels 0 (.newMeasurementSeries 0 { name := "spinning" }) 2 ++
    callLabels 0 (.addElement 0 { value := .bool true }) 5

end OcpDiag.Results
