import OcpDiag.Results.CallStep
import OcpDiag.Results.StructToProto
import OcpDiag.Results.StructValidators

set_option autoImplicit false

namespace OcpDiag.Results

open ThreadPool

structure TestStep where
  name : String := ""
  mutex : Option ThreadId := none
  status : TestStatus := .unknown
  ended : Bool := false
  lifetime : Lifetime := .unborn
  deriving DecidableEq, Repr

/-- The artifacts that the Add calls of a TestStep make. -/
def Pb.TestStepVariant.addable : Pb.TestStepVariant → Bool
  | .measurement _ | .diagnosis _ | .error _ | .file _ | .log _ | .extension _ => true
  | _ => false

structure AddedArtifact where
  variant : Pb.TestStepVariant
  addable : variant.addable = true

namespace TestStep

/-- Where a thread is in a call of a TestStep. A fatal log carries its message on, and the steps
of End() know whether the destructor has called it. -/
inductive Frame where
  | checkStarted
  | emitStart
  | notifyFailureDiagnosis (artifact : AddedArtifact)
  | setError (artifact : AddedArtifact)
  | notifyError (artifact : AddedArtifact)
  | checkEnded (artifact : AddedArtifact) (fatal : Option String)
  | assignIdAndEmit (artifact : AddedArtifact) (fatal : Option String)
  | skip
  | lockEnd (destroy : Bool)
  | emitEnd (destroy : Bool)

/- The local work that an Add call does first: validation and conversion. -/

def addMeasurement (protobuf : Protobuf) (measurement : Measurement) : Outcome Frame := do
  measurement.validateStructOrDie
  let proto ← measurement.structToProto protobuf
  return .checkEnded ⟨.measurement proto, rfl⟩ none

def addDiagnosis (diagnosis : Diagnosis) : Outcome Frame := do
  diagnosis.validateStructOrDie
  if diagnosis.type = .fail then
    return .notifyFailureDiagnosis ⟨.diagnosis diagnosis.structToProto, rfl⟩
  else return .checkEnded ⟨.diagnosis diagnosis.structToProto, rfl⟩ none

def addError (error : Error) : Outcome Frame := do
  error.validateStructOrDie
  return .setError ⟨.error error.structToProto, rfl⟩

def addFile (file : File) : Outcome Frame := do
  file.validateStructOrDie
  return .checkEnded ⟨.file file.structToProto, rfl⟩ none

def addLog (log : Log) : Outcome Frame := do
  log.validateStructOrDie
  return .checkEnded ⟨.log log.structToProto, rfl⟩
    (if log.severity = .fatal then some log.message else none)

def addExtension (protobuf : Protobuf) (extension : Extension) : Outcome Frame := do
  extension.validateStructOrDie
  let proto ← extension.structToProto protobuf
  return .checkEnded ⟨.extension proto, rfl⟩ none

/-- AssignIdAndEmitArtifact(). -/
def artifact (ref : StepRef) (variant : Pb.TestStepVariant) : Pb.OutputVariant :=
  .testStepArtifact ⟨variant, strCat ref⟩

/-- The object once its destructor has returned, or as it was when End() is called otherwise. -/
def afterEnd (step : TestStep) (destroy : Bool) : TestStep :=
  if destroy then { step with lifetime := .destroyed } else step

/-- One step of a call. Started() of the run takes the run's mutex. -/
def advance (step : TestStep) (ref : StepRef) (thread : ThreadId) (runMutex : Option ThreadId)
    (runStarted : Bool) : Frame → Option (TestStep × Request × Continue Frame)
  | .checkStarted =>
      match runMutex with
      | some _ => none
      | none => orDie step (check runStarted "test_run.Started()"
          "TestSteps must be created after the test run has started") fun _ =>
            (step, .none, .next .emitStart)
  | .emitStart =>
      orDie step (check (!step.name.isEmpty) "!name_.empty()" "Test step names cannot be empty")
        fun _ => ({ step with lifetime := .live },
          .write (artifact ref (.testStepStart ⟨step.name⟩)), .done)
  | .notifyFailureDiagnosis artifact =>
      some (step, .notify .failureDiagnosis, .next (.checkEnded artifact none))
  | .setError artifact =>
      match step.mutex with
      | some _ => none
      | none => some ({ step with status := .error }, .none, .next (.notifyError artifact))
  | .notifyError artifact => some (step, .notify .error, .next (.checkEnded artifact none))
  | .checkEnded artifact fatal =>
      match step.mutex with
      | some _ => none
      | none =>
          let step := { step with mutex := some thread }
          orDie step (check (!step.ended) "!ended_"
            "Artifacts cannot be added once the step has ended") fun _ =>
              (step, .none, .next (.assignIdAndEmit artifact fatal))
  | .assignIdAndEmit added fatal =>
      some ({ step with mutex := none }, .write (artifact ref added.variant),
        match fatal with
        | none => .done
        | some message => .die message)
  | .skip =>
      match step.mutex with
      | some _ => none
      | none =>
          some ({ step with status := if step.status = .unknown then .skip else step.status },
            .none, .next (.lockEnd false))
  | .lockEnd destroy =>
      match step.mutex with
      | some _ => none
      | none =>
          if step.ended then some (step.afterEnd destroy, .none, .done)
          else some ({ step with
            mutex := some thread
            ended := true
            status := if step.status = .unknown then .complete else step.status },
            .none, .next (.emitEnd destroy))
  | .emitEnd destroy =>
      some ({ step with mutex := none }.afterEnd destroy,
        .write (artifact ref (.testStepEnd ⟨step.status.toProto⟩)), .done)

/-- The steps that `advance` can take, one by one. -/
inductive Advances (step : TestStep) (ref : StepRef) (thread : ThreadId)
    (runMutex : Option ThreadId) (runStarted : Bool) :
    Frame → TestStep → Request → Continue Frame → Prop
  | checkStarted : runMutex = none → runStarted = true →
      Advances step ref thread runMutex runStarted .checkStarted step .none (.next .emitStart)
  | checkStartedDies (message : String) : runStarted = false →
      Advances step ref thread runMutex runStarted .checkStarted step .none (.die message)
  | emitStart :
      Advances step ref thread runMutex runStarted .emitStart { step with lifetime := .live }
        (.write (artifact ref (.testStepStart ⟨step.name⟩))) .done
  | emitStartDies (message : String) :
      Advances step ref thread runMutex runStarted .emitStart step .none (.die message)
  | notifyFailureDiagnosis (added : AddedArtifact) :
      Advances step ref thread runMutex runStarted (.notifyFailureDiagnosis added) step
        (.notify .failureDiagnosis) (.next (.checkEnded added none))
  | setError (added : AddedArtifact) : step.mutex = none →
      Advances step ref thread runMutex runStarted (.setError added)
        { step with status := .error } .none (.next (.notifyError added))
  | notifyError (added : AddedArtifact) :
      Advances step ref thread runMutex runStarted (.notifyError added) step (.notify .error)
        (.next (.checkEnded added none))
  | checkEnded (added : AddedArtifact) (fatal : Option String) : step.mutex = none →
      step.ended = false →
      Advances step ref thread runMutex runStarted (.checkEnded added fatal)
        { step with mutex := some thread } .none (.next (.assignIdAndEmit added fatal))
  | checkEndedDies (added : AddedArtifact) (fatal : Option String) (message : String) :
      step.mutex = none → step.ended = true →
      Advances step ref thread runMutex runStarted (.checkEnded added fatal)
        { step with mutex := some thread } .none (.die message)
  | assignIdAndEmit (added : AddedArtifact) :
      Advances step ref thread runMutex runStarted (.assignIdAndEmit added none)
        { step with mutex := none } (.write (artifact ref added.variant)) .done
  | assignIdAndEmitFatal (added : AddedArtifact) (message : String) :
      Advances step ref thread runMutex runStarted (.assignIdAndEmit added (some message))
        { step with mutex := none } (.write (artifact ref added.variant)) (.die message)
  | skip : step.mutex = none →
      Advances step ref thread runMutex runStarted .skip
        { step with status := if step.status = .unknown then .skip else step.status } .none
        (.next (.lockEnd false))
  | endAgain (destroy : Bool) : step.mutex = none → step.ended = true →
      Advances step ref thread runMutex runStarted (.lockEnd destroy) (step.afterEnd destroy) .none
        .done
  | lockEnd (destroy : Bool) : step.mutex = none → step.ended = false →
      Advances step ref thread runMutex runStarted (.lockEnd destroy)
        { step with
          mutex := some thread
          ended := true
          status := if step.status = .unknown then .complete else step.status }
        .none (.next (.emitEnd destroy))
  | emitEnd (destroy : Bool) :
      Advances step ref thread runMutex runStarted (.emitEnd destroy)
        ({ step with mutex := none }.afterEnd destroy)
        (.write (artifact ref (.testStepEnd ⟨step.status.toProto⟩))) .done

theorem advances_of_advance (step : TestStep) (ref : StepRef) (thread : ThreadId)
    (runMutex : Option ThreadId) (runStarted : Bool) (frame : Frame) (next : TestStep)
    (request : Request) (rest : Continue Frame)
    (taken : step.advance ref thread runMutex runStarted frame = some (next, request, rest)) :
    Advances step ref thread runMutex runStarted frame next request rest := by
  cases frame with
  | checkStarted =>
      simp only [advance] at taken
      split at taken
      · cases taken
      · cases runStarted with
        | true =>
            cases taken
            exact .checkStarted rfl rfl
        | false =>
            cases taken
            exact .checkStartedDies _ rfl
  | emitStart =>
      rcases (orDie_eq_some _ _ _ _).mp taken with ⟨_, _, same⟩ | ⟨message, _, same⟩
      · cases same
        exact .emitStart
      · cases same
        exact .emitStartDies message
  | notifyFailureDiagnosis added =>
      cases taken
      exact .notifyFailureDiagnosis added
  | setError added =>
      simp only [advance] at taken
      split at taken
      · cases taken
      · rename_i free
        cases taken
        exact .setError added free
  | notifyError added =>
      cases taken
      exact .notifyError added
  | checkEnded added fatal =>
      simp only [advance] at taken
      split at taken
      · cases taken
      · rename_i free
        cases ended : step.ended with
        | false =>
            rcases (orDie_eq_some _ _ _ _).mp taken with ⟨_, _, same⟩ | ⟨_, dies, _⟩
            · cases same
              exact .checkEnded added fatal free ended
            · simp [ended] at dies
        | true =>
            rcases (orDie_eq_some _ _ _ _).mp taken with ⟨_, passes, _⟩ | ⟨message, _, same⟩
            · simp [ended] at passes
            · cases same
              exact .checkEndedDies added fatal message free ended
  | assignIdAndEmit added fatal =>
      cases fatal with
      | none =>
          cases taken
          exact .assignIdAndEmit added
      | some message =>
          cases taken
          exact .assignIdAndEmitFatal added message
  | skip =>
      simp only [advance] at taken
      split at taken
      · cases taken
      · rename_i free
        cases taken
        exact .skip free
  | lockEnd destroy =>
      simp only [advance] at taken
      split at taken
      · cases taken
      · rename_i free
        split at taken
        · rename_i ended
          cases taken
          exact .endAgain destroy free ended
        · rename_i running
          cases taken
          exact .lockEnd destroy free (by simpa using running)
  | emitEnd destroy =>
      cases taken
      exact .emitEnd destroy

end TestStep

end OcpDiag.Results
