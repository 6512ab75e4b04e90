import OcpDiag.Results.CallStep
import OcpDiag.Results.StructToProto
import OcpDiag.Results.StructValidators

set_option autoImplicit false

namespace OcpDiag.Results

open ThreadPool

/-- A TestRun but for its writer and its calculator, which the steps and series share. -/
structure TestRun where
  testRunStart : TestRunStart
  dutInfo : Option DutRef := none
  stepId : IntIncrementer := {}
  measurementSeriesId : IntIncrementer := {}
  mutex : Option ThreadId := none
  started : Bool := false
  lifetime : Lifetime := .unborn
  deriving DecidableEq, Repr

namespace TestRun

/-- Where a thread is in a call of the TestRun. -/
inductive Frame where
  | checkAndSetInitializationGuard
  | registerLogSink
  | emitSchemaVersion
  | addPreStartError (error : Error)
  | writePreStartError (error : Pb.Error)
  | notifyPreStartError
  | addPreStartLog (log : Log)
  | writePreStartLog (log : Log)
  | startAndRegisterDutInfo (dutInfo : Option DutRef)
  | notifyStartRun (dutInfo : DutRef)
  | destroyPreviousDutInfo (previous : DutRef)
  | emitStart
  | skip
  | lockEnd
  | emitMissingStart
  | finalize
  | readStatus
  | readResult (status : TestStatus)
  | emitEnd (status : TestStatus) (result : TestResult)
  | deregisterLogSink
  | unsetInitializationGuard
  | destroyMembers

def schemaVersion : Pb.OutputVariant := .schemaVersion ⟨majorSchemaVersion, minorSchemaVersion⟩

/-- The artifact that EmitStart() writes. -/
def startArtifact (protobuf : Protobuf) (run : TestRun) (dutInfos : DutRef → DutInfo) :
    Outcome Pb.OutputVariant := do
  let startProto ← run.testRunStart.structToProto protobuf
  match run.dutInfo with
  | none => return .testRunArtifact (.testRunStart startProto)
  | some dutInfo =>
      let dutProto ← dutInfoToProto protobuf (dutInfos dutInfo)
      return .testRunArtifact (.testRunStart { startProto with dutInfo := some dutProto })

/-- What AddPreStartError() and AddPreStartLog() do once they have the mutex. -/
def checkPreStart (run : TestRun) (message : String) (validate : Outcome Unit) : Outcome Unit := do
  check (!run.started) "!started_" message
  validate

/-- One step of a call. `calculator` is what its getters read. -/
def advance (protobuf : Protobuf) (run : TestRun) (thread : ThreadId)
    (calculator : TestResultCalculator) (dutInfos : DutRef → DutInfo) :
    Frame → Option (TestRun × Request × Continue Frame)
  | .checkAndSetInitializationGuard =>
      some (run, .checkAndSetInitializationGuard, .next .registerLogSink)
  | .registerLogSink => some (run, .addLogSink, .next .emitSchemaVersion)
  | .emitSchemaVersion =>
      orDie run run.testRunStart.validateStructOrDie fun _ =>
        ({ run with lifetime := .live }, .write schemaVersion, .done)
  | .addPreStartError error =>
      match run.mutex with
      | some _ => none
      | none =>
          let run := { run with mutex := some thread }
          orDie run (run.checkPreStart
            ("Errors can only be added to the TestRun before it has been started - " ++
              "add errors that happen during the run to TestSteps") error.validateStructOrDie)
            fun _ => (run, .none, .next (.writePreStartError error.structToProto))
  | .writePreStartError error =>
      some (run, .write (.testRunArtifact (.error error)), .next .notifyPreStartError)
  | .notifyPreStartError => some ({ run with mutex := none }, .notify .error, .done)
  | .addPreStartLog log =>
      match run.mutex with
      | some _ => none
      | none =>
          let run := { run with mutex := some thread }
          orDie run (run.checkPreStart
            ("Logs can only be added to the TestRun before it has been started - " ++
              "add logs that happen during the run to TestSteps") log.validateStructOrDie)
            fun _ => (run, .none, .next (.writePreStartLog log))
  | .writePreStartLog log =>
      let artifact := .write (.testRunArtifact (.log log.structToProto))
      if log.severity = .fatal then some (run, artifact, .die log.message)
      else some ({ run with mutex := none }, artifact, .done)
  | .startAndRegisterDutInfo dutInfo =>
      match run.mutex with
      | some _ => none
      | none =>
          let run := { run with mutex := some thread }
          match dutInfo with
          | none => some (run, .none, .die "Check failed: dut_info DutInfo must be provided")
          | some dutInfo => some (run, .none, .next (.notifyStartRun dutInfo))
  | .notifyStartRun dutInfo =>
      some ({ run with started := true, dutInfo := some dutInfo }, .registerDutInfo dutInfo,
        .next (match run.dutInfo with
          | none => .emitStart
          | some previous => .destroyPreviousDutInfo previous))
  | .destroyPreviousDutInfo previous => some (run, .destroyDutInfo previous, .next .emitStart)
  | .emitStart =>
      orDie run (run.startArtifact protobuf dutInfos) fun artifact =>
        ({ run with mutex := none }, .write artifact, .done)
  | .skip => some (run, .notify .skip, .done)
  | .lockEnd =>
      match run.mutex with
      | some _ => none
      | none => some ({ run with mutex := some thread }, .none,
          .next (if run.started then .finalize else .emitMissingStart))
  | .emitMissingStart =>
      orDie run (run.startArtifact protobuf dutInfos) fun artifact =>
        (run, .write artifact, .next .finalize)
  | .finalize => some (run, .finalize, .next .readStatus)
  | .readStatus => some (run, .none, .next (.readResult calculator.status))
  | .readResult status => some (run, .none, .next (.emitEnd status calculator.result))
  | .emitEnd status result =>
      some ({ run with mutex := none },
        .write (.testRunArtifact (.testRunEnd ⟨status.toProto, result.toProto⟩)),
        .next .deregisterLogSink)
  | .deregisterLogSink => some (run, .removeLogSink, .next .unsetInitializationGuard)
  | .unsetInitializationGuard =>
      some (run, .unsetInitializationGuard, .next .destroyMembers)
  | .destroyMembers =>
      some ({ run with lifetime := .destroyed },
        match run.dutInfo with
        | none => .none
        | some dutInfo => .destroyDutInfo dutInfo, .done)

section

variable (protobuf : Protobuf) (run : TestRun) (thread : ThreadId)
  (calculator : TestResultCalculator) (dutInfos : DutRef → DutInfo)

/-- The steps that `advance` can take, one by one. -/
inductive Advances : Frame → TestRun → Request → Continue Frame → Prop
  | checkAndSetInitializationGuard :
      Advances .checkAndSetInitializationGuard run .checkAndSetInitializationGuard
        (.next .registerLogSink)
  | registerLogSink : Advances .registerLogSink run .addLogSink (.next .emitSchemaVersion)
  | emitSchemaVersion : Advances .emitSchemaVersion { run with lifetime := .live }
      (.write schemaVersion) .done
  | emitSchemaVersionDies (message : String) :
      Advances .emitSchemaVersion run .none (.die message)
  | addPreStartError (error : Error) : run.mutex = none → run.started = false →
      Advances (.addPreStartError error) { run with mutex := some thread } .none
        (.next (.writePreStartError error.structToProto))
  | addPreStartErrorDies (error : Error) (message : String) : run.mutex = none →
      Advances (.addPreStartError error) { run with mutex := some thread } .none (.die message)
  | writePreStartError (error : Pb.Error) :
      Advances (.writePreStartError error) run (.write (.testRunArtifact (.error error)))
        (.next .notifyPreStartError)
  | notifyPreStartError :
      Advances .notifyPreStartError { run with mutex := none } (.notify .error) .done
  | addPreStartLog (log : Log) : run.mutex = none → run.started = false →
      Advances (.addPreStartLog log) { run with mutex := some thread } .none
        (.next (.writePreStartLog log))
  | addPreStartLogDies (log : Log) (message : String) : run.mutex = none →
      Advances (.addPreStartLog log) { run with mutex := some thread } .none (.die message)
  | writePreStartLog (log : Log) :
      Advances (.writePreStartLog log) { run with mutex := none }
        (.write (.testRunArtifact (.log log.structToProto))) .done
  | writePreStartLogFatal (log : Log) :
      Advances (.writePreStartLog log) run
        (.write (.testRunArtifact (.log log.structToProto))) (.die log.message)
  | startAndRegisterDutInfo (dutInfo : DutRef) : run.mutex = none →
      Advances (.startAndRegisterDutInfo (some dutInfo)) { run with mutex := some thread } .none
        (.next (.notifyStartRun dutInfo))
  | startAndRegisterDutInfoDies (message : String) : run.mutex = none →
      Advances (.startAndRegisterDutInfo none) { run with mutex := some thread } .none
        (.die message)
  | notifyStartRun (dutInfo : DutRef) : run.dutInfo = none →
      Advances (.notifyStartRun dutInfo) { run with started := true, dutInfo := some dutInfo }
        (.registerDutInfo dutInfo) (.next .emitStart)
  | notifyStartRunAgain (dutInfo previous : DutRef) : run.dutInfo = some previous →
      Advances (.notifyStartRun dutInfo) { run with started := true, dutInfo := some dutInfo }
        (.registerDutInfo dutInfo) (.next (.destroyPreviousDutInfo previous))
  | destroyPreviousDutInfo (previous : DutRef) :
      Advances (.destroyPreviousDutInfo previous) run (.destroyDutInfo previous)
        (.next .emitStart)
  | emitStart (artifact : Pb.OutputVariant) : run.startArtifact protobuf dutInfos = .ok artifact →
      Advances .emitStart { run with mutex := none } (.write artifact) .done
  | emitStartDies (message : String) : Advances .emitStart run .none (.die message)
  | skip : Advances .skip run (.notify .skip) .done
  | lockEnd : run.mutex = none →
      Advances .lockEnd { run with mutex := some thread } .none
        (.next (if run.started then .finalize else .emitMissingStart))
  | emitMissingStart (artifact : Pb.OutputVariant) :
      run.startArtifact protobuf dutInfos = .ok artifact →
      Advances .emitMissingStart run (.write artifact) (.next .finalize)
  | emitMissingStartDies (message : String) :
      Advances .emitMissingStart run .none (.die message)
  | finalize : Advances .finalize run .finalize (.next .readStatus)
  | readStatus : Advances .readStatus run .none (.next (.readResult calculator.status))
  | readResult (status : TestStatus) :
      Advances (.readResult status) run .none (.next (.emitEnd status calculator.result))
  | emitEnd (status : TestStatus) (result : TestResult) :
      Advances (.emitEnd status result) { run with mutex := none }
        (.write (.testRunArtifact (.testRunEnd ⟨status.toProto, result.toProto⟩)))
        (.next .deregisterLogSink)
  | deregisterLogSink :
      Advances .deregisterLogSink run .removeLogSink (.next .unsetInitializationGuard)
  | unsetInitializationGuard :
      Advances .unsetInitializationGuard run .unsetInitializationGuard (.next .destroyMembers)
  | destroyMembers : run.dutInfo = none →
      Advances .destroyMembers { run with lifetime := .destroyed } .none .done
  | destroyMembersDutInfo (dutInfo : DutRef) : run.dutInfo = some dutInfo →
      Advances .destroyMembers { run with lifetime := .destroyed } (.destroyDutInfo dutInfo) .done

/-- The start artifact has the DutInfo that the run has. -/
theorem startArtifact_eq_ok (artifact : Pb.OutputVariant)
    (built : run.startArtifact protobuf dutInfos = .ok artifact) :
    ∃ start, artifact = .testRunArtifact (.testRunStart start) ∧
      ∀ dutInfo, run.dutInfo = some dutInfo → ∃ dutProto,
        dutInfoToProto protobuf (dutInfos dutInfo) = .ok dutProto ∧ start.dutInfo = some dutProto := by
  simp only [startArtifact, Outcome.bind_eq_ok] at built
  obtain ⟨startProto, _, built⟩ := built
  split at built
  · rename_i nothing
    cases built
    refine ⟨startProto, rfl, fun dutInfo registered => ?_⟩
    rw [nothing] at registered
    cases registered
  · rename_i dutInfo registered
    simp only [Outcome.bind_eq_ok] at built
    obtain ⟨dutProto, converted, built⟩ := built
    cases built
    refine ⟨_, rfl, fun other same => ?_⟩
    rw [registered] at same
    cases same
    exact ⟨dutProto, converted, rfl⟩

/-- With the mutex, the run has not been started if the check passes. -/
theorem checkPreStart_ok (message : String) (validate : Outcome Unit) (value : Unit)
    (passes : run.checkPreStart message validate = .ok value) : run.started = false := by
  simp only [checkPreStart, Outcome.bind_eq_ok] at passes
  obtain ⟨⟨⟩, fresh, _⟩ := passes
  simpa using fresh

theorem advances_of_advance (frame : Frame) (next : TestRun) (request : Request)
    (rest : Continue Frame)
    (taken : run.advance protobuf thread calculator dutInfos frame = some (next, request, rest)) :
    Advances protobuf run thread calculator dutInfos frame next request rest := by
  cases frame with
  | checkAndSetInitializationGuard =>
      cases taken
      exact .checkAndSetInitializationGuard
  | registerLogSink =>
      cases taken
      exact .registerLogSink
  | emitSchemaVersion =>
      rcases (orDie_eq_some _ _ _ _).mp taken with ⟨_, _, same⟩ | ⟨_, _, same⟩
      · cases same
        exact .emitSchemaVersion
      · cases same
        exact .emitSchemaVersionDies _
  | addPreStartError error =>
      simp only [advance] at taken
      split at taken
      · cases taken
      · rename_i free
        rcases (orDie_eq_some _ _ _ _).mp taken with ⟨_, passes, same⟩ | ⟨_, _, same⟩
        · cases same
          exact .addPreStartError error free (checkPreStart_ok _ _ _ _ passes)
        · cases same
          exact .addPreStartErrorDies error _ free
  | writePreStartError error =>
      cases taken
      exact .writePreStartError error
  | notifyPreStartError =>
      cases taken
      exact .notifyPreStartError
  | addPreStartLog log =>
      simp only [advance] at taken
      split at taken
      · cases taken
      · rename_i free
        rcases (orDie_eq_some _ _ _ _).mp taken with ⟨_, passes, same⟩ | ⟨_, _, same⟩
        · cases same
          exact .addPreStartLog log free (checkPreStart_ok _ _ _ _ passes)
        · cases same
          exact .addPreStartLogDies log _ free
  | writePreStartLog log =>
      simp only [advance] at taken
      split at taken
      · cases taken
        exact .writePreStartLogFatal log
      · cases taken
        exact .writePreStartLog log
  | startAndRegisterDutInfo dutInfo =>
      simp only [advance] at taken
      split at taken
      · cases taken
      · rename_i free
        cases dutInfo with
        | none =>
            cases taken
            exact .startAndRegisterDutInfoDies _ free
        | some dutInfo =>
            cases taken
            exact .startAndRegisterDutInfo dutInfo free
  | notifyStartRun dutInfo =>
      simp only [advance] at taken
      split at taken
      · rename_i first
        cases taken
        exact .notifyStartRun dutInfo first
      · rename_i previous again
        cases taken
        exact .notifyStartRunAgain dutInfo previous again
  | destroyPreviousDutInfo previous =>
      cases taken
      exact .destroyPreviousDutInfo previous
  | emitStart =>
      rcases (orDie_eq_some _ _ _ _).mp taken with ⟨artifact, built, same⟩ | ⟨_, _, same⟩
      · cases same
        exact .emitStart artifact built
      · cases same
        exact .emitStartDies _
  | skip =>
      cases taken
      exact .skip
  | lockEnd =>
      simp only [advance] at taken
      split at taken
      · cases taken
      · rename_i free
        cases taken
        exact .lockEnd free
  | emitMissingStart =>
      rcases (orDie_eq_some _ _ _ _).mp taken with ⟨artifact, built, same⟩ | ⟨_, _, same⟩
      · cases same
        exact .emitMissingStart artifact built
      · cases same
        exact .emitMissingStartDies _
  | finalize =>
      cases taken
      exact .finalize
  | readStatus =>
      cases taken
      exact .readStatus
  | readResult status =>
      cases taken
      exact .readResult status
  | emitEnd status result =>
      cases taken
      exact .emitEnd status result
  | deregisterLogSink =>
      cases taken
      exact .deregisterLogSink
  | unsetInitializationGuard =>
      cases taken
      exact .unsetInitializationGuard
  | destroyMembers =>
      simp only [advance] at taken
      split at taken
      · rename_i nothing
        cases taken
        exact .destroyMembers nothing
      · rename_i dutInfo nonempty
        cases taken
        exact .destroyMembersDutInfo dutInfo nonempty

end

end TestRun

end OcpDiag.Results
