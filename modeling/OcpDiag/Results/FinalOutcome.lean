import OcpDiag.Results.CallsReturn
import OcpDiag.Results.NoFalsePass
import OcpDiag.Results.Reporting

set_option autoImplicit false

/- What the TestRunEnd says, against the artifacts. Errors of steps and failures count before they
are written, pre-start errors after, so the two agree once no call is under way. -/
namespace OcpDiag.Results

open ThreadPool

namespace TestResultCalculator

/-- An error has been counted: the status is not, and does not become, COMPLETE. -/
def Errored (calculator : TestResultCalculator) : Prop :=
  if calculator.finalized then calculator.status ≠ .complete else calculator.status ≠ .unknown

/-- A failure has been counted: it is the result of a run that completes. -/
def Failed (calculator : TestResultCalculator) : Prop :=
  if calculator.finalized then calculator.status = .complete → calculator.result = .fail
  else calculator.status = .unknown → calculator.result = .fail

/-- The status and the result fit together. -/
structure Sound (calculator : TestResultCalculator) : Prop where
  running : calculator.finalized = false → calculator.status ≠ .complete ∧
    calculator.result ≠ .pass ∧
    (calculator.status ≠ .unknown → calculator.result = .notApplicable)
  final : calculator.finalized = true → calculator.status ≠ .unknown ∧
    (calculator.status = .complete → calculator.result ≠ .notApplicable) ∧
    (calculator.status ≠ .complete → calculator.result = .notApplicable)

theorem sound_of_running {calculator : TestResultCalculator}
    (running : calculator.finalized = false) (status : calculator.status ≠ .complete)
    (result : calculator.result ≠ .pass)
    (settled : calculator.status ≠ .unknown → calculator.result = .notApplicable) :
    calculator.Sound := by
  refine ⟨fun _ => ⟨status, result, settled⟩, fun final => ?_⟩
  rw [running] at final
  cases final

/-- What a call that is not refused does to the status and the result. -/
theorem notify_eq_ok {calculator next : TestResultCalculator} {event : Notification}
    (notified : calculator.notify event = .ok next) :
    (event = .startRun ∧ next = { calculator with runStarted := true }) ∨
    (event = .skip ∧ calculator.status = .unknown ∧
      next = { calculator with result := .notApplicable, status := .skip }) ∨
    (event = .error ∧ calculator.status = .unknown ∧
      next = { calculator with result := .notApplicable, status := .error }) ∨
    (event = .failureDiagnosis ∧ calculator.result = .notApplicable ∧
      calculator.status = .unknown ∧ next = { calculator with result := .fail }) ∨
    (next = calculator ∧ (event = .skip ∨ event = .error → calculator.status ≠ .unknown) ∧
      (event = .failureDiagnosis →
        ¬ (calculator.result = .notApplicable ∧ calculator.status = .unknown))) := by
  cases event with
  | startRun =>
      simp only [notify, notifyStartRun, Outcome.bind_eq_ok] at notified
      obtain ⟨_, _, taken⟩ := notified
      cases taken
      exact Or.inl ⟨rfl, rfl⟩
  | skip =>
      simp only [notify, notifySkip, Outcome.bind_eq_ok] at notified
      obtain ⟨_, _, taken⟩ := notified
      split at taken <;> cases taken <;> rename_i status
      · exact Or.inr (Or.inl ⟨rfl, status, rfl⟩)
      · exact Or.inr (Or.inr (Or.inr (Or.inr ⟨rfl, fun _ => status, by simp⟩)))
  | error =>
      simp only [notify, notifyError, Outcome.bind_eq_ok] at notified
      obtain ⟨_, _, taken⟩ := notified
      split at taken <;> cases taken <;> rename_i status
      · exact Or.inr (Or.inr (Or.inl ⟨rfl, status, rfl⟩))
      · exact Or.inr (Or.inr (Or.inr (Or.inr ⟨rfl, fun _ => status, by simp⟩)))
  | failureDiagnosis =>
      simp only [notify, notifyFailureDiagnosis, Outcome.bind_eq_ok] at notified
      obtain ⟨_, _, taken⟩ := notified
      split at taken <;> cases taken <;> rename_i settled
      · exact Or.inr (Or.inr (Or.inr (Or.inl ⟨rfl, settled.1, settled.2, rfl⟩)))
      · exact Or.inr (Or.inr (Or.inr (Or.inr ⟨rfl, by simp, fun _ => settled⟩)))

/-- The cases of Finalize(). -/
theorem finish_cases (calculator : TestResultCalculator) :
    calculator.finish.finalized = true ∧
    ((calculator.runStarted = true ∧ calculator.status = .unknown ∧
        calculator.finish.status = .complete ∧ calculator.finish.result =
          if calculator.result = .notApplicable then .pass else calculator.result) ∨
      (calculator.runStarted = true ∧ calculator.status ≠ .unknown ∧
        calculator.finish.status = calculator.status ∧
        calculator.finish.result = calculator.result) ∨
      (calculator.runStarted = false ∧ calculator.status ≠ .error ∧
        calculator.finish.status = .skip ∧ calculator.finish.result = .notApplicable) ∨
      (calculator.runStarted = false ∧ calculator.status = .error ∧
        calculator.finish.status = .error ∧
        calculator.finish.result = calculator.result)) := by
  refine ⟨finish_finalized calculator, ?_⟩
  unfold finish
  cases started : calculator.runStarted with
  | true =>
      by_cases unknown : calculator.status = .unknown
      · simp [unknown]
      · simp [unknown]
  | false =>
      by_cases failed : calculator.status = .error
      · simp [failed]
      · simp [failed]

theorem Updates.sound {calculator next : TestResultCalculator}
    (updates : calculator.Updates next) (sound : calculator.Sound) : next.Sound := by
  cases updates with
  | same => exact sound
  | notify event _ notified =>
      obtain ⟨running, still⟩ := notify_not_finalized notified
      obtain ⟨incomplete, notPass, settled⟩ := sound.running running
      rcases notify_eq_ok notified with
        ⟨_, rfl⟩ | ⟨_, _, rfl⟩ | ⟨_, _, rfl⟩ | ⟨_, _, unknown, rfl⟩ |
        ⟨rfl, _⟩
      · exact sound_of_running running incomplete notPass settled
      · exact sound_of_running running nofun nofun fun _ => rfl
      · exact sound_of_running running nofun nofun fun _ => rfl
      · exact sound_of_running running incomplete nofun fun known => absurd unknown known
      · exact sound
  | finish running =>
      obtain ⟨incomplete, notPass, settled⟩ := sound.running running
      obtain ⟨final, cases⟩ := finish_cases calculator
      refine ⟨fun unfinished => ?_, fun _ => ?_⟩
      · rw [final] at unfinished
        cases unfinished
      · rcases cases with ⟨_, _, status, result⟩ | ⟨_, known, status, result⟩ |
          ⟨_, _, status, result⟩ | ⟨_, failed, status, result⟩
        · rw [status, result]
          refine ⟨nofun, fun _ => ?_, fun other => absurd rfl other⟩
          split
          · nofun
          · assumption
        · rw [status, result]
          exact ⟨known, fun complete => absurd complete incomplete, fun _ => settled known⟩
        · rw [status, result]
          exact ⟨nofun, nofun, fun _ => rfl⟩
        · rw [status, result]
          exact ⟨nofun, nofun, fun _ => settled (by rw [failed]; nofun)⟩

theorem Updates.errored {calculator next : TestResultCalculator}
    (updates : calculator.Updates next) (sound : calculator.Sound)
    (errored : calculator.Errored) : next.Errored := by
  cases updates with
  | same => exact errored
  | notify event _ notified =>
      obtain ⟨running, still⟩ := notify_not_finalized notified
      simp only [Errored, running, still, Bool.false_eq_true, ↓reduceIte] at errored ⊢
      rcases notify_eq_ok notified with ⟨_, rfl⟩ | ⟨_, unknown, _⟩ | ⟨_, unknown, _⟩ |
        ⟨_, _, unknown, _⟩ | ⟨rfl, _⟩
      · exact errored
      · exact absurd unknown errored
      · exact absurd unknown errored
      · exact absurd unknown errored
      · exact errored
  | finish running =>
      obtain ⟨final, cases⟩ := finish_cases calculator
      simp only [Errored, running, final, Bool.false_eq_true, ↓reduceIte] at errored ⊢
      rcases cases with ⟨_, unknown, _⟩ | ⟨_, _, status, _⟩ | ⟨_, _, status, _⟩ | ⟨_, _, status, _⟩
      · exact absurd unknown errored
      · exact status ▸ (sound.running running).1
      · exact status ▸ nofun
      · exact status ▸ nofun

theorem Updates.failed {calculator next : TestResultCalculator}
    (updates : calculator.Updates next) (sound : calculator.Sound)
    (failed : calculator.Failed) : next.Failed := by
  cases updates with
  | same => exact failed
  | notify event _ notified =>
      obtain ⟨running, still⟩ := notify_not_finalized notified
      simp only [Failed, running, still, Bool.false_eq_true, ↓reduceIte] at failed ⊢
      rcases notify_eq_ok notified with ⟨_, rfl⟩ | ⟨_, _, rfl⟩ | ⟨_, _, rfl⟩ | ⟨_, _, _, rfl⟩ |
        ⟨rfl, _⟩
      · exact failed
      · exact nofun
      · exact nofun
      · exact fun _ => rfl
      · exact failed
  | finish running =>
      obtain ⟨final, cases⟩ := finish_cases calculator
      simp only [Failed, running, final, Bool.false_eq_true, ↓reduceIte] at failed ⊢
      rcases cases with ⟨_, unknown, _, result⟩ | ⟨_, _, status, _⟩ | ⟨_, _, status, _⟩ |
        ⟨_, _, status, _⟩
      · intro _
        rw [result, failed unknown]
        rfl
      · exact fun complete => absurd (status ▸ complete) (sound.running running).1
      · rw [status]
        nofun
      · rw [status]
        nofun

theorem errored_of_error {calculator next : TestResultCalculator}
    (notified : calculator.notify .error = .ok next) : next.Errored := by
  have still := (notify_not_finalized notified).2
  simp only [Errored, still, Bool.false_eq_true, ↓reduceIte]
  rcases notify_eq_ok notified with
    ⟨same, _⟩ | ⟨same, _⟩ | ⟨_, _, rfl⟩ | ⟨same, _⟩ | ⟨rfl, known, _⟩
  · cases same
  · cases same
  · nofun
  · cases same
  · exact known (Or.inr rfl)

theorem failed_of_failureDiagnosis {calculator next : TestResultCalculator}
    (sound : calculator.Sound) (notified : calculator.notify .failureDiagnosis = .ok next) :
    next.Failed := by
  obtain ⟨running, still⟩ := notify_not_finalized notified
  simp only [Failed, still, Bool.false_eq_true, ↓reduceIte]
  intro unknown
  rcases notify_eq_ok notified with
    ⟨same, _⟩ | ⟨same, _⟩ | ⟨same, _⟩ | ⟨_, _, _, rfl⟩ | ⟨rfl, _, other⟩
  · cases same
  · cases same
  · cases same
  · rfl
  · have notPass := (sound.running running).2.1
    have notNone : next.result ≠ .notApplicable := fun nothing => other rfl ⟨nothing, unknown⟩
    cases result : next.result with
    | notApplicable => exact absurd result notNone
    | pass => exact absurd result notPass
    | fail => rfl

end TestResultCalculator

namespace Process

def ErrorReported (process : Process) : Prop :=
  ∃ artifact ∈ process.artifacts, artifact.isError = true

def FailureDiagnosed (process : Process) : Prop :=
  ∃ artifact ∈ process.artifacts, artifact.isFailure = true

structure Concluded (process : Process) : Prop where
  sound : process.calculator.Sound
  failures : process.FailureDiagnosed → process.calculator.Failed
  ended : ∀ testRunEnd, .testRunArtifact (.testRunEnd testRunEnd) ∈ process.artifacts →
    process.calculator.finalized = true ∧
      testRunEnd = ⟨process.calculator.status.toProto, process.calculator.result.toProto⟩

/-- What is known of the outcome where a thread is. -/
def Knows (process : Process) : Frame → Prop
  | .run .notifyPreStartError => process.ErrorReported
  | .run .readStatus => process.calculator.finalized = true
  | .run (.readResult status) =>
      process.calculator.finalized = true ∧ status = process.calculator.status
  | .run (.emitEnd status result) => process.calculator.finalized = true ∧
      status = process.calculator.status ∧ result = process.calculator.result
  | .step _ (.notifyFailureDiagnosis added) =>
      added.variant.isError = false ∧ added.variant.isFailure = true
  | .step _ (.setError added) | .step _ (.notifyError added) =>
      added.variant.isError = true ∧ added.variant.isFailure = false
  | .step _ (.checkEnded added _) | .step _ (.assignIdAndEmit added _) =>
      (added.variant.isError = true → process.calculator.Errored) ∧
        (added.variant.isFailure = true → process.calculator.Failed)
  | _ => True

/-- What every step leaves: the stream grows, and the calculator goes on. -/
structure GoesOn (before after : Process) : Prop where
  artifacts : ∃ added, after.artifacts = before.artifacts ++ added
  calculator : before.calculator.Updates after.calculator

section

variable {process next : Process} {frame after : Frame}

theorem Adds.goesOn {added : List Pb.OutputVariant} (adds : process.Adds next added) :
    process.GoesOn next :=
  ⟨⟨added, adds.artifacts⟩, adds.calculator ▸ .same⟩

theorem Notifies.goesOn {event : Notification} (notifies : process.Notifies next event) :
    process.GoesOn next :=
  ⟨⟨[], by rw [notifies.artifacts, List.append_nil]⟩, .notify event _ notifies.notified⟩

theorem Reports.goesOn (reports : process.Reports next frame after) : process.GoesOn next := by
  cases reports with
  | sink _ added plain adds => exact adds.goesOn
  | quiet _ _ added before later plain adds => exact adds.goesOn
  | notifies _ _ event before later which notifies => exact notifies.goesOn
  | dies _ message added plain adds => exact adds.goesOn
  | delivers message added plain adds => exact adds.goesOn
  | enters ref entered reported adds => exact adds.goesOn
  | setError ref added adds => exact adds.goesOn
  | notifyError ref added notifies => exact notifies.goesOn
  | notifyFailureDiagnosis ref added notifies => exact notifies.goesOn
  | checkEnded ref added fatal adds => exact adds.goesOn
  | assignIdAndEmit ref added fatal _ ends adds => exact adds.goesOn
  | writePreStartError error adds => exact adds.goesOn
  | notifyPreStartError notifies => exact notifies.goesOn
  | finalize same running finished =>
      exact ⟨⟨[], by rw [same, List.append_nil]⟩, finished ▸ .finish running⟩
  | readStatus adds => exact adds.goesOn
  | readResult status adds => exact adds.goesOn
  | emitEnd status result adds => exact adds.goesOn

theorem ErrorReported.goesOn (grows : process.GoesOn next) (reported : process.ErrorReported) :
    next.ErrorReported := by
  obtain ⟨artifact, member, isError⟩ := reported
  obtain ⟨added, artifacts⟩ := grows.artifacts
  exact ⟨artifact, artifacts ▸ List.mem_append_left added member, isError⟩

theorem FailureDiagnosed.goesOn (grows : process.GoesOn next)
    (diagnosed : process.FailureDiagnosed) : next.FailureDiagnosed := by
  obtain ⟨artifact, member, isFailure⟩ := diagnosed
  obtain ⟨added, artifacts⟩ := grows.artifacts
  exact ⟨artifact, artifacts ▸ List.mem_append_left added member, isFailure⟩

theorem GoesOn.final (grows : process.GoesOn next)
    (final : process.calculator.finalized = true) : next.calculator = process.calculator :=
  grows.calculator.final final

/-- What a thread knows stays true while the others go on. -/
theorem knows_of_goesOn (concluded : process.Concluded) (grows : process.GoesOn next)
    (knows : process.Knows frame) : next.Knows frame := by
  have counted : ∀ added : AddedArtifact,
      ((added.variant.isError = true → process.calculator.Errored) ∧
        (added.variant.isFailure = true → process.calculator.Failed)) →
      (added.variant.isError = true → next.calculator.Errored) ∧
        (added.variant.isFailure = true → next.calculator.Failed) := fun added both =>
    ⟨fun isError => grows.calculator.errored concluded.sound (both.1 isError),
      fun isFailure => grows.calculator.failed concluded.sound (both.2 isFailure)⟩
  cases frame with
  | run frame =>
      cases frame with
      | notifyPreStartError => exact ErrorReported.goesOn grows knows
      | readStatus =>
          have same := grows.final knows
          simp only [Knows, same]
          exact knows
      | readResult status =>
          have same := grows.final knows.1
          simp only [Knows, same]
          exact knows
      | emitEnd status result =>
          have same := grows.final knows.1
          simp only [Knows, same]
          exact knows
      | _ => trivial
  | step ref frame =>
      cases frame with
      | notifyFailureDiagnosis added => exact knows
      | setError added => exact knows
      | notifyError added => exact knows
      | checkEnded added fatal => exact counted added knows
      | assignIdAndEmit added fatal => exact counted added knows
      | _ => trivial
  | _ => trivial

theorem knows_of_plain (plain : frame.plain = true) : process.Knows frame := by
  cases frame with
  | run inner => cases inner <;> trivial
  | step ref inner => cases inner <;> trivial
  | _ => trivial

/-- A step keeps what is concluded, given what it adds to the stream. -/
theorem concluded_of_goesOn {added : List Pb.OutputVariant} (concluded : process.Concluded)
    (grows : process.GoesOn next) (artifacts : next.artifacts = process.artifacts ++ added)
    (failing : ∀ artifact ∈ added, artifact.isFailure = true → next.calculator.Failed)
    (ended : ∀ testRunEnd, .testRunArtifact (.testRunEnd testRunEnd) ∈ added →
      next.calculator.finalized = true ∧
        testRunEnd = ⟨next.calculator.status.toProto, next.calculator.result.toProto⟩) :
    next.Concluded := by
  refine ⟨grows.calculator.sound concluded.sound, ?_, ?_⟩
  · rintro ⟨artifact, member, isFailure⟩
    rw [artifacts, List.mem_append] at member
    rcases member with earlier | new
    · exact grows.calculator.failed concluded.sound
        (concluded.failures ⟨artifact, earlier, isFailure⟩)
    · exact failing artifact new isFailure
  · intro testRunEnd member
    rw [artifacts, List.mem_append] at member
    rcases member with earlier | new
    · obtain ⟨final, same⟩ := concluded.ended testRunEnd earlier
      rw [grows.final final]
      exact ⟨final, same⟩
    · exact ended testRunEnd new

/-- Artifacts that have nothing to do with the outcome. -/
theorem concluded_of_plain {added : List Pb.OutputVariant} (concluded : process.Concluded)
    (grows : process.GoesOn next) (artifacts : next.artifacts = process.artifacts ++ added)
    (plain : ∀ artifact ∈ added, artifact.plain = true) : next.Concluded := by
  refine concluded_of_goesOn concluded grows artifacts ?_ ?_
  · intro artifact new isFailure
    have harmless := plain artifact new
    simp [Pb.OutputVariant.plain, isFailure] at harmless
  · intro testRunEnd new
    cases plain _ new

theorem reports_concluded (concluded : process.Concluded) (knows : process.Knows frame)
    (reports : process.Reports next frame after) : next.Concluded ∧ next.Knows after := by
  have grows := reports.goesOn
  cases reports with
  | sink _ added plain adds =>
      exact ⟨concluded_of_plain concluded grows adds.artifacts plain,
        knows_of_goesOn concluded grows knows⟩
  | quiet _ _ added before later plain adds =>
      exact ⟨concluded_of_plain concluded grows adds.artifacts plain, knows_of_plain later⟩
  | notifies _ _ event before later which notifies =>
      exact ⟨concluded_of_plain concluded grows (notifies.artifacts.trans (List.append_nil _).symm)
        (fun _ member => by cases member), knows_of_plain later⟩
  | dies _ message added plain adds =>
      exact ⟨concluded_of_plain concluded grows adds.artifacts plain, trivial⟩
  | delivers message added plain adds =>
      exact ⟨concluded_of_plain concluded grows adds.artifacts plain, trivial⟩
  | enters ref entered reported adds =>
      refine ⟨concluded_of_plain concluded grows adds.artifacts
        (fun _ member => by cases member), ?_⟩
      cases reported with
      | checkEnded added fatal noError passes =>
          refine ⟨fun isError => ?_, fun isFailure => ?_⟩
          · rw [noError] at isError
            cases isError
          · rw [passes] at isFailure
            cases isFailure
      | notifyFailureDiagnosis added noError isFailure => exact ⟨noError, isFailure⟩
      | setError added isError passes => exact ⟨isError, passes⟩
  | setError ref added adds =>
      exact ⟨concluded_of_plain concluded grows adds.artifacts (fun _ member => by cases member),
        knows⟩
  | notifyError ref added notifies =>
      refine ⟨concluded_of_plain concluded grows
        (notifies.artifacts.trans (List.append_nil _).symm) (fun _ member => by cases member),
        fun _ => TestResultCalculator.errored_of_error notifies.notified, fun isFailure => ?_⟩
      rw [knows.2] at isFailure
      cases isFailure
  | notifyFailureDiagnosis ref added notifies =>
      refine ⟨concluded_of_plain concluded grows
        (notifies.artifacts.trans (List.append_nil _).symm) (fun _ member => by cases member),
        fun isError => ?_, fun _ =>
          TestResultCalculator.failed_of_failureDiagnosis concluded.sound notifies.notified⟩
      rw [knows.1] at isError
      cases isError
  | checkEnded ref added fatal adds =>
      have kept : next.Knows (.step ref (.checkEnded added fatal)) :=
        knows_of_goesOn concluded grows knows
      exact ⟨concluded_of_plain concluded grows adds.artifacts
        (fun _ member => by cases member), kept⟩
  | assignIdAndEmit ref added fatal _ ends adds =>
      refine ⟨concluded_of_goesOn concluded grows adds.artifacts ?_ ?_, ?_⟩
      · intro artifact new isFailure
        obtain rfl := List.mem_singleton.mp new
        rw [adds.calculator]
        exact knows.2 isFailure
      · intro testRunEnd new
        cases List.mem_singleton.mp new
      · rcases ends with rfl | ⟨message, rfl⟩ <;> trivial
  | writePreStartError error adds =>
      refine ⟨concluded_of_goesOn concluded grows adds.artifacts ?_ ?_,
        ⟨_, adds.artifacts ▸ List.mem_append_right _ List.mem_cons_self, rfl⟩⟩
      · intro artifact new isFailure
        cases List.mem_singleton.mp new
        cases isFailure
      · intro testRunEnd new
        cases List.mem_singleton.mp new
  | notifyPreStartError notifies =>
      exact ⟨concluded_of_plain concluded grows (notifies.artifacts.trans (List.append_nil _).symm)
        (fun _ member => by cases member), trivial⟩
  | finalize same running finished =>
      refine ⟨concluded_of_plain concluded grows (same.trans (List.append_nil _).symm)
        (fun _ member => by cases member), ?_⟩
      simp only [Knows, finished, TestResultCalculator.finish_finalized]
  | readStatus adds =>
      refine ⟨concluded_of_plain concluded grows adds.artifacts
        (fun _ member => by cases member), ?_⟩
      simp only [Knows, adds.calculator, and_true]
      exact knows
  | readResult status adds =>
      refine ⟨concluded_of_plain concluded grows adds.artifacts
        (fun _ member => by cases member), ?_⟩
      simp only [Knows, adds.calculator, and_true]
      exact knows
  | emitEnd status result adds =>
      refine ⟨concluded_of_goesOn concluded grows adds.artifacts ?_ ?_, trivial⟩
      · intro artifact new isFailure
        cases List.mem_singleton.mp new
        cases isFailure
      · intro testRunEnd new
        cases List.mem_singleton.mp new
        obtain ⟨final, rfl, rfl⟩ := knows
        rw [adds.calculator]
        exact ⟨final, rfl⟩

/-- The points at which a written error has still to be counted. -/
def OwesCount : Frame → Prop
  | .run .notifyPreStartError | .dying _ | .aborting => True
  | _ => False

/-- The points at which a counted error, or failure, has still to be written. -/
def OwesArtifact (kind : Pb.TestStepVariant → Bool) : Frame → Prop
  | .step _ (.checkEnded added _) | .step _ (.assignIdAndEmit added _) => kind added.variant = true
  | .dying _ | .aborting => True
  | _ => False

theorem not_owesCount_of_plain (plain : frame.plain = true) : ¬ OwesCount frame := by
  cases frame with
  | run inner => cases inner <;> first | exact id | cases plain
  | dying message => cases plain
  | aborting => cases plain
  | _ => exact id

theorem not_owesArtifact_of_plain {kind : Pb.TestStepVariant → Bool} (plain : frame.plain = true) :
    ¬ OwesArtifact kind frame := by
  cases frame with
  | step ref inner => cases inner <;> first | exact id | cases plain
  | dying message => cases plain
  | aborting => cases plain
  | _ => exact id

/-- A stream that has an error of its own after plain artifacts had it before. -/
theorem errorReported_of_adds {added : List Pb.OutputVariant} (adds : process.Adds next added)
    (plain : ∀ artifact ∈ added, artifact.isError = false) (reported : next.ErrorReported) :
    process.ErrorReported := by
  obtain ⟨artifact, member, isError⟩ := reported
  rw [adds.artifacts, List.mem_append] at member
  rcases member with earlier | new
  · exact ⟨artifact, earlier, isError⟩
  · rw [plain artifact new] at isError
    cases isError

theorem noError_of_plain {added : List Pb.OutputVariant}
    (plain : ∀ artifact ∈ added, artifact.plain = true) :
    ∀ artifact ∈ added, artifact.isError = false := by
  intro artifact member
  have harmless := plain artifact member
  simp only [Pb.OutputVariant.plain, Bool.and_eq_true, Bool.not_eq_true'] at harmless
  exact harmless.1.1

/-- A written error is counted, or its thread is about to. -/
theorem reports_counts (concluded : process.Concluded) (knows : process.Knows frame)
    (reports : process.Reports next frame after) :
    (process.calculator.Errored → next.calculator.Errored) ∧
    (OwesCount frame → next.calculator.Errored ∨ OwesCount after) ∧
    (next.ErrorReported →
      process.ErrorReported ∨ next.calculator.Errored ∨ OwesCount after) := by
  have kept := reports.goesOn.calculator.errored concluded.sound
  refine ⟨kept, ?_, ?_⟩
  · intro owes
    cases reports with
    | sink _ added plain adds => exact Or.inr owes
    | quiet _ _ added before later plain adds => exact absurd owes (not_owesCount_of_plain before)
    | notifies _ _ event before later which notifies =>
        exact absurd owes (not_owesCount_of_plain before)
    | dies _ message added plain adds => exact Or.inr trivial
    | delivers message added plain adds => exact Or.inr trivial
    | notifyPreStartError notifies =>
        exact Or.inl (TestResultCalculator.errored_of_error notifies.notified)
    | _ => cases owes
  · intro reported
    have earlier : ∀ {added}, process.Adds next added →
        (∀ artifact ∈ added, artifact.isError = false) →
        process.ErrorReported ∨ next.calculator.Errored ∨ OwesCount after :=
      fun adds plain => Or.inl (errorReported_of_adds adds plain reported)
    have same : next.artifacts = process.artifacts →
        process.ErrorReported ∨ next.calculator.Errored ∨ OwesCount after := by
      intro artifacts
      obtain ⟨artifact, member, isError⟩ := reported
      exact Or.inl ⟨artifact, artifacts ▸ member, isError⟩
    cases reports with
    | sink _ added plain adds => exact earlier adds (noError_of_plain plain)
    | quiet _ _ added before later plain adds => exact earlier adds (noError_of_plain plain)
    | notifies _ _ event before later which notifies => exact same notifies.artifacts
    | dies _ message added plain adds => exact Or.inr (Or.inr trivial)
    | delivers message added plain adds => exact Or.inr (Or.inr trivial)
    | notifyError ref added notifies => exact same notifies.artifacts
    | notifyFailureDiagnosis ref added notifies => exact same notifies.artifacts
    | assignIdAndEmit ref added fatal _ ends adds =>
        cases isError : added.variant.isError with
        | true => exact Or.inr (Or.inl (adds.calculator ▸ knows.1 isError))
        | false =>
            refine earlier adds fun artifact member => ?_
            obtain rfl := List.mem_singleton.mp member
            exact isError
    | writePreStartError error adds => exact Or.inr (Or.inr trivial)
    | notifyPreStartError notifies => exact same notifies.artifacts
    | finalize artifacts running finished => exact same artifacts
    | emitEnd status result adds =>
        refine earlier adds fun artifact member => ?_
        cases List.mem_singleton.mp member
        rfl
    | _ =>
        rename_i adds
        exact earlier adds fun _ member => by cases member

/-- What the calculator has counted of an event is written, or its thread is about to. -/
theorem reports_writes (counted : TestResultCalculator → Prop) (event : Notification)
    (kind : Pb.TestStepVariant → Bool) (written : Process → Prop)
    (writes : ∀ ref added, kind added = true →
      process.Adds next [TestStep.artifact ref added] → written next)
    (fresh : ∀ other, process.calculator.notify other = .ok next.calculator →
      counted next.calculator → counted process.calculator ∨ other = event)
    (finished : counted process.calculator.finish → counted process.calculator)
    (reported : event = .error ∨ event = .failureDiagnosis)
    (preStart : frame = .run .notifyPreStartError → event = .error → written next)
    (error : ∀ ref added, frame = .step ref (.notifyError added) → event = .error →
      kind added.variant = true)
    (failure : ∀ ref added, frame = .step ref (.notifyFailureDiagnosis added) →
      event = .failureDiagnosis → kind added.variant = true)
    (reports : process.Reports next frame after) :
    (OwesArtifact kind frame → written next ∨ OwesArtifact kind after) ∧
    (counted next.calculator →
      counted process.calculator ∨ written next ∨ OwesArtifact kind after) := by
  constructor
  · intro owes
    cases reports with
    | sink _ added plain adds => exact Or.inr owes
    | quiet _ _ added before later plain adds =>
        exact absurd owes (not_owesArtifact_of_plain before)
    | notifies _ _ event before later which notifies =>
        exact absurd owes (not_owesArtifact_of_plain before)
    | dies _ message added plain adds => exact Or.inr trivial
    | delivers message added plain adds => exact Or.inr trivial
    | checkEnded ref added fatal adds => exact Or.inr owes
    | assignIdAndEmit ref added fatal _ ends adds =>
        exact Or.inl (writes ref added.variant owes adds)
    | _ => cases owes
  · intro now
    have same : next.calculator = process.calculator →
        counted process.calculator ∨ written next ∨ OwesArtifact kind after :=
      fun calculator => Or.inl (calculator ▸ now)
    cases reports with
    | notifies _ _ other before later which notifies =>
        rcases fresh other notifies.notified now with earlier | rfl
        · exact Or.inl earlier
        · rcases which with rfl | rfl <;> rcases reported with same | same <;> cases same
    | notifyError ref added notifies =>
        rcases fresh .error notifies.notified now with earlier | same
        · exact Or.inl earlier
        · exact Or.inr (Or.inr (error ref added rfl same.symm))
    | notifyFailureDiagnosis ref added notifies =>
        rcases fresh .failureDiagnosis notifies.notified now with earlier | same
        · exact Or.inl earlier
        · exact Or.inr (Or.inr (failure ref added rfl same.symm))
    | notifyPreStartError notifies =>
        rcases fresh .error notifies.notified now with earlier | same
        · exact Or.inl earlier
        · exact Or.inr (Or.inl (preStart rfl same.symm))
    | finalize artifacts running finishes => exact Or.inl (finished (finishes ▸ now))
    | sink _ _ _ adds | quiet _ _ _ _ _ _ adds | dies _ _ _ _ adds | delivers _ _ _ adds
    | enters _ _ _ adds | setError _ _ adds | checkEnded _ _ _ adds
    | assignIdAndEmit _ _ _ _ _ adds | writePreStartError _ adds | readStatus adds
    | readResult _ adds | emitEnd _ _ adds => exact same adds.calculator

theorem reports_error (knows : process.Knows frame)
    (reports : process.Reports next frame after) :
    (OwesArtifact (·.isError) frame → next.ErrorReported ∨ OwesArtifact (·.isError) after) ∧
    (next.calculator.status = .error → process.calculator.status = .error ∨
      next.ErrorReported ∨ OwesArtifact (·.isError) after) := by
  have grows := reports.goesOn
  refine reports_writes (·.status = .error) .error (·.isError) ErrorReported ?_ ?_ ?_ (Or.inl rfl)
    ?_ ?_ ?_ reports
  · intro ref added isError adds
    exact ⟨TestStep.artifact ref added, adds.artifacts ▸ List.mem_append_right _ List.mem_cons_self,
      isError⟩
  · intro other notified now
    rcases TestResultCalculator.notify_eq_ok notified with ⟨_, same⟩ | ⟨_, _, same⟩ | ⟨rfl, _⟩ |
      ⟨_, _, _, same⟩ | ⟨same, _⟩
    · exact Or.inl (by rwa [same] at now)
    · rw [same] at now
      cases now
    · exact Or.inr rfl
    · exact Or.inl (by rwa [same] at now)
    · exact Or.inl (same ▸ now)
  · intro now
    obtain ⟨_, cases⟩ := TestResultCalculator.finish_cases process.calculator
    rcases cases with ⟨_, _, status, _⟩ | ⟨_, _, status, _⟩ | ⟨_, _, status, _⟩ | ⟨_, failed, _⟩
    · rw [status] at now
      cases now
    · exact status ▸ now
    · rw [status] at now
      cases now
    · exact failed
  · rintro rfl _
    exact ErrorReported.goesOn grows knows
  · rintro ref added rfl _
    exact knows.1
  · rintro ref added rfl same
    cases same

theorem reports_failure (knows : process.Knows frame)
    (reports : process.Reports next frame after) :
    (OwesArtifact (·.isFailure) frame →
      next.FailureDiagnosed ∨ OwesArtifact (·.isFailure) after) ∧
    (next.calculator.result = .fail → process.calculator.result = .fail ∨
      next.FailureDiagnosed ∨ OwesArtifact (·.isFailure) after) := by
  refine reports_writes (·.result = .fail) .failureDiagnosis (·.isFailure) FailureDiagnosed ?_ ?_ ?_
    (Or.inr rfl) ?_ ?_ ?_ reports
  · intro ref added isFailure adds
    exact ⟨TestStep.artifact ref added, adds.artifacts ▸ List.mem_append_right _ List.mem_cons_self,
      isFailure⟩
  · intro other notified now
    rcases TestResultCalculator.notify_eq_ok notified with ⟨_, same⟩ | ⟨_, _, same⟩ |
      ⟨_, _, same⟩ | ⟨rfl, _⟩ | ⟨same, _⟩
    · exact Or.inl (by rwa [same] at now)
    · rw [same] at now
      cases now
    · rw [same] at now
      cases now
    · exact Or.inr rfl
    · exact Or.inl (same ▸ now)
  · intro now
    obtain ⟨_, cases⟩ := TestResultCalculator.finish_cases process.calculator
    rcases cases with ⟨_, _, _, result⟩ | ⟨_, _, _, result⟩ | ⟨_, _, _, result⟩ | ⟨_, _, _, result⟩
    · rw [result] at now
      split at now
      · cases now
      · exact now
    · exact result ▸ now
    · rw [result] at now
      cases now
    · exact result ▸ now
  · rintro rfl same
    cases same
  · rintro ref added rfl same
    cases same
  · rintro ref added rfl _
    exact knows.2

end

/-- The artifacts and the calculator agree but for what the threads are about to do. -/
structure Agrees (pool : Pool Process Frame) : Prop where
  outline : Outline Concluded (fun process _ frame => process.Knows frame) pool
  errors : Backed ErrorReported (·.calculator.Errored) OwesCount pool
  status : Backed (·.calculator.status = .error) ErrorReported (OwesArtifact (·.isError)) pool
  result : Backed (·.calculator.result = .fail) FailureDiagnosed (OwesArtifact (·.isFailure)) pool

theorem agrees_initial (testRunStart : TestRunStart) : Agrees (initialPool testRunStart) := by
  refine ⟨⟨⟨?_, ?_, ?_⟩, fun _ => trivial⟩, ?_, ?_, ?_⟩
  · exact TestResultCalculator.sound_of_running rfl nofun nofun fun _ => rfl
  · rintro ⟨_, member, _⟩
    cases member
  · intro _ member
    cases member
  · rintro ⟨_, member, _⟩
    cases member
  · nofun
  · nofun

theorem agrees_step (settings : Settings) (pool : Pool Process Frame)
    (label : ThreadId × Label) (final : Pool Process Frame) (agrees : Agrees pool)
    (stepped : systemStep settings pool label = some final) : Agrees final := by
  have reports : ∀ next after,
      exec settings label.2 label.1 pool.shared (pool.frames label.1) = some (next, after) →
      pool.shared.Reports next (pool.frames label.1) after := fun next after taken =>
    reports_of_moves (moves_of_exec _ _ _ _ _ _ _ taken)
  have concluded := agrees.outline.shared
  have knows := agrees.outline.threads label.1
  refine ⟨?_, ?_, ?_, ?_⟩
  · refine outline_of_guarantee _ (fun _ => GoesOn) pool final label agrees.outline stepped ?_ ?_
    · intro next after taken
      obtain ⟨kept, known⟩ := reports_concluded concluded knows (reports next after taken)
      exact ⟨kept, known, (reports next after taken).goesOn⟩
    · exact fun _ _ _ grows known => knows_of_goesOn concluded grows known
  · exact backed_step agrees.errors stepped fun next after taken =>
      reports_counts concluded knows (reports next after taken)
  · exact backed_step agrees.status stepped fun next after taken =>
      ⟨ErrorReported.goesOn (reports next after taken).goesOn,
        reports_error knows (reports next after taken)⟩
  · exact backed_step agrees.result stepped fun next after taken =>
      ⟨FailureDiagnosed.goesOn (reports next after taken).goesOn,
        reports_failure knows (reports next after taken)⟩

end Process

theorem TestStatus.toProto_inj {first second : TestStatus} :
    first.toProto = second.toProto ↔ first = second := by
  cases first <;> cases second <;> simp [toProto]

theorem TestResult.toProto_inj {first second : TestResult} :
    first.toProto = second.toProto ↔ first = second := by
  cases first <;> cases second <;> simp [toProto]

/-- Once no call is under way, the TestRunEnd tells exactly what is in the stream: it is ERROR
only with an Error, COMPLETE only without one, and then FAIL or PASS as there is a failure
Diagnosis or not; otherwise there is no result. -/
theorem outcome_exact (settings : Settings) (testRunStart : TestRunStart)
    (labels : List (ThreadId × Label)) (final : Pool Process Frame)
    (reached : Runs.run (systemStep settings) (initialPool testRunStart) labels = some final)
    (atRest : ∀ thread, final.frames thread = .idle) (testRunEnd : Pb.TestRunEnd)
    (written : .testRunArtifact (.testRunEnd testRunEnd) ∈ final.shared.artifacts) :
    (testRunEnd.status = .ERROR → final.shared.ErrorReported) ∧
    (testRunEnd.status = .COMPLETE → ¬ final.shared.ErrorReported) ∧
    (testRunEnd.result = .FAIL ↔
      testRunEnd.status = .COMPLETE ∧ final.shared.FailureDiagnosed) ∧
    (testRunEnd.result = .PASS ↔
      testRunEnd.status = .COMPLETE ∧ ¬ final.shared.FailureDiagnosed) ∧
    testRunEnd.status ≠ .UNKNOWN := by
  have agrees := Runs.run_preserves _ Process.Agrees (Process.agrees_step settings) _ final labels
    (Process.agrees_initial testRunStart) reached
  obtain ⟨finalized, rfl⟩ := agrees.outline.shared.ended testRunEnd written
  obtain ⟨known, completed, incomplete⟩ := agrees.outline.shared.sound.final finalized
  have nothingOwed : ∀ kind thread, ¬ Process.OwesArtifact kind (final.frames thread) := by
    intro kind thread
    rw [atRest thread]
    exact id
  have error := agrees.status.paid_of_rest (nothingOwed _)
  have failure := agrees.result.paid_of_rest (nothingOwed _)
  have counted : final.shared.ErrorReported → final.shared.calculator.status ≠ .complete := by
    intro reported
    have errored := agrees.errors.paid_of_rest (fun thread => by rw [atRest thread]; exact id)
      reported
    simpa only [TestResultCalculator.Errored, finalized, ↓reduceIte] using errored
  have failed : final.shared.FailureDiagnosed → final.shared.calculator.status = .complete →
      final.shared.calculator.result = .fail := by
    intro diagnosed
    simpa only [TestResultCalculator.Failed, finalized, ↓reduceIte] using
      agrees.outline.shared.failures diagnosed
  have complete : ∀ result, result ≠ .notApplicable →
      final.shared.calculator.result = result → final.shared.calculator.status = .complete := by
    intro result applicable same
    by_contra other
    exact applicable (same ▸ incomplete other)
  have statusIs : ∀ status : TestStatus,
      final.shared.calculator.status.toProto = status.toProto ↔
        final.shared.calculator.status = status := fun _ => TestStatus.toProto_inj
  have resultIs : ∀ result : TestResult,
      final.shared.calculator.result.toProto = result.toProto ↔
        final.shared.calculator.result = result := fun _ => TestResult.toProto_inj
  refine ⟨fun same => error ((statusIs .error).mp same),
    fun same reported => counted reported ((statusIs .complete).mp same), ⟨?_, ?_⟩, ⟨?_, ?_⟩,
    fun same => known ((statusIs .unknown).mp same)⟩
  · intro same
    have fails := (resultIs .fail).mp same
    exact ⟨(statusIs .complete).mpr (complete .fail nofun fails), failure fails⟩
  · rintro ⟨same, diagnosed⟩
    exact (resultIs .fail).mpr (failed diagnosed ((statusIs .complete).mp same))
  · intro same
    have passes := (resultIs .pass).mp same
    have whole := complete .pass nofun passes
    refine ⟨(statusIs .complete).mpr whole, fun diagnosed => ?_⟩
    rw [failed diagnosed whole] at passes
    cases passes
  · rintro ⟨same, undiagnosed⟩
    refine (resultIs .pass).mpr ?_
    cases result : final.shared.calculator.result with
    | notApplicable => exact absurd result (completed ((statusIs .complete).mp same))
    | pass => rfl
    | fail => exact absurd (failure result) undiagnosed

/-- A step reports a failure, and the run is brought to its end. -/
def failingLabels : List (ThreadId × Label) :=
  sampleStart ++ callLabels 0 (.newTestStep "fans") 2 ++
    callLabels 0 (.addDiagnosis 0 { verdict := "stuck", type := .fail }) 3 ++
    callLabels 0 (.deleteTestStep 0) 2 ++ callLabels 0 .deleteTestRun 8

theorem outcome_exact_failingLabels :
    ∃ final, Runs.run (systemStep sampleSettings) (initialPool sampleTestRunStart) failingLabels =
        some final ∧
      .testRunArtifact (.testRunEnd ⟨.COMPLETE, .FAIL⟩) ∈ final.shared.artifacts ∧
      final.shared.FailureDiagnosed ∧ ¬ final.shared.ErrorReported := by
  obtain ⟨final, reached, returned, written⟩ :
      ∃ final, Runs.run (systemStep sampleSettings) (initialPool sampleTestRunStart) failingLabels =
          some final ∧ final.frames 0 = .idle ∧
        .testRunArtifact (.testRunEnd ⟨.COMPLETE, .FAIL⟩) ∈ final.shared.artifacts :=
    ⟨_, rfl, rfl, List.mem_of_getElem? (i := 5) rfl⟩
  have only : callers failingLabels = {0} := by decide
  have outside := outsideIdle_of_run sampleSettings sampleTestRunStart failingLabels final reached
  have atRest : ∀ thread, final.frames thread = .idle := by
    intro thread
    by_cases same : thread = 0
    · rw [same, returned]
    · exact outside thread (by simpa only [only, Finset.mem_singleton] using same)
  have told := outcome_exact sampleSettings sampleTestRunStart failingLabels final reached atRest
    ⟨.COMPLETE, .FAIL⟩ written
  exact ⟨final, reached, written, (told.2.2.1.mp rfl).2, told.2.1 rfl⟩

end OcpDiag.Results
