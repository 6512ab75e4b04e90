import OcpDiag.Results.StepBracketing

set_option autoImplicit false

/- The status of one step. `status_` and the artifacts change under the step's mutex, but not in
one critical section: an error is recorded before its artifact, and a skip before its end. -/
namespace OcpDiag.Results

open ThreadPool

namespace Pb

def TestStepVariant.isError : TestStepVariant → Bool
  | .error _ => true
  | _ => false

end Pb

/-- Neither an end nor an error. -/
def Pb.TestStepVariant.quiet (variant : Pb.TestStepVariant) : Bool :=
  !variant.isEnd && !variant.isError

/-- Skip() has been called on the step. -/
def SkipCalled (ref : StepRef) (history : List (ThreadId × Label)) : Prop :=
  ∃ label ∈ history, label.2.action = .call (.skipTestStep ref)

theorem skipCalled_append {ref : StepRef} {history : List (ThreadId × Label)}
    (later : List (ThreadId × Label)) (called : SkipCalled ref history) :
    SkipCalled ref (history ++ later) := by
  obtain ⟨label, member, skips⟩ := called
  exact ⟨label, List.mem_append_left later member, skips⟩

/-- What the end of a step tells of the artifacts before it. -/
structure EndTruthful (skipped : Prop) (before : List Pb.TestStepVariant)
    (status : Pb.TestStatus) : Prop where
  first : Unended before
  known : status ≠ .UNKNOWN
  error : ∀ earlier ∈ before, earlier.isError = true → status = .ERROR
  skip : status = .SKIP → skipped ∧ ∀ earlier ∈ before, earlier.isError = false

/-- Every end in the artifacts of a step is truthful. -/
def EndsTruthful (skipped : Prop) : List Pb.TestStepVariant → Prop :=
  Trace.EachAfter fun before variant =>
    ∀ testStepEnd, variant = .testStepEnd testStepEnd →
      EndTruthful skipped before testStepEnd.status

theorem EndsTruthful.mono {before after : Prop} {trace : List Pb.TestStepVariant}
    (weaker : before → after) (truthful : EndsTruthful before trace) :
    EndsTruthful after trace := by
  refine Trace.EachAfter.mono truthful fun earlier variant each testStepEnd same => ?_
  have here := each testStepEnd same
  exact ⟨here.first, here.known, here.error, fun skip => ⟨weaker (here.skip skip).1, (here.skip skip).2⟩⟩

theorem endsTruthful_snoc {skipped : Prop} {trace : List Pb.TestStepVariant}
    {variant : Pb.TestStepVariant} (truthful : EndsTruthful skipped trace)
    (plain : variant.isEnd = false) : EndsTruthful skipped (trace ++ [variant]) := by
  refine (Trace.eachAfter_snoc _ _).mpr ⟨truthful, fun testStepEnd same => ?_⟩
  subst same
  cases plain

/-- A trace with truthful ends has one of them at most. -/
theorem EndsTruthful.one_end {skipped : Prop} {trace : List Pb.TestStepVariant}
    (truthful : EndsTruthful skipped trace) :
    (trace.filter (·.isEnd)).length ≤ 1 := by
  induction trace using List.reverseRecOn with
  | nil => exact Nat.zero_le 1
  | append_singleton before last ih =>
      obtain ⟨earlier, here⟩ := (Trace.eachAfter_snoc _ _).mp truthful
      cases last with
      | testStepEnd testStepEnd =>
          have unended := (here testStepEnd rfl).first
          have nothing : before.filter (·.isEnd) = [] :=
            List.filter_eq_nil_iff.mpr fun variant member => by simp [unended variant member]
          rw [List.filter_append, nothing]
          exact Nat.le_refl 1
      | _ =>
          rw [List.filter_append, List.length_append]
          exact ih earlier

namespace TestStep

/-- Status(). The call waits while a thread has the mutex. -/
def readStatus (step : TestStep) : Option TestStatus :=
  match step.mutex with
  | some _ => none
  | none => some step.status

/-- The status of a step, by the artifacts it has written. -/
structure Truthful (skipped : Prop) (step : TestStep) (trace : List Pb.TestStepVariant) :
    Prop where
  fresh : step.lifetime.constructed = false →
    step.ended = false ∧ step.status = .unknown ∧ ∀ variant ∈ trace, variant.quiet = true
  error : ∀ variant ∈ trace, variant.isError = true → step.status = .error
  ended : step.ended = false → Unended trace
  closed : step.ended = true → step.status ≠ .unknown
  skip : step.status = .skip → skipped
  ends : EndsTruthful skipped trace

/-- What a thread knows of the status where it is in a call. -/
def Frame.Tells (skipped : Prop) (step : TestStep) (trace : List Pb.TestStepVariant) :
    Frame → Prop
  | .notifyFailureDiagnosis added => added.variant.isError = false
  | .notifyError added | .checkEnded added _ | .assignIdAndEmit added _ =>
      added.variant.isError = true → step.status = .error
  | .skip => skipped
  | .emitEnd _ => step.ended = true ∧ Unended trace
  | _ => True

variable {skipped : Prop} {step next : TestStep} {trace : List Pb.TestStepVariant}

theorem Truthful.of_same (truthful : step.Truthful skipped trace)
    (constructed : next.lifetime.constructed = false → step.lifetime.constructed = false)
    (ended : next.ended = step.ended) (status : next.status = step.status) :
    next.Truthful skipped trace := by
  refine ⟨fun isFresh => ?_, ?_, ?_, ?_, ?_, truthful.ends⟩
  · rw [ended, status]
    exact truthful.fresh (constructed isFresh)
  · rw [status]
    exact truthful.error
  · rw [ended]
    exact truthful.ended
  · rw [ended, status]
    exact truthful.closed
  · rw [status]
    exact truthful.skip

/-- An artifact that is not the end. If it is an error, the status has it already. -/
theorem Truthful.snoc {variant : Pb.TestStepVariant} (truthful : step.Truthful skipped trace)
    (plain : variant.isEnd = false)
    (error : variant.isError = true → step.status = .error ∧ step.lifetime.constructed = true) :
    step.Truthful skipped (trace ++ [variant]) := by
  refine ⟨fun isFresh => ?_, fun earlier member isError => ?_, fun running => ?_,
    truthful.closed, truthful.skip, endsTruthful_snoc truthful.ends plain⟩
  · obtain ⟨ended, status, quiet⟩ := truthful.fresh isFresh
    refine ⟨ended, status, fun earlier member => ?_⟩
    rcases List.mem_append.mp member with before | last
    · exact quiet earlier before
    · obtain rfl := List.mem_singleton.mp last
      cases isError : earlier.isError with
      | true =>
          rw [(error isError).2] at isFresh
          cases isFresh
      | false => simp [Pb.TestStepVariant.quiet, plain, isError]
  · rcases List.mem_append.mp member with before | last
    · exact truthful.error earlier before isError
    · obtain rfl := List.mem_singleton.mp last
      exact (error isError).1
  · exact (unended_snoc _ _).mpr ⟨truthful.ended running, plain⟩

theorem Truthful.mono {later : Prop} (weaker : skipped → later)
    (truthful : step.Truthful skipped trace) : step.Truthful later trace :=
  ⟨truthful.fresh, truthful.error, truthful.ended, truthful.closed,
    fun skip => weaker (truthful.skip skip), truthful.ends.mono weaker⟩

theorem Frame.Tells.mono {later : Prop} {frame : Frame} (weaker : skipped → later)
    (tells : frame.Tells skipped step trace) : frame.Tells later step trace := by
  cases frame with
  | skip => exact weaker tells
  | _ => exact tells

theorem toProto_eq_unknown (status : TestStatus) : status.toProto = .UNKNOWN ↔ status = .unknown := by
  cases status <;> decide

theorem toProto_eq_skip (status : TestStatus) : status.toProto = .SKIP ↔ status = .skip := by
  cases status <;> decide

/-- The end tells of the status what the status tells of the artifacts. -/
theorem Truthful.endTruthful (truthful : step.Truthful skipped trace) (ended : step.ended = true)
    (unended : Unended trace) : EndTruthful skipped trace step.status.toProto := by
  refine ⟨unended, fun unknown => ?_, fun earlier member isError => ?_, fun isSkip => ?_⟩
  · exact truthful.closed ended ((toProto_eq_unknown _).mp unknown)
  · rw [truthful.error earlier member isError]
    rfl
  · have skip := (toProto_eq_skip _).mp isSkip
    refine ⟨truthful.skip skip, fun earlier member => ?_⟩
    cases isError : earlier.isError with
    | false => rfl
    | true =>
        have error := truthful.error earlier member isError
        rw [skip] at error
        cases error

theorem Truthful.setError (truthful : step.Truthful skipped trace)
    (constructed : step.lifetime.constructed = true) :
    ({ step with status := .error } : TestStep).Truthful skipped trace := by
  refine ⟨fun isFresh => ?_, fun _ _ _ => rfl, truthful.ended, fun _ => nofun, fun isSkip => ?_,
    truthful.ends⟩
  · rw [constructed] at isFresh
    cases isFresh
  · cases isSkip

/-- Skip() and End() settle a status that is still unknown. -/
theorem Truthful.settle (status : TestStatus) (mutex : Option ThreadId) (ended : Bool)
    (truthful : step.Truthful skipped trace) (constructed : step.lifetime.constructed = true)
    (known : ended = true → status ≠ .unknown) (toSkip : status = .skip → skipped)
    (later : step.ended = true → ended = true) :
    ({ step with
      mutex, ended
      status := if step.status = .unknown then status else step.status } : TestStep).Truthful
        skipped trace := by
  refine ⟨fun isFresh => ?_, fun earlier member isError => ?_, fun running => ?_, fun isEnded => ?_,
    fun isSkip => ?_, truthful.ends⟩
  · rw [constructed] at isFresh
    cases isFresh
  · have error := truthful.error earlier member isError
    simp only [error, reduceCtorEq, ↓reduceIte]
  · apply truthful.ended
    cases was : step.ended with
    | false => rfl
    | true =>
        rw [later was] at running
        cases running
  · by_cases unknown : step.status = .unknown
    · simpa only [unknown, ↓reduceIte] using known isEnded
    · simpa only [if_neg unknown] using unknown
  · by_cases unknown : step.status = .unknown
    · exact toSkip (by simpa only [unknown, ↓reduceIte] using isSkip)
    · exact truthful.skip (by simpa only [unknown, ↓reduceIte] using isSkip)

variable {ref : StepRef} {thread : ThreadId} {runMutex : Option ThreadId} {runStarted : Bool}
  {frame : Frame} {request : Request} {rest : Continue Frame}

theorem advances_truthful (placed : frame.Placed step thread)
    (truthful : step.Truthful skipped trace) (tells : frame.Tells skipped step trace)
    (advances : Advances step ref thread runMutex runStarted frame next request rest) :
    next.Truthful skipped (trace ++ request.toStep (strCat ref)) := by
  cases advances with
  | emitStart =>
      rw [toStep_artifact]
      exact (truthful.snoc rfl fun isError => by cases isError).of_same
        (fun absent => by cases absent) rfl rfl
  | setError added free =>
      simp only [Request.toStep, Request.written, List.filterMap_nil, List.append_nil]
      exact truthful.setError (placed.constructed rfl)
  | assignIdAndEmit added =>
      rw [toStep_artifact]
      exact (truthful.snoc added.plain.2 fun isError => ⟨tells isError, placed.constructed rfl⟩).of_same
        id rfl rfl
  | assignIdAndEmitFatal added message =>
      rw [toStep_artifact]
      exact (truthful.snoc added.plain.2 fun isError => ⟨tells isError, placed.constructed rfl⟩).of_same
        id rfl rfl
  | skip free =>
      simp only [Request.toStep, Request.written, List.filterMap_nil, List.append_nil]
      exact truthful.settle .skip step.mutex step.ended (placed.constructed rfl)
        (fun _ unknown => by cases unknown) (fun _ => tells) id
  | lockEnd destroy free running =>
      simp only [Request.toStep, Request.written, List.filterMap_nil, List.append_nil]
      exact truthful.settle .complete (some thread) true (placed.constructed rfl)
        (fun _ unknown => by cases unknown) (fun isSkip => by cases isSkip) fun _ => rfl
  | endAgain destroy free ended =>
      simp only [Request.toStep, Request.written, List.filterMap_nil, List.append_nil]
      cases destroy with
      | false => exact truthful
      | true => exact truthful.of_same (fun absent => by cases absent) rfl rfl
  | emitEnd destroy =>
      rw [toStep_artifact]
      obtain ⟨ended, unended⟩ := tells
      have constructed := placed.constructed rfl
      have written : step.Truthful skipped (trace ++ [.testStepEnd ⟨step.status.toProto⟩]) := by
        refine ⟨fun isFresh => ?_, fun earlier member isError => ?_, fun running => ?_,
          truthful.closed, truthful.skip, ?_⟩
        · rw [constructed] at isFresh
          cases isFresh
        · rcases List.mem_append.mp member with before | last
          · exact truthful.error earlier before isError
          · obtain rfl := List.mem_singleton.mp last
            cases isError
        · rw [ended] at running
          cases running
        · refine (Trace.eachAfter_snoc _ _).mpr ⟨truthful.ends, ?_⟩
          rintro testStepEnd ⟨⟩
          exact truthful.endTruthful ended unended
      cases destroy with
      | false => exact written.of_same id rfl rfl
      | true => exact written.of_same (fun absent => by cases absent) rfl rfl
  | _ =>
      simp only [Request.toStep, Request.written, List.filterMap_nil, List.append_nil]
      exact truthful.of_same id rfl rfl

/-- What the thread knows at its next point. -/
theorem advances_tells {after : Frame} (truthful : step.Truthful skipped trace)
    (tells : frame.Tells skipped step trace)
    (advances : Advances step ref thread runMutex runStarted frame next request (.next after)) :
    after.Tells skipped next (trace ++ request.toStep (strCat ref)) := by
  cases advances with
  | notifyFailureDiagnosis added =>
      intro isError
      rw [tells] at isError
      cases isError
  | setError added free => exact fun _ => rfl
  | notifyError added => exact tells
  | checkEnded added fatal free running => exact tells
  | lockEnd destroy free running =>
      refine ⟨rfl, ?_⟩
      simpa only [Request.toStep, Request.written, List.filterMap_nil, List.append_nil] using
        truthful.ended running
  | _ => trivial

/-- The error status is never left. -/
theorem advances_error (error : step.status = .error)
    (advances : Advances step ref thread runMutex runStarted frame next request rest) :
    next.status = .error := by
  cases advances with
  | setError added free => rfl
  | skip free => simp only [error, reduceCtorEq, ↓reduceIte]
  | lockEnd destroy free running => simp only [error, reduceCtorEq, ↓reduceIte]
  | endAgain destroy free ended => cases destroy <;> exact error
  | emitEnd destroy => cases destroy <;> exact error
  | _ => exact error

end TestStep

/-- A series writes neither the end nor an error of its step. -/
theorem MeasurementSeries.toStep_quiet {protobuf : Protobuf} {series next : MeasurementSeries}
    {ref : SeriesRef} {thread : ThreadId} {stepMutex : Option ThreadId} {stepEnded : Bool}
    {frame : MeasurementSeries.Frame} {request : Request}
    {rest : Continue MeasurementSeries.Frame} (testStepId : String)
    (advances : Advances protobuf series ref thread stepMutex stepEnded frame next request rest) :
    request.toStep testStepId = [] ∨ ∃ variant, request.toStep testStepId = [variant] ∧
      variant.isEnd = false ∧ variant.isError = false := by
  have written : ∀ (writer : MeasurementSeries) (variant : Pb.TestStepVariant),
      variant.isEnd = false → variant.isError = false →
      Request.toStep testStepId (.write (writer.artifact variant)) = [] ∨
      ∃ only, Request.toStep testStepId (.write (writer.artifact variant)) = [only] ∧
        only.isEnd = false ∧ only.isError = false := by
    intro writer variant plain correct
    by_cases mine : strCat writer.testStep = testStepId
    · refine Or.inr ⟨variant, ?_, plain, correct⟩
      simp [Request.toStep, Request.written, artifact, Pb.OutputVariant.ofStep, mine]
    · refine Or.inl ?_
      simp [Request.toStep, Request.written, artifact, Pb.OutputVariant.ofStep, mine]
  cases advances with
  | emitStart start built proto constructs => exact written _ _ rfl rfl
  | emitElement element => exact written _ _ rfl rfl
  | emitEnd totalCount destroy => exact written _ _ rfl rfl
  | _ => exact Or.inl rfl

namespace Call

variable {settings : Settings} {call : Call} {ref : StepRef}

theorem stepFrame_skip (entry : call.stepFrame settings = some (ref, .ok .skip)) :
    call = .skipTestStep ref := by
  cases call with
  | skipTestStep skipped =>
      cases entry
      rfl
  | addDiagnosis _ diagnosis =>
      simp only [stepFrame, Option.some.injEq, Prod.mk.injEq, TestStep.addDiagnosis,
        Outcome.bind_eq_ok] at entry
      obtain ⟨_, _, _, entry⟩ := entry
      split at entry <;> cases entry
  | _ =>
      simp [stepFrame, TestStep.addMeasurement, TestStep.addError, TestStep.addFile,
        TestStep.addLog, TestStep.addExtension, Outcome.bind_eq_ok] at entry

theorem stepFrame_notifyFailureDiagnosis {added : AddedArtifact}
    (entry : call.stepFrame settings = some (ref, .ok (.notifyFailureDiagnosis added))) :
    added.variant.isError = false := by
  cases call with
  | addDiagnosis _ diagnosis =>
      simp only [stepFrame, Option.some.injEq, Prod.mk.injEq, TestStep.addDiagnosis,
        Outcome.bind_eq_ok] at entry
      obtain ⟨_, _, _, entry⟩ := entry
      split at entry
      · cases entry
        rfl
      · cases entry
  | _ =>
      simp [stepFrame, TestStep.addMeasurement, TestStep.addError, TestStep.addFile,
        TestStep.addLog, TestStep.addExtension, Outcome.bind_eq_ok] at entry

end Call

theorem Pb.TestStepVariant.isError_of_passing {variant : Pb.TestStepVariant}
    (passing : variant.failing = false) : variant.isError = false := by
  cases variant with
  | error proto => cases passing
  | _ => rfl

theorem TestStep.tells_of_stepFrame {settings : Settings} {call : Call} {ref : StepRef}
    {frame : TestStep.Frame} {history : List (ThreadId × Label)} {step : TestStep}
    {trace : List Pb.TestStepVariant} (entry : call.stepFrame settings = some (ref, .ok frame))
    (called : ∃ label ∈ history, label.2.action = .call call) :
    frame.Tells (SkipCalled ref history) step trace := by
  cases TestStep.entry_of_stepFrame entry with
  | checkEnded added fatal passing =>
      intro isError
      rw [Pb.TestStepVariant.isError_of_passing passing] at isError
      cases isError
  | notifyFailureDiagnosis added => exact Call.stepFrame_notifyFailureDiagnosis entry
  | setError added => trivial
  | skip =>
      obtain rfl := Call.stepFrame_skip entry
      exact called
  | lockEnd => trivial

namespace Process

/-- Status() of a step that a thread can use. -/
def readStatus (process : Process) (ref : StepRef) : Option TestStatus :=
  if (process.steps ref).lifetime = .live then (process.steps ref).readStatus else none

def StatusesTruthful (history : List (ThreadId × Label)) (process : Process) : Prop :=
  ∀ ref, (process.steps ref).Truthful (SkipCalled ref history) (process.stepArtifacts (strCat ref))

def StatusTold (history : List (ThreadId × Label)) (process : Process) : Frame → Prop
  | .step ref frame =>
      frame.Tells (SkipCalled ref history) (process.steps ref) (process.stepArtifacts (strCat ref))
  | _ => True

/-- What a thread leaves of a step that has been drawn: an error stays, and the end is written
only by the holder of the mutex. -/
structure KeepsStatus (thread : ThreadId) (before after : Process) : Prop where
  error : ∀ ref, ref < before.run.stepId.count → (before.steps ref).status = .error →
    (after.steps ref).status = .error
  unended : ∀ ref, Unended (before.stepArtifacts (strCat ref)) →
    Unended (after.stepArtifacts (strCat ref)) ∨ (before.steps ref).mutex = some thread

section

variable {settings : Settings} {thread : ThreadId} {process next : Process} {label : Label}
  {history : List (ThreadId × Label)}

theorem statusesTruthful_of_same (truthful : process.StatusesTruthful history)
    (artifacts : ∀ testStepId, next.stepArtifacts testStepId = process.stepArtifacts testStepId)
    (steps : next.steps = process.steps) : next.StatusesTruthful history := by
  intro ref
  rw [artifacts, steps]
  exact truthful ref

theorem keepsStatus_of_same (thread : ThreadId)
    (artifacts : ∀ testStepId, next.stepArtifacts testStepId = process.stepArtifacts testStepId)
    (steps : next.steps = process.steps) : KeepsStatus thread process next := by
  refine ⟨fun ref _ error => ?_, fun ref unended => Or.inl ?_⟩
  · rwa [steps]
  · rwa [artifacts]

theorem begins_statusesTruthful {now : Pb.Timestamp} {call : Call} {frame : Frame}
    (allocated : process.Allocated) (truthful : process.StatusesTruthful history)
    (called : ∃ label ∈ history, label.2.action = .call call)
    (begins : Begins settings thread now process call next frame) :
    next.StatusesTruthful history ∧ next.StatusTold history frame ∧
      KeepsStatus thread process next := by
  have same := begins_sameRecord _ _ _ _ _ _ _ begins
  have artifacts : ∀ testStepId,
      next.stepArtifacts testStepId = process.stepArtifacts testStepId := by
    simp only [stepArtifacts, Process.artifacts, same.stream, implies_true]
  cases begins with
  | newTestStep name live =>
      have unborn : (process.steps process.run.stepId.count).lifetime = .unborn := by
        by_contra born
        exact Nat.lt_irrefl _ (allocated.steps _ born)
      obtain ⟨ended, status, quiet⟩ :=
        (truthful process.run.stepId.count).fresh (by rw [unborn]; rfl)
      refine ⟨fun ref => ?_, trivial, fun ref below error => ?_, fun ref unended => Or.inl ?_⟩
      · rw [artifacts]
        by_cases new : ref = process.run.stepId.count
        · subst new
          refine (truthful process.run.stepId.count).of_same (fun _ => by rw [unborn]; rfl) ?_ ?_
          · simp only [setStep, Function.update_self, ended]
          · simp only [setStep, Function.update_self, status]
        · simp only [setStep, ne_eq, new, not_false_eq_true, Function.update_of_ne]
          exact truthful ref
      · simpa only [setStep, ne_eq, Nat.ne_of_lt below, not_false_eq_true,
          Function.update_of_ne] using error
      · rwa [artifacts]
  | deleteTestStep ref live =>
      refine ⟨fun other => ?_, trivial, fun other below error => ?_, fun other unended => Or.inl ?_⟩
      · rw [artifacts]
        by_cases self : other = ref
        · subst self
          refine (truthful other).of_same ?_ ?_ ?_
          · simp only [setStep, Function.update_self, Lifetime.constructed, reduceCtorEq,
              false_implies]
          · simp only [setStep, Function.update_self]
          · simp only [setStep, Function.update_self]
        · simp only [setStep, ne_eq, self, not_false_eq_true, Function.update_of_ne]
          exact truthful other
      · by_cases self : other = ref
        · subst self
          simpa only [setStep, Function.update_self] using error
        · simpa only [setStep, ne_eq, self, not_false_eq_true, Function.update_of_ne] using error
      · rwa [artifacts]
  | onStep call ref entered entry live =>
      exact ⟨truthful, TestStep.tells_of_stepFrame entry called,
        keepsStatus_of_same thread artifacts rfl⟩
  | _ =>
      exact ⟨statusesTruthful_of_same truthful artifacts rfl, trivial,
        keepsStatus_of_same thread artifacts rfl⟩

theorem step_statusesTruthful {ref : StepRef} {frame : TestStep.Frame} {step : TestStep}
    {request : Request} {rest : Continue TestStep.Frame}
    (placed : process.Placed thread (.step ref frame)) (truthful : process.StatusesTruthful history)
    (told : process.StatusTold history (.step ref frame))
    (advances : (process.steps ref).Advances ref thread process.run.mutex process.run.started
      frame step request rest)
    (performed : process.perform settings .step label.now request = .ok next) :
    (next.setStep ref step).StatusesTruthful history ∧
    (next.setStep ref step).StatusTold history (rest.toFrame (.step ref)) ∧
    KeepsStatus thread process (next.setStep ref step) := by
  have same := (perform_spec _ _ _ _ _ _ performed).1
  have artifacts := stepArtifacts_perform performed
  refine ⟨fun other => ?_, ?_, fun other _ error => ?_, fun other unended => ?_⟩
  · show ((next.setStep ref step).steps other).Truthful (SkipCalled other history)
      (next.stepArtifacts (strCat other))
    rw [artifacts]
    by_cases self : other = ref
    · subst self
      simpa only [setStep, Function.update_self] using
        TestStep.advances_truthful placed.2 (truthful other) told advances
    · have different : strCat ref ≠ strCat other := fun same => self (strCat_injective same).symm
      simp only [setStep, ne_eq, self, not_false_eq_true, Function.update_of_ne, same.steps,
        TestStep.toStep_other _ different advances, List.append_nil]
      exact truthful other
  · cases rest with
    | next after =>
        show after.Tells (SkipCalled ref history) ((next.setStep ref step).steps ref)
          (next.stepArtifacts (strCat ref))
        rw [artifacts]
        simpa only [setStep, Function.update_self] using
          TestStep.advances_tells (truthful ref) told advances
    | _ => trivial
  · by_cases self : other = ref
    · subst self
      simpa only [setStep, Function.update_self] using TestStep.advances_error error advances
    · simpa only [setStep, ne_eq, self, not_false_eq_true, Function.update_of_ne, same.steps] using
        error
  · show Unended (next.stepArtifacts (strCat other)) ∨ _
    rw [artifacts]
    by_cases self : other = ref
    · subst self
      rcases TestStep.toStep_unended unended advances with still | ⟨destroy, rfl⟩
      · exact Or.inl still
      · exact Or.inr (placed.2.held rfl)
    · have different : strCat ref ≠ strCat other := fun same => self (strCat_injective same).symm
      rw [TestStep.toStep_other _ different advances, List.append_nil]
      exact Or.inl unended

theorem series_statusesTruthful {ref : SeriesRef} {frame : MeasurementSeries.Frame}
    {series : MeasurementSeries} {request : Request} {rest : Continue MeasurementSeries.Frame}
    (truthful : process.StatusesTruthful history)
    (advances : (process.series ref).Advances settings.protobuf ref thread
      (process.steps (process.series ref).testStep).mutex
      (process.steps (process.series ref).testStep).ended frame series request rest)
    (performed : process.perform settings .series label.now request = .ok next) :
    (next.setSeries ref series).StatusesTruthful history ∧
    KeepsStatus thread process (next.setSeries ref series) := by
  have same := (perform_spec _ _ _ _ _ _ performed).1
  have artifacts := stepArtifacts_perform performed
  refine ⟨fun other => ?_, fun other _ error => ?_, fun other unended => Or.inl ?_⟩
  · show (next.steps other).Truthful _ (next.stepArtifacts (strCat other))
    rw [artifacts, same.steps]
    rcases MeasurementSeries.toStep_quiet (strCat other) advances with
      none | ⟨variant, one, plain, correct⟩
    · rw [none, List.append_nil]
      exact truthful other
    · rw [one]
      refine (truthful other).snoc plain fun isError => ?_
      rw [correct] at isError
      cases isError
  · show (next.steps other).status = .error
    rwa [same.steps]
  · show Unended (next.stepArtifacts (strCat other))
    rw [artifacts]
    rcases MeasurementSeries.toStep_quiet (strCat other) advances with
      none | ⟨variant, one, plain, _⟩
    · rwa [none, List.append_nil]
    · rw [one]
      exact (unended_snoc _ _).mpr ⟨unended, plain⟩

theorem moves_statusesTruthful {frame after : Frame} (allocated : process.Allocated)
    (placed : process.Placed thread frame) (truthful : process.StatusesTruthful history)
    (told : process.StatusTold history frame) (taken : ∃ other, (other, label) ∈ history)
    (moves : Moves settings thread process label frame next after) :
    next.StatusesTruthful history ∧ next.StatusTold history after ∧
      KeepsStatus thread process next := by
  cases moves with
  | log _ severity message _ delivered =>
      have same := deliver_same delivered
      have artifacts := stepArtifacts_deliver delivered
      refine ⟨statusesTruthful_of_same truthful artifacts same.steps, ?_,
        keepsStatus_of_same thread artifacts same.steps⟩
      cases frame with
      | step ref frame => simpa only [StatusTold, artifacts, same.steps] using told
      | _ => trivial
  | call call _ _ acts begins =>
      obtain ⟨other, member⟩ := taken
      exact begins_statusesTruthful allocated truthful ⟨_, member, acts⟩ begins
  | run frame run request rest performed _ _ advances perform =>
      have same := (perform_spec _ _ _ _ _ _ perform).1
      have artifacts := stepArtifacts_run advances perform
      refine ⟨statusesTruthful_of_same truthful artifacts same.steps, ?_,
        keepsStatus_of_same thread artifacts same.steps⟩
      cases rest <;> trivial
  | step ref frame step request rest performed _ _ advances perform =>
      exact step_statusesTruthful placed truthful told advances perform
  | series ref frame series request rest performed _ _ _ advances perform =>
      obtain ⟨kept, guarantee⟩ := series_statusesTruthful truthful advances perform
      refine ⟨kept, ?_, guarantee⟩
      cases rest <;> trivial
  | dying message _ delivered =>
      have same := deliver_same delivered
      have artifacts := stepArtifacts_deliver delivered
      exact ⟨statusesTruthful_of_same truthful artifacts same.steps, trivial,
        keepsStatus_of_same thread artifacts same.steps⟩
  | aborting =>
      exact ⟨statusesTruthful_of_same truthful (fun _ => rfl) rfl, trivial,
        keepsStatus_of_same thread (fun _ => rfl) rfl⟩
  | _ => exact ⟨truthful, trivial, keepsStatus_of_same thread (fun _ => rfl) rfl⟩

end

/-- The statuses of the steps, in every state, with the labels that have led there. -/
structure StatusSound (history : List (ThreadId × Label)) (pool : Pool Process Frame) : Prop where
  held : MutexesHeld pool
  outline : Outline (StatusesTruthful history)
    (fun process _ frame => process.StatusTold history frame) pool

theorem statusSound_initial (testRunStart : TestRunStart) :
    StatusSound [] (initialPool testRunStart) := by
  refine ⟨mutexesHeld_initial testRunStart, fun ref => ⟨fun _ => ⟨rfl, rfl, ?_⟩, ?_, fun _ => ?_,
    nofun, nofun, Trace.eachAfter_nil⟩, fun _ => trivial⟩
  · intro variant member
    cases member
  · intro variant member
    cases member
  · intro variant member
    cases member

/-- What is known of the statuses is known after more labels. -/
theorem StatusSound.later {history : List (ThreadId × Label)} {pool : Pool Process Frame}
    (sound : StatusSound history pool) (labels : List (ThreadId × Label)) :
    StatusSound (history ++ labels) pool := by
  refine ⟨sound.held, fun ref => (sound.outline.shared ref).mono (skipCalled_append labels),
    fun thread => ?_⟩
  have told := sound.outline.threads thread
  cases here : pool.frames thread with
  | step ref frame =>
      rw [here] at told
      exact TestStep.Frame.Tells.mono (skipCalled_append labels) told
  | _ => trivial

theorem statusSound_moves {settings : Settings} {history : List (ThreadId × Label)}
    {pool : Pool Process Frame} {label : ThreadId × Label} (sound : StatusSound history pool)
    (taken : label ∈ history) (next : Process) (after : Frame)
    (moves : Moves settings label.1 pool.shared label.2 (pool.frames label.1) next after) :
    next.StatusesTruthful history ∧ next.StatusTold history after ∧
      KeepsStatus label.1 pool.shared next :=
  moves_statusesTruthful sound.held.shared (sound.held.threads label.1) sound.outline.shared
    (sound.outline.threads label.1) ⟨label.1, taken⟩ moves

theorem statusSound_step (settings : Settings) (history : List (ThreadId × Label))
    (pool : Pool Process Frame) (label : ThreadId × Label) (final : Pool Process Frame)
    (sound : StatusSound history pool) (stepped : systemStep settings pool label = some final) :
    StatusSound (history ++ [label]) final := by
  have here := sound.later [label]
  have taken : label ∈ history ++ [label] := List.mem_append_right _ List.mem_cons_self
  refine ⟨mutexesHeld_step settings pool final label sound.held stepped, ?_⟩
  refine outline_of_moves KeepsStatus sound.held here.outline stepped
    (statusSound_moves here taken) ?_
  intro next thread different kept status placed told
  cases atFrame : pool.frames thread with
  | step ref frame =>
      rw [atFrame] at placed told
      have error := status.error ref placed.1
      cases frame with
      | emitEnd destroy =>
          obtain ⟨ended, unended⟩ := told
          refine ⟨(kept.steps ref placed.1).ended ended, ?_⟩
          rcases status.unended ref unended with still | theirs
          · exact still
          · rw [placed.2.held rfl] at theirs
            exact absurd (Option.some.inj theirs) different
      | notifyError added => exact fun isError => error (told isError)
      | checkEnded added fatal => exact fun isError => error (told isError)
      | assignIdAndEmit added fatal => exact fun isError => error (told isError)
      | notifyFailureDiagnosis added => exact told
      | skip => exact told
      | _ => trivial
  | _ => trivial

theorem run_statusSound (settings : Settings) (testRunStart : TestRunStart)
    (labels : List (ThreadId × Label)) (final : Pool Process Frame)
    (reached : Runs.run (systemStep settings) (initialPool testRunStart) labels = some final) :
    StatusSound labels final :=
  Runs.run_preserves_history _ StatusSound (statusSound_step settings) [] _ final labels
    (statusSound_initial testRunStart) reached

/-- A step that has been drawn keeps its error to the end of every run. -/
theorem run_keeps_error (settings : Settings) (history labels : List (ThreadId × Label))
    (pool final : Pool Process Frame) (sound : StatusSound history pool) (ref : StepRef)
    (drawn : ref < pool.shared.run.stepId.count) (error : (pool.shared.steps ref).status = .error)
    (reached : Runs.run (systemStep settings) pool labels = some final) :
    (final.shared.steps ref).status = .error := by
  have kept := Runs.run_preserves_history (systemStep settings)
    (fun history pool => StatusSound history pool ∧ ref < pool.shared.run.stepId.count ∧
      (pool.shared.steps ref).status = .error) ?_ history pool final labels ⟨sound, drawn, error⟩
    reached
  · exact kept.2.2
  · rintro history pool label next ⟨sound, drawn, error⟩ stepped
    obtain ⟨shared, frame, taken, rfl⟩ := (poolStep_eq_some _ _ _ _).mp stepped
    have moves := moves_of_exec _ _ _ _ _ _ _ taken
    obtain ⟨kept, _, _⟩ := moves_keeps sound.held.shared (sound.held.threads label.1) moves
    obtain ⟨_, _, status⟩ := statusSound_moves (sound.later [label])
      (List.mem_append_right _ List.mem_cons_self) shared frame moves
    exact ⟨statusSound_step settings history pool label _ sound stepped,
      Nat.lt_of_lt_of_le drawn kept.run.stepId, status.error ref drawn error⟩

theorem readStatus_eq_some {process : Process} {ref : StepRef} {status : TestStatus}
    (read : process.readStatus ref = some status) :
    (process.steps ref).lifetime = .live ∧ (process.steps ref).status = status := by
  simp only [readStatus, Option.ite_none_right_eq_some, TestStep.readStatus] at read
  obtain ⟨live, read⟩ := read
  split at read
  · cases read
  · exact ⟨live, Option.some.inj read⟩

end Process

/-- In every run, each step writes at most one end, which is truthful, and once Status() has
returned ERROR it returns nothing else. -/
theorem step_status_truthful (settings : Settings) (testRunStart : TestRunStart)
    (labels : List (ThreadId × Label)) (final : Pool Process Frame)
    (reached : Runs.run (systemStep settings) (initialPool testRunStart) labels = some final)
    (ref : StepRef) :
    ((final.shared.stepArtifacts (strCat ref)).filter (·.isEnd)).length ≤ 1 ∧
    (∀ before testStepEnd after,
      final.shared.stepArtifacts (strCat ref) = before ++ .testStepEnd testStepEnd :: after →
      testStepEnd.status ≠ .UNKNOWN ∧
      ((∃ earlier ∈ before, earlier.isError = true) → testStepEnd.status = .ERROR) ∧
      (testStepEnd.status = .SKIP →
        SkipCalled ref labels ∧ ∀ earlier ∈ before, earlier.isError = false)) ∧
    (final.shared.readStatus ref = some .error →
      ∀ later last, Runs.run (systemStep settings) final later = some last →
        ∀ status, last.shared.readStatus ref = some status → status = .error) := by
  have sound := Process.run_statusSound settings testRunStart labels final reached
  have truthful := sound.outline.shared ref
  refine ⟨truthful.ends.one_end, fun before testStepEnd after same => ?_,
    fun read later last continued status readLater => ?_⟩
  · have here := truthful.ends before _ after same testStepEnd rfl
    refine ⟨here.known, ?_, here.skip⟩
    rintro ⟨earlier, member, isError⟩
    exact here.error earlier member isError
  · obtain ⟨live, error⟩ := Process.readStatus_eq_some read
    obtain ⟨_, now⟩ := Process.readStatus_eq_some readLater
    have drawn := sound.held.shared.steps ref (by simp [live])
    rw [← now]
    exact Process.run_keeps_error settings labels later final last sound ref drawn error continued

/-- One thread skips a step while another adds an error to it. -/
def skippedWithError : List (ThreadId × Label) :=
  sampleStart ++ callLabels 0 (.newTestStep "fans") 2 ++
    callLabels 1 (.addError 0 { symptom := "stalled" }) 1 ++ callLabels 0 (.skipTestStep 0) 1 ++
    List.replicate 3 (1, { action := .advance }) ++ List.replicate 2 (0, { action := .advance })

theorem step_status_truthful_skippedWithError :
    ∃ final, Runs.run (systemStep sampleSettings) (initialPool sampleTestRunStart)
        skippedWithError = some final ∧
      final.shared.stepArtifacts "0" = [.testStepStart ⟨"fans"⟩, .error { symptom := "stalled" },
        .testStepEnd ⟨.ERROR⟩] ∧
      final.shared.readStatus 0 = some .error ∧
      ∀ later last, Runs.run (systemStep sampleSettings) final later = some last →
        ∀ status, last.shared.readStatus 0 = some status → status = .error :=
  ⟨_, rfl, rfl, rfl, (step_status_truthful sampleSettings sampleTestRunStart skippedWithError _
    rfl 0).2.2 rfl⟩

end OcpDiag.Results
