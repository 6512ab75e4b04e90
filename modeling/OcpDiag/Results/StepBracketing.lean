import OcpDiag.Lib.Trace
import OcpDiag.Results.Mutexes

set_option autoImplicit false

/- The artifacts of one step. A TestStep looks at `ended_` and writes under its own mutex; a
MeasurementSeries looks at its step and writes later, without that mutex. -/
namespace OcpDiag.Results

open ThreadPool

namespace Pb

def TestStepVariant.isStart : TestStepVariant → Bool
  | .testStepStart _ => true
  | _ => false

def TestStepVariant.isEnd : TestStepVariant → Bool
  | .testStepEnd _ => true
  | _ => false

/-- The content of an artifact that carries the step id. -/
def OutputVariant.ofStep (testStepId : String) : OutputVariant → Option TestStepVariant
  | .testStepArtifact proto => if proto.testStepId = testStepId then some proto.artifact else none
  | _ => none

end Pb

/-- The first artifact, and no other, is a start, and none comes after an end. -/
def Bracketed : List Pb.TestStepVariant → Prop :=
  Trace.EachAfter fun before variant => (variant.isStart = true ↔ before = []) ∧
    ∀ earlier ∈ before, earlier.isEnd = false

def Unended (trace : List Pb.TestStepVariant) : Prop := ∀ variant ∈ trace, variant.isEnd = false

theorem unended_snoc (trace : List Pb.TestStepVariant) (variant : Pb.TestStepVariant) :
    Unended (trace ++ [variant]) ↔ Unended trace ∧ variant.isEnd = false := by
  simp only [Unended, List.mem_append, List.mem_singleton]
  constructor
  · intro unended
    exact ⟨fun earlier before => unended earlier (Or.inl before), unended variant (Or.inr rfl)⟩
  · rintro ⟨earlier, last⟩ other (before | rfl)
    · exact earlier other before
    · exact last

theorem bracketed_first (variant : Pb.TestStepVariant) (start : variant.isStart = true) :
    Bracketed ([] ++ [variant]) :=
  (Trace.eachAfter_snoc _ _).mpr ⟨Trace.eachAfter_nil, iff_of_true start rfl, fun _ member => by
    cases member⟩

theorem bracketed_snoc {trace : List Pb.TestStepVariant} {variant : Pb.TestStepVariant}
    (bracketed : Bracketed trace) (begun : trace ≠ []) (unended : Unended trace)
    (later : variant.isStart = false) : Bracketed (trace ++ [variant]) :=
  (Trace.eachAfter_snoc _ _).mpr
    ⟨bracketed, iff_of_false (by simp [later]) begun, unended⟩

namespace TestStep

/-- What the artifacts of a step look like, by where its object is. -/
structure Ordered (step : TestStep) (trace : List Pb.TestStepVariant) : Prop where
  fresh : step.lifetime.constructed = false → trace = []
  begun : step.lifetime.constructed = true → trace ≠ []
  bracketed : Bracketed trace
  unended : step.ended = false → Unended trace

def Frame.Knows (step : TestStep) (trace : List Pb.TestStepVariant) : Frame → Prop
  | .assignIdAndEmit _ _ => step.ended = false
  | .emitEnd _ => step.ended = true ∧ Unended trace
  | _ => True

theorem Ordered.of_same {step next : TestStep} {trace : List Pb.TestStepVariant}
    (ordered : step.Ordered trace) (constructed : next.lifetime.constructed = step.lifetime.constructed)
    (ended : next.ended = false → step.ended = false) : next.Ordered trace :=
  ⟨fun isFresh => ordered.fresh (constructed ▸ isFresh),
    fun isBegun => ordered.begun (constructed ▸ isBegun), ordered.bracketed,
    fun running => ordered.unended (ended running)⟩

/-- One more artifact of a constructed step that has not written its end. -/
theorem Ordered.snoc {step next : TestStep} {trace : List Pb.TestStepVariant}
    {variant : Pb.TestStepVariant} (ordered : step.Ordered trace)
    (was : step.lifetime.constructed = true) (is : next.lifetime.constructed = true)
    (unended : Unended trace) (later : variant.isStart = false)
    (ended : next.ended = false → variant.isEnd = false) :
    next.Ordered (trace ++ [variant]) := by
  refine ⟨fun isFresh => ?_, fun _ => by simp, ?_, fun running => ?_⟩
  · rw [is] at isFresh
    cases isFresh
  · exact bracketed_snoc ordered.bracketed (ordered.begun was) unended later
  · exact (unended_snoc _ _).mpr ⟨unended, ended running⟩

end TestStep

theorem AddedArtifact.plain (added : AddedArtifact) :
    added.variant.isStart = false ∧ added.variant.isEnd = false := by
  obtain ⟨variant, addable⟩ := added
  cases variant with
  | testStepStart start => cases addable
  | testStepEnd testStepEnd => cases addable
  | _ => exact ⟨rfl, rfl⟩

/-- What a request adds to the artifacts of a step. -/
def Request.toStep (testStepId : String) (request : Request) : List Pb.TestStepVariant :=
  request.written.filterMap (·.ofStep testStepId)

namespace TestStep

theorem toStep_artifact (ref : StepRef) (variant : Pb.TestStepVariant) :
    Request.toStep (strCat ref) (.write (artifact ref variant)) = [variant] := by
  simp [Request.toStep, Request.written, artifact, Pb.OutputVariant.ofStep]

theorem afterEnd_ended (step : TestStep) (destroy : Bool) :
    (step.afterEnd destroy).ended = step.ended := by
  cases destroy <;> rfl

theorem afterEnd_constructed (step : TestStep) (destroy : Bool)
    (constructed : step.lifetime.constructed = true) :
    (step.afterEnd destroy).lifetime.constructed = true := by
  cases destroy
  · exact constructed
  · rfl

theorem advances_ordered {step next : TestStep} {ref : StepRef} {thread : ThreadId}
    {runMutex : Option ThreadId} {runStarted : Bool} {frame : Frame} {request : Request}
    {rest : Continue Frame} {trace : List Pb.TestStepVariant} (placed : frame.Placed step thread)
    (ordered : step.Ordered trace) (knows : frame.Knows step trace)
    (advances : Advances step ref thread runMutex runStarted frame next request rest) :
    next.Ordered (trace ++ request.toStep (strCat ref)) ∧
    ∀ after, rest = .next after → after.Knows next (trace ++ request.toStep (strCat ref)) := by
  cases advances with
  | emitStart =>
      have fresh : trace = [] := ordered.fresh (by rw [placed.constructing rfl]; rfl)
      subst fresh
      rw [toStep_artifact]
      refine ⟨⟨fun isFresh => ?_, fun _ => by simp, bracketed_first _ rfl, fun _ => ?_⟩,
        fun _ same => by cases same⟩
      · cases isFresh
      · exact (unended_snoc _ _).mpr ⟨fun _ member => (by cases member), rfl⟩
  | assignIdAndEmit added =>
      rw [toStep_artifact]
      exact ⟨ordered.snoc (placed.constructed rfl) (placed.constructed rfl) (ordered.unended knows)
        added.plain.1 fun _ => added.plain.2, fun _ same => by cases same⟩
  | assignIdAndEmitFatal added message =>
      rw [toStep_artifact]
      exact ⟨ordered.snoc (placed.constructed rfl) (placed.constructed rfl) (ordered.unended knows)
        added.plain.1 fun _ => added.plain.2, fun _ same => by cases same⟩
  | emitEnd destroy =>
      rw [toStep_artifact]
      refine ⟨ordered.snoc (placed.constructed rfl)
        (afterEnd_constructed _ _ (placed.constructed rfl)) knows.2 rfl fun running => ?_,
        fun _ same => by cases same⟩
      rw [afterEnd_ended, knows.1] at running
      cases running
  | lockEnd destroy free running =>
      simp only [Request.toStep, Request.written, List.filterMap_nil, List.append_nil]
      refine ⟨ordered.of_same rfl (fun ended => by cases ended), ?_⟩
      rintro after ⟨⟩
      exact ⟨rfl, ordered.unended running⟩
  | endAgain destroy free ended =>
      simp only [Request.toStep, Request.written, List.filterMap_nil, List.append_nil]
      refine ⟨ordered.of_same ?_ ?_, fun _ same => by cases same⟩
      · rw [placed.constructed rfl]
        exact afterEnd_constructed _ _ (placed.constructed rfl)
      · rw [afterEnd_ended]
        exact id
  | checkEnded added fatal free running =>
      simp only [Request.toStep, Request.written, List.filterMap_nil, List.append_nil]
      refine ⟨ordered.of_same rfl id, ?_⟩
      rintro after ⟨⟩
      exact running
  | _ =>
      simp only [Request.toStep, Request.written, List.filterMap_nil, List.append_nil]
      refine ⟨ordered.of_same rfl id, ?_⟩
      rintro after ⟨⟩
      all_goals trivial

theorem toStep_other {step next : TestStep} {ref : StepRef} {thread : ThreadId}
    {runMutex : Option ThreadId} {runStarted : Bool} {frame : Frame} {request : Request}
    {rest : Continue Frame} (testStepId : String) (other : strCat ref ≠ testStepId)
    (advances : Advances step ref thread runMutex runStarted frame next request rest) :
    request.toStep testStepId = [] := by
  cases advances <;>
    simp [Request.toStep, Request.written, artifact, Pb.OutputVariant.ofStep, other]

/-- Only EmitEnd() writes an end. -/
theorem toStep_unended {step next : TestStep} {ref : StepRef} {thread : ThreadId}
    {runMutex : Option ThreadId} {runStarted : Bool} {frame : Frame} {request : Request}
    {rest : Continue Frame} {trace : List Pb.TestStepVariant} (unended : Unended trace)
    (advances : Advances step ref thread runMutex runStarted frame next request rest) :
    Unended (trace ++ request.toStep (strCat ref)) ∨ ∃ destroy, frame = .emitEnd destroy := by
  cases advances with
  | emitStart =>
      rw [toStep_artifact]
      exact Or.inl ((unended_snoc _ _).mpr ⟨unended, rfl⟩)
  | assignIdAndEmit added =>
      rw [toStep_artifact]
      exact Or.inl ((unended_snoc _ _).mpr ⟨unended, added.plain.2⟩)
  | assignIdAndEmitFatal added message =>
      rw [toStep_artifact]
      exact Or.inl ((unended_snoc _ _).mpr ⟨unended, added.plain.2⟩)
  | emitEnd destroy => exact Or.inr ⟨destroy, rfl⟩
  | _ =>
      refine Or.inl ?_
      simpa only [Request.toStep, Request.written, List.filterMap_nil, List.append_nil] using unended

end TestStep

namespace MeasurementSeries

/-- Between a look at whether the step has ended and the write that follows. -/
def Frame.pastCheck : Frame → Bool
  | .emitStart _ | .emitElement _ | .drawTotalCount _ | .emitEnd _ _ => true
  | _ => false

variable {protobuf : Protobuf} {series next : MeasurementSeries} {ref : SeriesRef}
  {thread : ThreadId} {stepMutex : Option ThreadId} {stepEnded : Bool} {frame : Frame}
  {request : Request} {rest : Continue Frame}

/-- A series writes under the id of its step, and only past the look at it. -/
theorem toStep_cases (testStepId : String)
    (advances : Advances protobuf series ref thread stepMutex stepEnded frame next request rest) :
    request.toStep testStepId = [] ∨
    (frame.pastCheck = true ∧ testStepId = strCat series.testStep ∧ ∃ variant,
      request.toStep testStepId = [variant] ∧ variant.isStart = false ∧
        variant.isEnd = false) := by
  have written : ∀ (writer : MeasurementSeries) (variant : Pb.TestStepVariant),
      writer.testStep = series.testStep →
      Request.toStep testStepId (.write (writer.artifact variant)) =
        if strCat series.testStep = testStepId then [variant] else [] := by
    intro writer variant same
    by_cases mine : strCat series.testStep = testStepId <;>
      simp [Request.toStep, Request.written, artifact, Pb.OutputVariant.ofStep, same, mine]
  by_cases mine : strCat series.testStep = testStepId
  · cases advances with
    | emitStart start built proto constructs =>
        obtain ⟨⟨typeIndex, rfl⟩, _⟩ := construct_eq_ok constructs
        exact Or.inr ⟨rfl, mine.symm, _, (written _ _ rfl).trans (if_pos mine), rfl, rfl⟩
    | emitElement element =>
        exact Or.inr ⟨rfl, mine.symm, _, (written _ _ rfl).trans (if_pos mine), rfl, rfl⟩
    | emitEnd totalCount destroy =>
        exact Or.inr ⟨rfl, mine.symm, _, (written _ _ rfl).trans (if_pos mine), rfl, rfl⟩
    | _ => exact Or.inl rfl
  · refine Or.inl ?_
    cases advances with
    | emitStart start built proto constructs =>
        obtain ⟨⟨typeIndex, rfl⟩, _⟩ := construct_eq_ok constructs
        exact (written _ _ rfl).trans (if_neg mine)
    | emitElement element => exact (written _ _ rfl).trans (if_neg mine)
    | emitEnd totalCount destroy => exact (written _ _ rfl).trans (if_neg mine)
    | _ => rfl

/-- How a thread gets past the look at the step. -/
theorem pastCheck_next {after : Frame}
    (advances : Advances protobuf series ref thread stepMutex stepEnded frame next request
      (.next after)) (past : after.pastCheck = true) :
    stepEnded = false ∨ frame.pastCheck = true ∨ ∃ destroy, frame = .checkStepEnded destroy := by
  cases advances with
  | checkStep start free running => exact Or.inl running
  | checkElement element free running => exact Or.inl running
  | checkStepEnded destroy => exact Or.inr (Or.inr ⟨destroy, rfl⟩)
  | drawTotalCount destroy => exact Or.inr (Or.inl rfl)
  | _ => cases past

end MeasurementSeries

namespace Process

/-- The artifacts of the stream that carry the step id. -/
def stepArtifacts (process : Process) (testStepId : String) : List Pb.TestStepVariant :=
  process.artifacts.filterMap (·.ofStep testStepId)

structure StepsOrdered (process : Process) : Prop where
  ordered : ∀ ref, (process.steps ref).Ordered (process.stepArtifacts (strCat ref))
  foreign : ∀ testStepId, (∀ ref, strCat ref ≠ testStepId) →
    process.stepArtifacts testStepId = []

/-- What is known of a step where a thread is, in a call of the step or of one of its series. -/
def StepKnown (process : Process) : Frame → Prop
  | .step ref frame => frame.Knows (process.steps ref) (process.stepArtifacts (strCat ref))
  | .series ref frame => frame.pastCheck = true →
      Unended (process.stepArtifacts (strCat (process.series ref).testStep))
  | _ => True

/-- The thread writes the end of the step. -/
def EndsStep (frame : Frame) (label : Label) (ref : StepRef) : Prop :=
  label.action = .advance ∧ ∃ destroy, frame = .step ref (.emitEnd destroy)

/-- A trace gets its end only from the holder of the step's mutex. -/
def KeepsUnended (frame : Frame) (label : Label) (thread : ThreadId) (before after : Process) :
    Prop :=
  ∀ ref, Unended (before.stepArtifacts (strCat ref)) →
    Unended (after.stepArtifacts (strCat ref)) ∨
      ((before.steps ref).mutex = some thread ∧ EndsStep frame label ref)

theorem ofSteps_ofStep (testStepId : String) : OfSteps (·.ofStep testStepId) := by
  intro artifact other
  cases artifact with
  | testStepArtifact proto => exact absurd rfl (other proto)
  | _ => rfl

theorem stepArtifacts_perform {settings : Settings} {process next : Process} {origin : Origin}
    {now : Pb.Timestamp} {request : Request}
    (performed : process.perform settings origin now request = .ok next) (testStepId : String) :
    next.stepArtifacts testStepId =
      process.stepArtifacts testStepId ++ request.toStep testStepId :=
  selected_perform _ performed

theorem stepArtifacts_run {settings : Settings} {process performed : Process} {origin : Origin}
    {now : Pb.Timestamp} {request : Request} {thread : ThreadId} {frame : TestRun.Frame}
    {run : TestRun} {rest : Continue TestRun.Frame}
    (advances : process.run.Advances settings.protobuf thread process.calculator process.dutInfos
      frame run request rest)
    (perform : process.perform settings origin now request = .ok performed) (testStepId : String) :
    ({ performed with run } : Process).stepArtifacts testStepId =
      process.stepArtifacts testStepId := by
  have added := stepArtifacts_perform perform testStepId
  rwa [Request.toStep, selected_run _ (ofSteps_ofStep testStepId) advances, List.append_nil]
    at added

theorem stepArtifacts_deliver {process next : Process} {severity : AbslSeverity}
    {message : String} {now : Pb.Timestamp}
    (delivered : process.deliver severity message now = .ok next) (testStepId : String) :
    next.stepArtifacts testStepId = process.stepArtifacts testStepId :=
  selected_deliver _ (ofSteps_ofStep testStepId) delivered

section

variable {process next : Process}

theorem stepsOrdered_of_same (ordered : process.StepsOrdered)
    (artifacts : ∀ testStepId, next.stepArtifacts testStepId = process.stepArtifacts testStepId)
    (steps : next.steps = process.steps) : next.StepsOrdered := by
  refine ⟨fun ref => ?_, fun testStepId foreign => ?_⟩
  · rw [artifacts, steps]
    exact ordered.ordered ref
  · rw [artifacts]
    exact ordered.foreign testStepId foreign

theorem keepsUnended_of_same (frame : Frame) (label : Label) (thread : ThreadId)
    (artifacts : ∀ testStepId, next.stepArtifacts testStepId = process.stepArtifacts testStepId) :
    KeepsUnended frame label thread process next := by
  intro ref unended
  rw [artifacts]
  exact Or.inl unended

end

theorem begins_stepsOrdered {settings : Settings} {thread : ThreadId} {now : Pb.Timestamp}
    {process next : Process} {call : Call} {frame : Frame} (allocated : process.Allocated)
    (ordered : process.StepsOrdered)
    (begins : Begins settings thread now process call next frame) :
    next.StepsOrdered ∧ next.StepKnown frame := by
  have same := begins_sameRecord _ _ _ _ _ _ _ begins
  have artifacts : ∀ testStepId,
      next.stepArtifacts testStepId = process.stepArtifacts testStepId := by
    simp only [stepArtifacts, Process.artifacts, same.stream, implies_true]
  have foreign : ∀ testStepId, (∀ ref, strCat ref ≠ testStepId) →
      next.stepArtifacts testStepId = [] := by
    intro testStepId nothing
    rw [artifacts]
    exact ordered.foreign testStepId nothing
  cases begins with
  | newTestStep name live =>
      refine ⟨⟨fun ref => ?_, foreign⟩, trivial⟩
      rw [artifacts]
      by_cases new : ref = process.run.stepId.count
      · subst new
        have unborn : (process.steps process.run.stepId.count).lifetime = .unborn := by
          by_contra born
          exact Nat.lt_irrefl _ (allocated.steps _ born)
        have fresh := (ordered.ordered process.run.stepId.count).fresh (by rw [unborn]; rfl)
        simp only [setStep, Function.update_self, fresh]
        exact ⟨fun _ => rfl, fun constructed => (by cases constructed), Trace.eachAfter_nil,
          fun _ _ member => by cases member⟩
      · simp only [setStep, ne_eq, new, not_false_eq_true, Function.update_of_ne]
        exact ordered.ordered ref
  | deleteTestStep ref live =>
      refine ⟨⟨fun other => ?_, foreign⟩, trivial⟩
      rw [artifacts]
      by_cases self : other = ref
      · subst self
        simp only [setStep, Function.update_self]
        exact (ordered.ordered other).of_same (by rw [live]; rfl) id
      · simp only [setStep, ne_eq, self, not_false_eq_true, Function.update_of_ne]
        exact ordered.ordered other
  | onStep call ref entered entry live =>
      refine ⟨ordered, ?_⟩
      cases TestStep.entry_of_stepFrame entry <;> trivial
  | newMeasurementSeries testStep start live =>
      refine ⟨stepsOrdered_of_same ordered artifacts rfl, fun past => ?_⟩
      cases past
  | onSeries call ref entered entry live =>
      refine ⟨ordered, fun past => ?_⟩
      cases call with
      | _ =>
          cases entry
          all_goals cases past
  | deleteMeasurementSeries ref live =>
      refine ⟨stepsOrdered_of_same ordered artifacts rfl, fun past => ?_⟩
      cases past
  | _ => exact ⟨stepsOrdered_of_same ordered artifacts rfl, trivial⟩

theorem step_stepsOrdered {settings : Settings} {process next : Process} {thread : ThreadId}
    {label : Label} {ref : StepRef} {frame : TestStep.Frame} {step : TestStep}
    {request : Request} {rest : Continue TestStep.Frame} (advance : label.action = .advance)
    (placed : process.Placed thread (.step ref frame)) (ordered : process.StepsOrdered)
    (known : process.StepKnown (.step ref frame))
    (advances : (process.steps ref).Advances ref thread process.run.mutex process.run.started
      frame step request rest)
    (performed : process.perform settings .step label.now request = .ok next) :
    (next.setStep ref step).StepsOrdered ∧
    (next.setStep ref step).StepKnown (rest.toFrame (.step ref)) ∧
    KeepsUnended (.step ref frame) label thread process (next.setStep ref step) := by
  have same := (perform_spec _ _ _ _ _ _ performed).1
  have artifacts := stepArtifacts_perform performed
  obtain ⟨here, knows⟩ := TestStep.advances_ordered placed.2 (ordered.ordered ref) known advances
  refine ⟨⟨fun other => ?_, fun testStepId foreign => ?_⟩, ?_, fun other unended => ?_⟩
  · show ((next.setStep ref step).steps other).Ordered (next.stepArtifacts (strCat other))
    rw [artifacts]
    by_cases self : other = ref
    · subst self
      simpa only [setStep, Function.update_self] using here
    · have different : strCat ref ≠ strCat other := fun same => self (strCat_injective same).symm
      simp only [setStep, ne_eq, self, not_false_eq_true, Function.update_of_ne, same.steps,
        TestStep.toStep_other _ different advances, List.append_nil]
      exact ordered.ordered other
  · show next.stepArtifacts testStepId = []
    rw [artifacts, ordered.foreign testStepId foreign,
      TestStep.toStep_other _ (foreign ref) advances]
    rfl
  · cases rest with
    | next after =>
        show after.Knows ((next.setStep ref step).steps ref) (next.stepArtifacts (strCat ref))
        rw [artifacts]
        simpa only [setStep, Function.update_self] using knows after rfl
    | _ => trivial
  · show Unended (next.stepArtifacts (strCat other)) ∨ _
    rw [artifacts]
    by_cases self : other = ref
    · subst self
      rcases TestStep.toStep_unended unended advances with still | ⟨destroy, rfl⟩
      · exact Or.inl still
      · exact Or.inr ⟨placed.2.held rfl, advance, destroy, rfl⟩
    · have different : strCat ref ≠ strCat other := fun same => self (strCat_injective same).symm
      rw [TestStep.toStep_other _ different advances, List.append_nil]
      exact Or.inl unended

theorem series_stepsOrdered {settings : Settings} {process next : Process} {thread : ThreadId}
    {label : Label} {ref : SeriesRef} {frame : MeasurementSeries.Frame}
    {series : MeasurementSeries} {request : Request} {rest : Continue MeasurementSeries.Frame}
    (allocated : process.Allocated) (placed : process.Placed thread (.series ref frame))
    (inTime : ∀ destroy, frame = .checkStepEnded destroy →
      (process.steps (process.series ref).testStep).ended = false)
    (ordered : process.StepsOrdered) (known : process.StepKnown (.series ref frame))
    (advances : (process.series ref).Advances settings.protobuf ref thread
      (process.steps (process.series ref).testStep).mutex
      (process.steps (process.series ref).testStep).ended frame series request rest)
    (performed : process.perform settings .series label.now request = .ok next) :
    (next.setSeries ref series).StepsOrdered ∧
    (next.setSeries ref series).StepKnown (rest.toFrame (.series ref)) ∧
    KeepsUnended (.series ref frame) label thread process (next.setSeries ref series) := by
  have same := (perform_spec _ _ _ _ _ _ performed).1
  have artifacts := stepArtifacts_perform performed
  have constructed := allocated.testStep ref placed.2.born
  have testStep := (MeasurementSeries.advances_keeps placed.2 advances).testStep
  have unended : ∀ other, Unended (process.stepArtifacts (strCat other)) →
      Unended (next.stepArtifacts (strCat other)) := by
    intro other unended
    rw [artifacts]
    rcases MeasurementSeries.toStep_cases (strCat other) advances with
      none | ⟨_, _, variant, one, _, plain⟩
    · rw [none, List.append_nil]
      exact unended
    · rw [one]
      exact (unended_snoc _ _).mpr ⟨unended, plain⟩
  refine ⟨⟨fun other => ?_, fun testStepId foreign => ?_⟩, ?_,
    fun other running => Or.inl (unended other running)⟩
  · show (next.steps other).Ordered (next.stepArtifacts (strCat other))
    rw [artifacts, same.steps]
    rcases MeasurementSeries.toStep_cases (strCat other) advances with
      none | ⟨past, mine, variant, one, later, plain⟩
    · rw [none, List.append_nil]
      exact ordered.ordered other
    · obtain rfl := strCat_injective mine
      rw [one]
      exact (ordered.ordered _).snoc constructed constructed (known past) later fun _ => plain
  · show next.stepArtifacts testStepId = []
    rw [artifacts, ordered.foreign testStepId foreign]
    rcases MeasurementSeries.toStep_cases testStepId advances with none | ⟨_, mine, _⟩
    · rw [none]
      rfl
    · exact absurd mine.symm (foreign _)
  · cases rest with
    | next after =>
        intro past
        simp only [setSeries, Function.update_self, testStep]
        refine unended _ ?_
        rcases MeasurementSeries.pastCheck_next advances past with
          running | already | ⟨destroy, rfl⟩
        · exact (ordered.ordered _).unended running
        · exact known already
        · exact (ordered.ordered _).unended (inTime destroy rfl)
    | _ => trivial

theorem moves_stepsOrdered {settings : Settings} {thread : ThreadId} {process next : Process}
    {label : Label} {frame after : Frame} (allocated : process.Allocated)
    (placed : process.Placed thread frame)
    (inTime : ∀ ref destroy, label.action = .advance →
      frame = .series ref (.checkStepEnded destroy) →
      (process.steps (process.series ref).testStep).ended = false)
    (ordered : process.StepsOrdered) (known : process.StepKnown frame)
    (moves : Moves settings thread process label frame next after) :
    next.StepsOrdered ∧ next.StepKnown after ∧
      KeepsUnended frame label thread process next := by
  cases moves with
  | log _ severity message _ delivered =>
      have same := deliver_same delivered
      have artifacts := stepArtifacts_deliver delivered
      refine ⟨stepsOrdered_of_same ordered artifacts same.steps, ?_,
        keepsUnended_of_same _ _ _ artifacts⟩
      cases frame with
      | step ref frame => simpa only [StepKnown, artifacts, same.steps] using known
      | series ref frame => simpa only [StepKnown, artifacts, same.series] using known
      | _ => trivial
  | call call _ _ _ begins =>
      obtain ⟨kept, knows⟩ := begins_stepsOrdered allocated ordered begins
      refine ⟨kept, knows, keepsUnended_of_same _ _ _ ?_⟩
      simp only [stepArtifacts, Process.artifacts, (begins_sameRecord _ _ _ _ _ _ _ begins).stream,
        implies_true]
  | run frame run request rest performed _ _ advances perform =>
      have same := (perform_spec _ _ _ _ _ _ perform).1
      have artifacts := stepArtifacts_run advances perform
      refine ⟨stepsOrdered_of_same ordered artifacts same.steps, ?_,
        keepsUnended_of_same _ _ _ artifacts⟩
      cases rest <;> trivial
  | step ref frame step request rest performed advance _ advances perform =>
      exact step_stepsOrdered advance placed ordered known advances perform
  | series ref frame series request rest performed advance _ _ advances perform =>
      exact series_stepsOrdered allocated placed
        (fun destroy here => inTime ref destroy advance (congrArg _ here)) ordered known advances
        perform
  | dying message _ delivered =>
      have artifacts := stepArtifacts_deliver delivered
      exact ⟨stepsOrdered_of_same ordered artifacts (deliver_same delivered).steps, trivial,
        keepsUnended_of_same _ _ _ artifacts⟩
  | aborting =>
      exact ⟨stepsOrdered_of_same ordered (fun _ => rfl) rfl, trivial,
        keepsUnended_of_same _ _ _ fun _ => rfl⟩
  | _ => exact ⟨ordered, trivial, keepsUnended_of_same _ _ _ fun _ => rfl⟩

/-- The steps leave their series in time: none writes its end while a call of a series of it is
between its look at the step and its write, and End() of a series finds its step not ended. -/
def SeriesInTime (pool : Pool Process Frame) (label : ThreadId × Label) : Prop :=
  (∀ ref, EndsStep (pool.frames label.1) label.2 ref → ∀ thread series frame,
    pool.frames thread = .series series frame → frame.pastCheck = true →
    (pool.shared.series series).testStep ≠ ref) ∧
  ∀ ref destroy, label.2.action = .advance →
    pool.frames label.1 = .series ref (.checkStepEnded destroy) →
    (pool.shared.steps (pool.shared.series ref).testStep).ended = false

/-- The artifacts of the steps, in every state. -/
structure StepsSound (pool : Pool Process Frame) : Prop where
  held : MutexesHeld pool
  outline : Outline StepsOrdered (fun process _ frame => process.StepKnown frame) pool

theorem stepsSound_initial (testRunStart : TestRunStart) :
    StepsSound (initialPool testRunStart) := by
  refine ⟨mutexesHeld_initial testRunStart, ⟨fun ref => ⟨fun _ => rfl, fun constructed => ?_,
    Trace.eachAfter_nil, fun _ _ member => ?_⟩, fun _ _ => rfl⟩, fun _ => trivial⟩
  · cases constructed
  · cases member

theorem stepsSound_step (settings : Settings) (pool : Pool Process Frame)
    (label : ThreadId × Label) (final : Pool Process Frame) (inTime : SeriesInTime pool label)
    (sound : StepsSound pool) (stepped : systemStep settings pool label = some final) :
    StepsSound final := by
  refine ⟨mutexesHeld_step settings pool final label sound.held stepped, ?_⟩
  refine outline_of_moves
    (fun thread before after => KeepsUnended (pool.frames label.1) label.2 thread before after)
    sound.held sound.outline stepped ?_ ?_
  · intro next after moves
    exact moves_stepsOrdered sound.held.shared (sound.held.threads label.1) inTime.2
      sound.outline.shared (sound.outline.threads label.1) moves
  · intro next thread different kept unended placed known
    cases here : pool.frames thread with
    | step ref frame =>
        rw [here] at placed known
        have keeps := kept.steps ref placed.1
        cases frame with
        | assignIdAndEmit added fatal =>
            exact (keeps.guarded thread different (placed.2.held rfl)).2.1.trans known
        | emitEnd destroy =>
            refine ⟨keeps.ended known.1, ?_⟩
            rcases unended ref known.2 with still | ⟨theirs, _⟩
            · exact still
            · rw [placed.2.held rfl] at theirs
              exact absurd (Option.some.inj theirs) different
        | _ => trivial
    | series ref frame =>
        rw [here] at placed known
        intro past
        rw [(kept.series ref placed.1).testStep]
        rcases unended _ (known past) with still | ⟨_, ends⟩
        · exact still
        · exact absurd rfl (inTime.1 _ ends thread ref frame here past)
    | _ => trivial

end Process

/-- While the steps leave their series in time, the artifacts of every step are bracketed. -/
theorem step_bracketing (settings : Settings) (testRunStart : TestRunStart)
    (labels : List (ThreadId × Label)) (final : Pool Process Frame)
    (inTime : Runs.Meets (systemStep settings) Process.SeriesInTime (initialPool testRunStart)
      labels)
    (reached : Runs.run (systemStep settings) (initialPool testRunStart) labels = some final)
    (testStepId : String) : Bracketed (final.shared.stepArtifacts testStepId) := by
  have sound := Runs.run_preserves_of_meets _ Process.SeriesInTime Process.StepsSound
    (Process.stepsSound_step settings) _ final labels inTime
    (Process.stepsSound_initial testRunStart) reached
  by_cases drawn : ∃ ref, strCat ref = testStepId
  · obtain ⟨ref, rfl⟩ := drawn
    exact (sound.outline.shared.ordered ref).bracketed
  · rw [sound.outline.shared.foreign testStepId fun ref same => drawn ⟨ref, same⟩]
    exact Trace.eachAfter_nil

/-- A series and its step are ended in this order. -/
def seriesFirst : List (ThreadId × Label) :=
  sampleSeries ++ callLabels 0 (.endMeasurementSeries 0) 4 ++ callLabels 0 (.endTestStep 0) 2

/-- The step of a series whose end has passed its check has not ended. -/
def Process.endsInTime (pool : Pool Process Frame) (label : ThreadId × Label) : Bool :=
  match pool.frames label.1 with
  | .series ref (.checkStepEnded _) => !(pool.shared.steps (pool.shared.series ref).testStep).ended
  | _ => true

theorem seriesFirst_inTime : Runs.Meets (systemStep sampleSettings) Process.SeriesInTime
    (initialPool sampleTestRunStart) seriesFirst := by
  refine Runs.meets_of_checkAll _ _ Process.endsInTime
    (IdleOutside [0] .idle) (fun label => label.1 ∈ [0]) ?_ ?_ _ _ (fun _ _ => rfl) ?_ rfl
  · rintro pool label acting idle passes
    refine ⟨fun ref ends thread series frame here => ?_, fun ref destroy _ here => ?_⟩
    · obtain ⟨_, destroy, mine⟩ := ends
      by_cases active : thread ∈ [0]
      · rw [List.mem_singleton.mp acting, ← List.mem_singleton.mp active, here] at mine
        cases mine
      · rw [idle thread active] at here
        cases here
    · simpa only [Process.endsInTime, here, Bool.not_eq_true'] using passes
  · intro pool label next acting idle stepped
    exact idleOutside_step _ [0] .idle pool next label acting idle stepped
  · decide

theorem step_bracketing_seriesFirst :
    ∃ final, Runs.run (systemStep sampleSettings) (initialPool sampleTestRunStart) seriesFirst =
        some final ∧
      final.shared.stepArtifacts "0" ≠ [] ∧ Bracketed (final.shared.stepArtifacts "0") :=
  ⟨_, rfl, by nofun, step_bracketing sampleSettings sampleTestRunStart seriesFirst _
    seriesFirst_inTime rfl "0"⟩

/-- A series that is ended after its step writes under the id of the step, past its end. -/
theorem step_bracketing_fails_of_stepFirst :
    ∃ final, Runs.run (systemStep sampleSettings) (initialPool sampleTestRunStart)
        (sampleSeries ++ callLabels 0 (.endTestStep 0) 2 ++
          callLabels 0 (.endMeasurementSeries 0) 4) = some final ∧
      ¬ Bracketed (final.shared.stepArtifacts "0") := by
  refine ⟨_, rfl, fun bracketed => ?_⟩
  have late := (bracketed
    [.testStepStart ⟨"fans"⟩,
      .measurementSeriesStart { measurementSeriesId := "0", name := "spinning" },
      .measurementSeriesElement { measurementSeriesId := "0", value := .boolValue true },
      .testStepEnd ⟨.COMPLETE⟩]
    (.measurementSeriesEnd ⟨"0", 1⟩) [] rfl).2
  have plain := late (.testStepEnd ⟨.COMPLETE⟩) (by simp)
  cases plain

end OcpDiag.Results
