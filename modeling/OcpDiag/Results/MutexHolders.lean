import OcpDiag.Results.Mutexes

set_option autoImplicit false

/- The converse of the outline of the mutexes: a mutex that is held has a thread at a point that
holds it. -/
namespace OcpDiag.Results

open ThreadPool

/-- What a step of a call makes of its object's mutex. A thread that dies may keep it. -/
structure MovesMutex {φ : Type} (holds : φ → Bool) (before after : Option ThreadId)
    (thread : ThreadId) (rest : Continue φ) : Prop where
  others : ∀ other, other ≠ thread → after = some other → before = some other
  goesOn : ∀ frame, rest = .next frame → after = some thread → holds frame = true
  returns : rest = .done → after ≠ some thread

namespace TestRun

theorem advances_mutex {protobuf : Protobuf} {run next : TestRun} {thread : ThreadId}
    {calculator : TestResultCalculator} {dutInfos : DutRef → DutInfo} {frame : Frame}
    {request : Request} {rest : Continue Frame}
    (held : run.mutex = some thread → frame.holds = true)
    (advances : Advances protobuf run thread calculator dutInfos frame next request rest) :
    MovesMutex Frame.holds run.mutex next.mutex thread rest := by
  have others : ∀ other, other ≠ thread → next.mutex = some other → run.mutex = some other := by
    intro other different theirs
    cases advances <;>
      first | exact theirs | exact absurd (Option.some.inj theirs).symm different | cases theirs
  refine ⟨others, ?_, ?_⟩
  · rintro after rfl mine
    cases advances with
    | lockEnd free => cases run.started <;> rfl
    | emitEnd status result => cases mine
    | _ => first | rfl | cases held mine
  · rintro rfl mine
    cases advances <;> first | cases held mine | cases mine

end TestRun

namespace TestStep

theorem afterEnd_mutex (step : TestStep) (destroy : Bool) :
    (step.afterEnd destroy).mutex = step.mutex := by
  cases destroy <;> rfl

theorem advances_mutex {step next : TestStep} {ref : StepRef} {thread : ThreadId}
    {runMutex : Option ThreadId} {runStarted : Bool} {frame : Frame} {request : Request}
    {rest : Continue Frame} (held : step.mutex = some thread → frame.holds = true)
    (advances : Advances step ref thread runMutex runStarted frame next request rest) :
    MovesMutex Frame.holds step.mutex next.mutex thread rest := by
  refine ⟨?_, ?_, ?_⟩
  · intro other different theirs
    cases advances with
    | endAgain destroy => exact (afterEnd_mutex step destroy).symm.trans theirs
    | emitEnd destroy =>
        rw [afterEnd_mutex] at theirs
        cases theirs
    | _ =>
        first
          | exact theirs
          | exact absurd (Option.some.inj theirs).symm different
          | cases theirs
  · rintro after rfl mine
    cases advances <;> first | rfl | cases held mine
  · rintro rfl mine
    cases advances with
    | emitStart => cases held mine
    | assignIdAndEmit added => cases mine
    | endAgain destroy =>
        rw [afterEnd_mutex] at mine
        cases held mine
    | emitEnd destroy =>
        rw [afterEnd_mutex] at mine
        cases mine

end TestStep

namespace MeasurementSeries

theorem afterEnd_mutex (series : MeasurementSeries) (destroy : Bool) :
    (series.afterEnd destroy).mutex = series.mutex := by
  cases destroy <;> rfl

theorem advances_mutex {protobuf : Protobuf} {series next : MeasurementSeries} {ref : SeriesRef}
    {thread : ThreadId} {stepMutex : Option ThreadId} {stepEnded : Bool} {frame : Frame}
    {request : Request} {rest : Continue Frame}
    (held : series.mutex = some thread → frame.holds = true)
    (advances : Advances protobuf series ref thread stepMutex stepEnded frame next request rest) :
    MovesMutex Frame.holds series.mutex next.mutex thread rest := by
  refine ⟨?_, ?_, ?_⟩
  · intro other different theirs
    cases advances with
    | emitStart start built proto constructs =>
        obtain ⟨⟨typeIndex, rfl⟩, _⟩ := construct_eq_ok constructs
        exact theirs
    | checkType element now built free checked =>
        obtain ⟨rfl, _⟩ := setAndCheckSeriesType_eq_ok checked
        exact theirs
    | drawIndex element now built proto drawn =>
        obtain ⟨rfl, _⟩ := drawElement_eq_ok drawn
        exact theirs
    | endAgain destroy => exact (afterEnd_mutex series destroy).symm.trans theirs
    | emitEnd totalCount destroy =>
        rw [afterEnd_mutex] at theirs
        cases theirs
    | _ =>
        first
          | exact theirs
          | exact absurd (Option.some.inj theirs).symm different
          | cases theirs
  · rintro after rfl mine
    cases advances with
    | checkType element now built free checked =>
        obtain ⟨rfl, _⟩ := setAndCheckSeriesType_eq_ok checked
        cases held mine
    | drawIndex element now built proto drawn =>
        obtain ⟨rfl, _⟩ := drawElement_eq_ok drawn
        cases held mine
    | _ => first | rfl | cases held mine
  · rintro rfl mine
    cases advances with
    | emitStart start built proto constructs =>
        obtain ⟨⟨typeIndex, rfl⟩, _⟩ := construct_eq_ok constructs
        cases held mine
    | emitElement element => cases mine
    | endAgain destroy =>
        rw [afterEnd_mutex] at mine
        cases held mine
    | emitEnd totalCount destroy =>
        rw [afterEnd_mutex] at mine
        cases mine

end MeasurementSeries

/-- The points at which a thread can hold the run's mutex. -/
def Frame.holdsRun : Frame → Bool
  | .run frame => frame.holds
  | .dying _ | .aborting => true
  | _ => false

def Frame.holdsStep (ref : StepRef) : Frame → Bool
  | .step other frame => other == ref && frame.holds
  | .dying _ | .aborting => true
  | _ => false

def Frame.holdsSeries (ref : SeriesRef) : Frame → Bool
  | .series other frame => other == ref && frame.holds
  | .dying _ | .aborting => true
  | _ => false

namespace Process

/-- A thread has no mutex but where it is at a point that holds it. -/
structure Locks (process : Process) (thread : ThreadId) (frame : Frame) : Prop where
  run : process.run.mutex = some thread → frame.holdsRun = true
  steps : ∀ ref, (process.steps ref).mutex = some thread → frame.holdsStep ref = true
  series : ∀ ref, (process.series ref).mutex = some thread → frame.holdsSeries ref = true

/-- None of the threads has got a mutex. -/
structure TakesNone (threads : ThreadId → Prop) (before after : Process) : Prop where
  run : ∀ other, threads other → after.run.mutex = some other → before.run.mutex = some other
  steps : ∀ ref other, threads other → (after.steps ref).mutex = some other →
    (before.steps ref).mutex = some other
  series : ∀ ref other, threads other → (after.series ref).mutex = some other →
    (before.series ref).mutex = some other

theorem TakesNone.refl (threads : ThreadId → Prop) (process : Process) :
    process.TakesNone threads process :=
  ⟨fun _ _ => id, fun _ _ _ => id, fun _ _ _ => id⟩

theorem SameObjects.takesNone {process next : Process} (threads : ThreadId → Prop)
    (same : SameObjects process next) : process.TakesNone threads next := by
  refine ⟨fun other _ theirs => ?_, fun ref other _ theirs => ?_, fun ref other _ theirs => ?_⟩
  · rwa [same.run] at theirs
  · rwa [same.steps] at theirs
  · rwa [same.series] at theirs

theorem Locks.of_takesNone {threads : ThreadId → Prop} {before after : Process}
    {thread : ThreadId} {frame : Frame} (nothing : before.TakesNone threads after)
    (among : threads thread) (locks : before.Locks thread frame) : after.Locks thread frame :=
  ⟨fun mine => locks.run (nothing.run thread among mine),
    fun ref mine => locks.steps ref (nothing.steps ref thread among mine),
    fun ref mine => locks.series ref (nothing.series ref thread among mine)⟩

theorem locks_dying (process : Process) (thread : ThreadId) (message : String) :
    process.Locks thread (.dying message) := ⟨fun _ => rfl, fun _ _ => rfl, fun _ _ => rfl⟩

theorem locks_aborting (process : Process) (thread : ThreadId) :
    process.Locks thread .aborting := ⟨fun _ => rfl, fun _ _ => rfl, fun _ _ => rfl⟩

/-- A thread outside every call can begin one: it has no mutex. -/
theorem Locks.of_idle {process : Process} {thread : ThreadId} (locks : process.Locks thread .idle)
    (frame : Frame) : process.Locks thread frame := by
  refine ⟨fun mine => ?_, fun ref mine => ?_, fun ref mine => ?_⟩
  · cases locks.run mine
  · cases locks.steps ref mine
  · cases locks.series ref mine

/-- The beginning of a call takes no mutex, and the objects it constructs have theirs free. -/
theorem begins_takesNone {settings : Settings} {thread : ThreadId} {now : Pb.Timestamp}
    {process next : Process} {call : Call} {frame : Frame} (threads : ThreadId → Prop)
    (begins : Begins settings thread now process call next frame) :
    process.TakesNone threads next := by
  have step : ∀ (ref : StepRef) (made : TestStep),
      (∀ other, made.mutex = some other → (process.steps ref).mutex = some other) →
      process.TakesNone threads (process.setStep ref made) := by
    intro ref made kept
    refine ⟨fun _ _ => id, fun other holder _ theirs => ?_, fun _ _ _ => id⟩
    by_cases same : other = ref
    · subst same
      simp only [setStep, Function.update_self] at theirs
      exact kept holder theirs
    · simpa only [setStep, ne_eq, same, not_false_eq_true, Function.update_of_ne] using theirs
  have series : ∀ (ref : SeriesRef) (made : MeasurementSeries),
      (∀ other, made.mutex = some other → (process.series ref).mutex = some other) →
      process.TakesNone threads (process.setSeries ref made) := by
    intro ref made kept
    refine ⟨fun _ _ => id, fun _ _ _ => id, fun other holder _ theirs => ?_⟩
    by_cases same : other = ref
    · subst same
      simp only [setSeries, Function.update_self] at theirs
      exact kept holder theirs
    · simpa only [setSeries, ne_eq, same, not_false_eq_true, Function.update_of_ne] using theirs
  cases begins with
  | newTestStep name live =>
      obtain ⟨run, steps, series⟩ := step process.run.stepId.count
        { name, lifetime := .constructing thread } (fun _ theirs => by cases theirs)
      exact ⟨run, steps, series⟩
  | deleteTestStep ref live => exact step ref _ fun _ => id
  | newMeasurementSeries testStep start live =>
      obtain ⟨run, steps, series⟩ := series process.run.measurementSeriesId.count
        { testStep, lifetime := .constructing thread } (fun _ theirs => by cases theirs)
      exact ⟨run, steps, series⟩
  | deleteMeasurementSeries ref live => exact series ref _ fun _ => id
  | _ => exact ⟨fun _ _ => id, fun _ _ _ => id, fun _ _ _ => id⟩

section

variable {settings : Settings} {process next : Process} {thread : ThreadId} {origin : Origin}
  {now : Pb.Timestamp} {request : Request}

theorem run_locks {inner : TestRun.Frame} {run : TestRun} {rest : Continue TestRun.Frame}
    (locks : process.Locks thread (.run inner))
    (advances : process.run.Advances settings.protobuf thread process.calculator process.dutInfos
      inner run request rest)
    (performed : process.perform settings origin now request = .ok next) :
    ({ next with run } : Process).Locks thread (rest.toFrame .run) ∧
      process.TakesNone (· ≠ thread) { next with run } := by
  have same := (perform_spec _ _ _ _ _ _ performed).1
  have mutex := TestRun.advances_mutex locks.run advances
  have free := same.takesNone (fun _ => True)
  refine ⟨?_, mutex.others, fun ref other _ => free.steps ref other trivial,
    fun ref other _ => free.series ref other trivial⟩
  have steps : ∀ ref, (next.steps ref).mutex ≠ some thread := fun ref mine => by
    cases locks.steps ref (free.steps ref thread trivial mine)
  have series : ∀ ref, (next.series ref).mutex ≠ some thread := fun ref mine => by
    cases locks.series ref (free.series ref thread trivial mine)
  cases rest with
  | next after =>
      exact ⟨mutex.goesOn after rfl, fun ref mine => absurd mine (steps ref),
        fun ref mine => absurd mine (series ref)⟩
  | done =>
      exact ⟨fun mine => absurd mine (mutex.returns rfl), fun ref mine => absurd mine (steps ref),
        fun ref mine => absurd mine (series ref)⟩
  | die message => exact locks_dying _ _ message

theorem step_locks {ref : StepRef} {inner : TestStep.Frame} {step : TestStep}
    {rest : Continue TestStep.Frame} {runMutex : Option ThreadId} {runStarted : Bool}
    (locks : process.Locks thread (.step ref inner))
    (advances : (process.steps ref).Advances ref thread runMutex runStarted inner step request rest)
    (performed : process.perform settings origin now request = .ok next) :
    (next.setStep ref step).Locks thread (rest.toFrame (.step ref)) ∧
      process.TakesNone (· ≠ thread) (next.setStep ref step) := by
  have same := (perform_spec _ _ _ _ _ _ performed).1
  have free := same.takesNone (fun _ => True)
  have mutex := TestStep.advances_mutex (fun mine => by
    simpa only [Frame.holdsStep, beq_self_eq_true, Bool.true_and] using
      locks.steps ref mine) advances
  have run : next.run.mutex ≠ some thread := fun mine => by
    cases locks.run (free.run thread trivial mine)
  have series : ∀ other, (next.series other).mutex ≠ some thread := fun other mine => by
    cases locks.series other (free.series other thread trivial mine)
  have steps : ∀ other, other ≠ ref →
      ((next.setStep ref step).steps other).mutex ≠ some thread := by
    intro other different mine
    simp only [setStep, ne_eq, different, not_false_eq_true, Function.update_of_ne] at mine
    have holds := locks.steps other (free.steps other thread trivial mine)
    simp only [Frame.holdsStep, Bool.and_eq_true, beq_iff_eq] at holds
    exact different holds.1.symm
  refine ⟨?_, fun other _ => free.run other trivial, fun other holder different theirs => ?_,
    fun other holder _ => free.series other holder trivial⟩
  · cases rest with
    | next after =>
        refine ⟨fun mine => absurd mine run, fun other mine => ?_,
          fun other mine => absurd mine (series other)⟩
        by_cases here : other = ref
        · subst here
          simp only [setStep, Function.update_self] at mine
          simpa only [Continue.toFrame, Frame.holdsStep, beq_self_eq_true, Bool.true_and] using
            mutex.goesOn after rfl mine
        · exact absurd mine (steps other here)
    | done =>
        refine ⟨fun mine => absurd mine run, fun other mine => ?_,
          fun other mine => absurd mine (series other)⟩
        by_cases here : other = ref
        · subst here
          simp only [setStep, Function.update_self] at mine
          exact absurd mine (mutex.returns rfl)
        · exact absurd mine (steps other here)
    | die message => exact locks_dying _ _ message
  · by_cases here : other = ref
    · subst here
      simp only [setStep, Function.update_self] at theirs
      exact mutex.others holder different theirs
    · simp only [setStep, ne_eq, here, not_false_eq_true, Function.update_of_ne] at theirs
      exact free.steps other holder trivial theirs

theorem series_locks {ref : SeriesRef} {inner : MeasurementSeries.Frame}
    {series : MeasurementSeries} {rest : Continue MeasurementSeries.Frame}
    {stepMutex : Option ThreadId} {stepEnded : Bool}
    (locks : process.Locks thread (.series ref inner))
    (advances : (process.series ref).Advances settings.protobuf ref thread stepMutex stepEnded inner
      series request rest)
    (performed : process.perform settings origin now request = .ok next) :
    (next.setSeries ref series).Locks thread (rest.toFrame (.series ref)) ∧
      process.TakesNone (· ≠ thread) (next.setSeries ref series) := by
  have same := (perform_spec _ _ _ _ _ _ performed).1
  have free := same.takesNone (fun _ => True)
  have mutex := MeasurementSeries.advances_mutex (fun mine => by
    simpa only [Frame.holdsSeries, beq_self_eq_true, Bool.true_and] using locks.series ref mine)
    advances
  have run : next.run.mutex ≠ some thread := fun mine => by
    cases locks.run (free.run thread trivial mine)
  have steps : ∀ other, (next.steps other).mutex ≠ some thread := fun other mine => by
    cases locks.steps other (free.steps other thread trivial mine)
  have elsewhere : ∀ other, other ≠ ref →
      ((next.setSeries ref series).series other).mutex ≠ some thread := by
    intro other different mine
    simp only [setSeries, ne_eq, different, not_false_eq_true, Function.update_of_ne] at mine
    have holds := locks.series other (free.series other thread trivial mine)
    simp only [Frame.holdsSeries, Bool.and_eq_true, beq_iff_eq] at holds
    exact different holds.1.symm
  refine ⟨?_, fun other _ => free.run other trivial,
    fun other holder _ => free.steps other holder trivial, fun other holder different theirs => ?_⟩
  · cases rest with
    | next after =>
        refine ⟨fun mine => absurd mine run, fun other mine => absurd mine (steps other),
          fun other mine => ?_⟩
        by_cases here : other = ref
        · subst here
          simp only [setSeries, Function.update_self] at mine
          simpa only [Continue.toFrame, Frame.holdsSeries, beq_self_eq_true, Bool.true_and] using
            mutex.goesOn after rfl mine
        · exact absurd mine (elsewhere other here)
    | done =>
        refine ⟨fun mine => absurd mine run, fun other mine => absurd mine (steps other),
          fun other mine => ?_⟩
        by_cases here : other = ref
        · subst here
          simp only [setSeries, Function.update_self] at mine
          exact absurd mine (mutex.returns rfl)
        · exact absurd mine (elsewhere other here)
    | die message => exact locks_dying _ _ message
  · by_cases here : other = ref
    · subst here
      simp only [setSeries, Function.update_self] at theirs
      exact mutex.others holder different theirs
    · simp only [setSeries, ne_eq, here, not_false_eq_true, Function.update_of_ne] at theirs
      exact free.series other holder trivial theirs

theorem moves_locks {label : Label} {frame after : Frame} (locks : process.Locks thread frame)
    (moves : Moves settings thread process label frame next after) :
    next.Locks thread after ∧ process.TakesNone (· ≠ thread) next := by
  cases moves with
  | log _ severity message _ delivered =>
      have same := deliver_same delivered
      exact ⟨locks.of_takesNone (same.takesNone fun _ => True) trivial, same.takesNone _⟩
  | call call _ _ _ begins =>
      have kept : next.Locks thread .idle :=
        locks.of_takesNone (begins_takesNone (fun _ => True) begins) trivial
      exact ⟨kept.of_idle after, begins_takesNone _ begins⟩
  | run frame run request rest performed _ _ advances perform =>
      exact run_locks locks advances perform
  | step ref frame step request rest performed _ _ advances perform =>
      exact step_locks locks advances perform
  | series ref frame series request rest performed _ _ _ advances perform =>
      exact series_locks locks advances perform
  | dying message _ delivered =>
      exact ⟨locks_aborting _ _, (deliver_same delivered).takesNone _⟩
  | aborting => exact ⟨locks_aborting _ _, fun _ _ => id, fun _ _ _ => id, fun _ _ _ => id⟩
  | _ => exact ⟨locks_dying _ _ _, .refl _ _⟩

end

end Process

/-- Every mutex that is held has a thread that holds it at its point, or that has died with it. -/
theorem locks_of_run (settings : Settings) (testRunStart : TestRunStart)
    (labels : List (ThreadId × Label)) (final : Pool Process Frame)
    (reached : Runs.run (systemStep settings) (initialPool testRunStart) labels = some final) :
    ∀ thread, final.shared.Locks thread (final.frames thread) := by
  have initial : ∀ thread, (initialPool testRunStart).shared.Locks thread .idle := by
    intro thread
    constructor <;> rintro ⟨⟩ <;> rintro ⟨⟩
  refine (Runs.run_preserves (systemStep settings) (Outline (fun _ => True) Process.Locks) ?_
    (initialPool testRunStart) final labels ⟨trivial, initial⟩ reached).threads
  intro pool label next outline stepped
  refine outline_of_guarantee _ (fun thread => Process.TakesNone (· ≠ thread)) pool next label
    outline stepped ?_ ?_
  · intro shared frame taken
    have moves := Process.moves_of_exec _ _ _ _ _ _ _ taken
    obtain ⟨locks, nothing⟩ := Process.moves_locks (outline.threads label.1) moves
    exact ⟨trivial, locks, nothing⟩
  · intro _ _ different nothing locks
    exact locks.of_takesNone nothing different

end OcpDiag.Results
