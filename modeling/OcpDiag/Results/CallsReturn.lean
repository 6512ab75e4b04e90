import OcpDiag.Lib.Progress
import OcpDiag.Results.MutexHolders
import OcpDiag.Results.StructValidity

set_option autoImplicit false

/- The calls under way do not wait for one another forever: the points that hold a series' mutex
wait for a step's mutex at most, and the points that hold a step's or the run's wait for none. -/
namespace OcpDiag.Results

open ThreadPool

/-- How far a point is on in the order of the mutexes. -/
def Frame.level : Frame → Nat
  | .idle => 0
  | .run frame => if frame.holds then 2 else 0
  | .step _ frame => if frame.holds then 2 else 0
  | .series _ frame => if frame.holds then 1 else 0
  | .dying _ | .aborting => 2

theorem Frame.level_le (frame : Frame) : frame.level ≤ 2 := by
  cases frame <;> simp only [level] <;> first | omega | (split <;> omega)

theorem Frame.level_of_holdsRun {frame : Frame} (holds : frame.holdsRun = true) :
    frame.level = 2 := by
  cases frame <;> first | rfl | cases holds | simp_all [holdsRun, level]

theorem Frame.level_of_holdsStep {frame : Frame} {ref : StepRef}
    (holds : frame.holdsStep ref = true) : frame.level = 2 := by
  cases frame <;> first | rfl | cases holds | simp_all [holdsStep, level]

theorem Frame.level_of_holdsSeries {frame : Frame} {ref : SeriesRef}
    (holds : frame.holdsSeries ref = true) : 1 ≤ frame.level := by
  cases frame <;> first | exact Nat.le_succ 1 | cases holds | simp_all [holdsSeries, level]

/-- Who has the mutex that the next step of a call takes. -/
def Process.awaited (process : Process) : Frame → Option ThreadId
  | .run (.addPreStartError _) | .run (.addPreStartLog _) | .run (.startAndRegisterDutInfo _)
  | .run .lockEnd => process.run.mutex
  | .step _ .checkStarted => process.run.mutex
  | .step ref (.setError _) | .step ref (.checkEnded _ _) | .step ref .skip
  | .step ref (.lockEnd _) => (process.steps ref).mutex
  | .series ref (.checkStep _) | .series ref (.checkElement _)
  | .series ref (.checkStepEnded _) => (process.steps (process.series ref).testStep).mutex
  | .series ref (.checkType _ _) | .series ref (.lockElement _)
  | .series ref (.lockEnd _) => (process.series ref).mutex
  | _ => none

/-- Whoever is waited for is further on than who waits. -/
theorem level_lt_of_awaited {process : Process} {frames : ThreadId → Frame}
    (locks : ∀ thread, process.Locks thread (frames thread)) (frame : Frame) (holder : ThreadId)
    (awaited : process.awaited frame = some holder) : frame.level < (frames holder).level := by
  have run : process.run.mutex = some holder → (frames holder).level = 2 := fun taken =>
    Frame.level_of_holdsRun ((locks holder).run taken)
  have step : ∀ ref, (process.steps ref).mutex = some holder → (frames holder).level = 2 :=
    fun ref taken => Frame.level_of_holdsStep ((locks holder).steps ref taken)
  have series : ∀ ref, (process.series ref).mutex = some holder → 1 ≤ (frames holder).level :=
    fun ref taken => Frame.level_of_holdsSeries ((locks holder).series ref taken)
  cases frame with
  | run frame =>
      cases frame <;> first | (rw [run awaited]; exact Nat.two_pos) | cases awaited
  | step ref frame =>
      cases frame <;>
        first
          | (rw [run awaited]; exact Nat.two_pos)
          | (rw [step ref awaited]; exact Nat.two_pos)
          | cases awaited
  | series ref frame =>
      cases frame <;>
        first
          | exact series ref awaited
          | (rw [step _ awaited]; exact Nat.one_lt_two)
          | (rw [step _ awaited]; exact Nat.two_pos)
          | cases awaited
  | _ => cases awaited

/- Nothing but a counter, and the first validator of a series, has undefined behaviour. -/

theorem TestResultCalculator.notify_ne_undefined (calculator : TestResultCalculator)
    (event : Notification) : calculator.notify event ≠ .undefined := by
  cases event <;>
    simp only [notify, notifyStartRun, notifySkip, notifyError, notifyFailureDiagnosis] <;>
    refine Outcome.bind_ne_undefined _ _ (check_ne_undefined _ _ _) fun _ => ?_
  · simp
  all_goals split <;> simp

theorem jsonToProtoOrDie_ne_undefined (protobuf : Protobuf) (json : String) :
    jsonToProtoOrDie protobuf json ≠ .undefined := by
  unfold jsonToProtoOrDie
  split
  · simp
  · split <;> simp

theorem TestRunStart.validateStructOrDie_ne_undefined (start : TestRunStart) :
    start.validateStructOrDie ≠ .undefined := by
  unfold validateStructOrDie
  refine Outcome.bind_ne_undefined _ _ (check_ne_undefined _ _ _) fun _ => ?_
  exact Outcome.bind_ne_undefined _ _ (check_ne_undefined _ _ _) fun _ => check_ne_undefined _ _ _

theorem TestRun.checkPreStart_ne_undefined (run : TestRun) (message : String)
    (validate : Outcome Unit) (defined : validate ≠ .undefined) :
    run.checkPreStart message validate ≠ .undefined :=
  Outcome.bind_ne_undefined _ _ (check_ne_undefined _ _ _) fun _ => defined

theorem TestRun.startArtifact_ne_undefined (protobuf : Protobuf) (run : TestRun)
    (dutInfos : DutRef → DutInfo) : run.startArtifact protobuf dutInfos ≠ .undefined := by
  unfold startArtifact TestRunStart.structToProto dutInfoToProto
  refine Outcome.bind_ne_undefined _ _ ?_ fun startProto => ?_
  · refine Outcome.bind_ne_undefined _ _ (jsonToProtoOrDie_ne_undefined _ _) fun _ => ?_
    exact Outcome.bind_ne_undefined _ _ (jsonToProtoOrDie_ne_undefined _ _) fun _ => by simp
  · cases run.dutInfo with
    | none => simp
    | some dutInfo =>
        refine Outcome.bind_ne_undefined _ _ ?_ fun _ => by simp
        exact Outcome.bind_ne_undefined _ _ (jsonToProtoOrDie_ne_undefined _ _) fun _ => by simp

theorem MeasurementSeries.setAndCheckSeriesType_ne_undefined (series : MeasurementSeries)
    (typeIndex : Int) : series.setAndCheckSeriesType typeIndex ≠ .undefined :=
  Outcome.bind_ne_undefined _ _ (check_ne_undefined _ _ _) fun _ => by simp

theorem MeasurementSeries.construct_ne_undefined (protobuf : Protobuf) (series : MeasurementSeries)
    (ref : SeriesRef) (start : MeasurementSeriesStart) (hasValue : start.FirstHasValue) :
    series.construct protobuf ref start ≠ .undefined := by
  have converts : ∀ made : MeasurementSeries, (do
      let proto ← start.structToProto protobuf
      return (made, { proto with measurementSeriesId := strCat ref }) :
        Outcome (MeasurementSeries × Pb.MeasurementSeriesStart)) ≠ .undefined := by
    intro made
    refine Outcome.bind_ne_undefined _ _ ?_ fun _ => by simp
    exact Outcome.bind_ne_undefined _ _ (jsonToProtoOrDie_ne_undefined _ _) fun _ => by simp
  unfold construct
  cases validated : start.validateStructOrDie with
  | undefined => exact absurd hasValue (start.validateStructOrDie_undefined_iff.mp validated)
  | die message => simp
  | ok value =>
      have wellFormed := start.validateStructOrDie_eq_ok.mp validated
      cases validators : start.validators with
      | nil => exact converts series
      | cons validator rest =>
          have nonempty := (wellFormed.validators validator (by simp [validators])).nonempty
          obtain ⟨first, others, values⟩ := List.exists_cons_of_ne_nil nonempty
          simp only [values, firstValue, Outcome.ok_bind]
          exact Outcome.bind_ne_undefined _ _ (setAndCheckSeriesType_ne_undefined _ _) converts

theorem MeasurementSeries.drawElement_ne_undefined (protobuf : Protobuf)
    (series : MeasurementSeries) (ref : SeriesRef) (element : MeasurementSeriesElement)
    (now : Pb.Timestamp) (inRange : series.elementCount.count < intMax) :
    series.drawElement protobuf ref element now ≠ .undefined := by
  unfold drawElement
  refine Outcome.bind_ne_undefined _ _ ?_ fun _ => ?_
  · exact Outcome.bind_ne_undefined _ _ (jsonToProtoOrDie_ne_undefined _ _) fun _ => by simp
  · simp [IntIncrementer.next, inRange]

theorem orDie_isSome {σ φ α : Type} (object : σ) (outcome : Outcome α)
    (next : α → σ × Request × Continue φ) (defined : outcome ≠ .undefined) :
    (orDie object outcome next).isSome = true := by
  cases outcome with
  | ok value => rfl
  | die message => rfl
  | undefined => exact absurd rfl defined

namespace Process

section

variable {process : Process}

theorem run_advance_isSome (protobuf : Protobuf) (thread : ThreadId) (frame : TestRun.Frame)
    (free : process.awaited (.run frame) = none) :
    (process.run.advance protobuf thread process.calculator process.dutInfos frame).isSome =
      true := by
  cases frame with
  | emitSchemaVersion => exact orDie_isSome _ _ _ (TestRunStart.validateStructOrDie_ne_undefined _)
  | addPreStartError error =>
      have unlocked : process.run.mutex = none := free
      simp only [TestRun.advance, unlocked]
      exact orDie_isSome _ _ _ (TestRun.checkPreStart_ne_undefined _ _ _ (check_ne_undefined _ _ _))
  | addPreStartLog log =>
      have unlocked : process.run.mutex = none := free
      simp only [TestRun.advance, unlocked]
      exact orDie_isSome _ _ _ (TestRun.checkPreStart_ne_undefined _ _ _ (check_ne_undefined _ _ _))
  | writePreStartLog log =>
      simp only [TestRun.advance]
      split <;> rfl
  | startAndRegisterDutInfo dutInfo =>
      have unlocked : process.run.mutex = none := free
      simp only [TestRun.advance, unlocked]
      cases dutInfo <;> rfl
  | emitStart => exact orDie_isSome _ _ _ (TestRun.startArtifact_ne_undefined _ _ _)
  | lockEnd =>
      have unlocked : process.run.mutex = none := free
      simp only [TestRun.advance, unlocked, Option.isSome_some]
  | emitMissingStart => exact orDie_isSome _ _ _ (TestRun.startArtifact_ne_undefined _ _ _)
  | _ => rfl

theorem step_advance_isSome (thread : ThreadId) (ref : StepRef) (frame : TestStep.Frame)
    (free : process.awaited (.step ref frame) = none) :
    ((process.steps ref).advance ref thread process.run.mutex process.run.started frame).isSome =
      true := by
  cases frame with
  | checkStarted =>
      have unlocked : process.run.mutex = none := free
      simp only [TestStep.advance, unlocked]
      exact orDie_isSome _ _ _ (check_ne_undefined _ _ _)
  | emitStart => exact orDie_isSome _ _ _ (check_ne_undefined _ _ _)
  | setError added =>
      have unlocked : (process.steps ref).mutex = none := free
      simp only [TestStep.advance, unlocked, Option.isSome_some]
  | checkEnded added fatal =>
      have unlocked : (process.steps ref).mutex = none := free
      simp only [TestStep.advance, unlocked]
      exact orDie_isSome _ _ _ (check_ne_undefined _ _ _)
  | skip =>
      have unlocked : (process.steps ref).mutex = none := free
      simp only [TestStep.advance, unlocked, Option.isSome_some]
  | lockEnd destroy =>
      have unlocked : (process.steps ref).mutex = none := free
      simp only [TestStep.advance, unlocked]
      split <;> rfl
  | _ => rfl

theorem series_advance_isSome (protobuf : Protobuf) (thread : ThreadId) (ref : SeriesRef)
    (frame : MeasurementSeries.Frame) (free : process.awaited (.series ref frame) = none)
    (inRange : (process.series ref).elementCount.count < intMax)
    (hasValue : ∀ start, frame = .emitStart start → start.FirstHasValue) :
    ((process.series ref).advance protobuf ref thread
      (process.steps (process.series ref).testStep).mutex
      (process.steps (process.series ref).testStep).ended frame).isSome = true := by
  cases frame with
  | checkStep start =>
      have unlocked : (process.steps (process.series ref).testStep).mutex = none := free
      simp only [MeasurementSeries.advance, unlocked]
      exact orDie_isSome _ _ _ (check_ne_undefined _ _ _)
  | emitStart start =>
      exact orDie_isSome _ _ _
        (MeasurementSeries.construct_ne_undefined _ _ _ _ (hasValue start rfl))
  | checkType element now =>
      have unlocked : (process.series ref).mutex = none := free
      simp only [MeasurementSeries.advance, unlocked]
      exact orDie_isSome _ _ _ (MeasurementSeries.setAndCheckSeriesType_ne_undefined _ _)
  | drawIndex element now =>
      exact orDie_isSome _ _ _ (MeasurementSeries.drawElement_ne_undefined _ _ _ _ _ inRange)
  | lockElement element =>
      have unlocked : (process.series ref).mutex = none := free
      simp only [MeasurementSeries.advance, unlocked, Option.isSome_some]
  | checkElement element =>
      have unlocked : (process.steps (process.series ref).testStep).mutex = none := free
      simp only [MeasurementSeries.advance, unlocked]
      refine orDie_isSome _ _ _ ?_
      exact Outcome.bind_ne_undefined _ _ (check_ne_undefined _ _ _) fun _ =>
        check_ne_undefined _ _ _
  | lockEnd destroy =>
      have unlocked : (process.series ref).mutex = none := free
      simp only [MeasurementSeries.advance, unlocked]
      split <;> rfl
  | checkStepEnded destroy =>
      have unlocked : (process.steps (process.series ref).testStep).mutex = none := free
      simp only [MeasurementSeries.advance, unlocked, Option.isSome_some]
  | drawTotalCount destroy =>
      refine orDie_isSome _ _ _ ?_
      simp only [IntIncrementer.next, inRange, ↓reduceIte, ne_eq, reduceCtorEq, not_false_eq_true]
  | _ => rfl

theorem perform_ne_undefined (settings : Settings) (origin : Origin) (now : Pb.Timestamp)
    (request : Request) (inRange : process.sequenceNumber.count < intMax) :
    process.perform settings origin now request ≠ .undefined := by
  cases request with
  | write artifact =>
      obtain ⟨next, wrote⟩ : ∃ next, process.write origin artifact now = .ok next :=
        ⟨_, (write_eq_ok _ _ _ _ _).mpr ⟨inRange, rfl⟩⟩
      simp [perform, wrote]
  | notify event =>
      exact Outcome.bind_ne_undefined _ _ (TestResultCalculator.notify_ne_undefined _ _) fun _ => by
        simp
  | registerDutInfo dutInfo =>
      exact Outcome.bind_ne_undefined _ _
        (TestResultCalculator.notify_ne_undefined _ .startRun) fun _ => by simp
  | finalize =>
      refine Outcome.bind_ne_undefined _ _ ?_ fun _ => by simp
      exact Outcome.bind_ne_undefined _ _ (check_ne_undefined _ _ _) fun _ => by simp
  | checkAndSetInitializationGuard =>
      exact Outcome.bind_ne_undefined _ _ (check_ne_undefined _ _ _) fun _ => by simp
  | _ => simp [perform]

theorem complete_isSome (settings : Settings) (origin : Origin) (now : Pb.Timestamp)
    (request : Request) (update : Process → Process) (next : Frame)
    (inRange : process.sequenceNumber.count < intMax) :
    (process.complete settings origin now request update next).isSome = true := by
  unfold complete
  split
  · rfl
  · rfl
  · rename_i undefined
    exact absurd undefined (perform_ne_undefined _ _ _ _ inRange)

end

/-- No call under way uses an object that has been destroyed, and none is at an expression whose
value the code takes for granted: the next number of a counter, the first value of a validator. -/
structure Defined (process : Process) (frames : ThreadId → Frame) : Prop where
  usable : ∀ thread, process.usable (frames thread) = true
  sequenceNumber : process.sequenceNumber.count < intMax
  elementCount : ∀ ref, (process.series ref).elementCount.count < intMax
  firstHasValue : ∀ thread ref start, frames thread = .series ref (.emitStart start) →
    start.FirstHasValue

theorem deliver_isOk {process : Process} (severity : AbslSeverity) (message : String)
    (now : Pb.Timestamp) (inRange : process.sequenceNumber.count < intMax) :
    ∃ next, process.deliver severity message now = .ok next := by
  unfold deliver
  split
  · exact ⟨_, (write_eq_ok _ _ _ _ _).mpr ⟨inRange, rfl⟩⟩
  · exact ⟨process, rfl⟩

/-- A call that waits for no mutex goes on. -/
theorem advance_isSome {process : Process} {frames : ThreadId → Frame}
    (defined : process.Defined frames) (settings : Settings) (thread : ThreadId)
    (now : Pb.Timestamp) (inCall : frames thread ≠ .idle)
    (free : process.awaited (frames thread) = none) :
    (process.advance settings thread now (frames thread)).isSome = true := by
  cases frame : frames thread with
  | idle => exact absurd frame inCall
  | run inner =>
      rw [frame] at free
      obtain ⟨⟨run, request, rest⟩, taken⟩ := Option.isSome_iff_exists.mp
        (run_advance_isSome settings.protobuf thread inner free)
      simp only [advance, taken, Option.bind_some]
      exact complete_isSome _ _ _ _ _ _ defined.sequenceNumber
  | step ref inner =>
      rw [frame] at free
      obtain ⟨⟨step, request, rest⟩, taken⟩ := Option.isSome_iff_exists.mp
        (step_advance_isSome thread ref inner free)
      simp only [advance, taken, Option.bind_some]
      exact complete_isSome _ _ _ _ _ _ defined.sequenceNumber
  | series ref inner =>
      rw [frame] at free
      have hasValue : ∀ start, inner = .emitStart start → start.FirstHasValue := fun start same =>
        defined.firstHasValue thread ref start (by rw [frame, same])
      obtain ⟨⟨series, request, rest⟩, taken⟩ := Option.isSome_iff_exists.mp
        (series_advance_isSome settings.protobuf thread ref inner free (defined.elementCount ref)
          hasValue)
      simp only [advance, taken, Option.bind_some]
      exact complete_isSome _ _ _ _ _ _ defined.sequenceNumber
  | dying message =>
      obtain ⟨next, delivered⟩ := deliver_isOk .fatal message now defined.sequenceNumber
      simp only [advance, delivered, Outcome.toOption, Option.map_some, Option.isSome_some]
  | aborting => rfl

end Process

/-- How many steps are left of a call, at most. A failed check leaves one more. -/
def TestRun.Frame.rank : TestRun.Frame → Nat
  | .checkAndSetInitializationGuard => 4
  | .registerLogSink => 3
  | .emitSchemaVersion => 2
  | .addPreStartError _ => 4
  | .writePreStartError _ => 3
  | .notifyPreStartError => 2
  | .addPreStartLog _ => 3
  | .writePreStartLog _ => 2
  | .startAndRegisterDutInfo _ => 5
  | .notifyStartRun _ => 4
  | .destroyPreviousDutInfo _ => 3
  | .emitStart => 2
  | .skip => 2
  | .lockEnd => 10
  | .emitMissingStart => 9
  | .finalize => 8
  | .readStatus => 7
  | .readResult _ => 6
  | .emitEnd _ _ => 5
  | .deregisterLogSink => 4
  | .unsetInitializationGuard => 3
  | .destroyMembers => 2

def TestStep.Frame.rank : TestStep.Frame → Nat
  | .checkStarted => 3
  | .emitStart => 2
  | .notifyFailureDiagnosis _ => 4
  | .setError _ => 5
  | .notifyError _ => 4
  | .checkEnded _ _ => 3
  | .assignIdAndEmit _ _ => 2
  | .skip => 4
  | .lockEnd _ => 3
  | .emitEnd _ => 2

def MeasurementSeries.Frame.rank : MeasurementSeries.Frame → Nat
  | .checkStep _ => 3
  | .emitStart _ => 2
  | .checkType _ _ => 6
  | .drawIndex _ _ => 5
  | .lockElement _ => 4
  | .checkElement _ => 3
  | .emitElement _ => 2
  | .lockEnd _ => 5
  | .checkStepEnded _ => 4
  | .drawTotalCount _ => 3
  | .emitEnd _ _ => 2

def Frame.rank : Frame → Nat
  | .idle | .aborting => 0
  | .dying _ => 1
  | .run frame => frame.rank
  | .step _ frame => frame.rank
  | .series _ frame => frame.rank

theorem Frame.rank_le (frame : Frame) : frame.rank ≤ 10 := by
  cases frame with
  | run inner => cases inner <;> simp only [rank, TestRun.Frame.rank] <;> omega
  | step ref inner => cases inner <;> simp only [rank, TestStep.Frame.rank] <;> omega
  | series ref inner => cases inner <;> simp only [rank, MeasurementSeries.Frame.rank] <;> omega
  | _ => simp only [rank]; omega

/-- At every point of a call a failed check leaves less of it. -/
theorem Frame.rank_dying_lt (frame : Frame) (message : String) (inCall : frame ≠ .idle)
    (alive : ∀ other, frame ≠ .dying other) (running : frame ≠ .aborting) :
    (Frame.dying message).rank < frame.rank := by
  cases frame with
  | idle => exact absurd rfl inCall
  | run inner => cases inner <;> simp [rank, TestRun.Frame.rank]
  | step ref inner => cases inner <;> simp [rank, TestStep.Frame.rank]
  | series ref inner => cases inner <;> simp [rank, MeasurementSeries.Frame.rank]
  | dying other => exact absurd rfl (alive other)
  | aborting => exact absurd rfl running

/-- A step of a call leaves less of it. -/
theorem TestRun.advances_rank {protobuf : Protobuf} {run next : TestRun} {thread : ThreadId}
    {calculator : TestResultCalculator} {dutInfos : DutRef → DutInfo} {frame : Frame}
    {request : Request} {rest : Continue Frame}
    (advances : Advances protobuf run thread calculator dutInfos frame next request rest) :
    (rest.toFrame .run).rank < frame.rank := by
  cases advances with
  | lockEnd free => cases run.started <;> simp [Continue.toFrame, Results.Frame.rank, Frame.rank]
  | _ => simp [Continue.toFrame, Results.Frame.rank, Frame.rank]

theorem TestStep.advances_rank {step next : TestStep} {ref : StepRef} {thread : ThreadId}
    {runMutex : Option ThreadId} {runStarted : Bool} {frame : Frame} {request : Request}
    {rest : Continue Frame}
    (advances : Advances step ref thread runMutex runStarted frame next request rest) :
    (rest.toFrame (.step ref)).rank < frame.rank := by
  cases advances <;> simp [Continue.toFrame, Results.Frame.rank, Frame.rank]

theorem MeasurementSeries.advances_rank {protobuf : Protobuf} {series next : MeasurementSeries}
    {ref : SeriesRef} {thread : ThreadId} {stepMutex : Option ThreadId} {stepEnded : Bool}
    {frame : Frame} {request : Request} {rest : Continue Frame}
    (advances : Advances protobuf series ref thread stepMutex stepEnded frame next request rest) :
    (rest.toFrame (.series ref)).rank < frame.rank := by
  cases advances <;> simp [Continue.toFrame, Results.Frame.rank, Frame.rank]

/-- What is left of the calls under way, and the end of the process. -/
def remaining (threads : Finset ThreadId) (pool : Pool Process Frame) : Nat :=
  work Frame.rank threads pool + if pool.shared.aborted then 0 else 1

/-- An own step lowers the thread's rank, or ends the process. -/
theorem Process.advance_lowers {settings : Settings} {process next : Process} {thread : ThreadId}
    {now : Pb.Timestamp} {frame after : Frame}
    (taken : process.advance settings thread now frame = some (next, after)) :
    after.rank < frame.rank ∨ frame = .aborting ∧ after = .aborting ∧ next.aborted = true := by
  cases frame with
  | idle => cases taken
  | run inner =>
      simp only [advance, Option.bind_eq_some_iff, Prod.exists] at taken
      obtain ⟨run, request, rest, advanced, completed⟩ := taken
      have lower := TestRun.advances_rank (TestRun.advances_of_advance _ _ _ _ _ _ _ _ _ advanced)
      rcases complete_eq_some _ _ _ _ _ _ _ _ completed with
        ⟨_, _, same⟩ | ⟨message, _, same⟩
      · cases same
        exact Or.inl lower
      · cases same
        exact Or.inl (Frame.rank_dying_lt _ _ (by simp) (by simp) (by simp))
  | step ref inner =>
      simp only [advance, Option.bind_eq_some_iff, Prod.exists] at taken
      obtain ⟨step, request, rest, advanced, completed⟩ := taken
      have lower := TestStep.advances_rank (TestStep.advances_of_advance _ _ _ _ _ _ _ _ _ advanced)
      rcases complete_eq_some _ _ _ _ _ _ _ _ completed with
        ⟨_, _, same⟩ | ⟨message, _, same⟩
      · cases same
        exact Or.inl lower
      · cases same
        exact Or.inl (Frame.rank_dying_lt _ _ (by simp) (by simp) (by simp))
  | series ref inner =>
      simp only [advance, Option.bind_eq_some_iff, Prod.exists] at taken
      obtain ⟨series, request, rest, advanced, completed⟩ := taken
      have lower := MeasurementSeries.advances_rank
        (MeasurementSeries.advances_of_advance _ _ _ _ _ _ _ _ _ _ advanced)
      rcases complete_eq_some _ _ _ _ _ _ _ _ completed with
        ⟨_, _, same⟩ | ⟨message, _, same⟩
      · cases same
        exact Or.inl lower
      · cases same
        exact Or.inl (Frame.rank_dying_lt _ _ (by simp) (by simp) (by simp))
  | dying message =>
      simp only [advance, Option.map_eq_some_iff, Prod.mk.injEq] at taken
      obtain ⟨_, _, _, rfl⟩ := taken
      exact Or.inl Nat.one_pos
  | aborting =>
      cases taken
      exact Or.inr ⟨rfl, rfl, rfl⟩

theorem exec_advance {settings : Settings} {label : Label} {thread : ThreadId}
    {process : Process} {frame : Frame} (action : label.action = .advance)
    (running : process.aborted = false) (usable : process.usable frame = true) :
    process.exec settings label thread frame = process.advance settings thread label.now frame := by
  simp only [Process.exec, running, usable, Bool.not_true, Bool.or_self, Bool.false_eq_true,
    ↓reduceIte, action]

/-- Threads outside the set are in no call. -/
def OutsideIdle (threads : Finset ThreadId) (pool : Pool Process Frame) : Prop :=
  ∀ thread, thread ∉ threads → pool.frames thread = .idle

/-- A step of a call under way is one of the given threads', and lowers what remains. -/
theorem remaining_lt {settings : Settings} {threads : Finset ThreadId}
    {pool next : Pool Process Frame} {label : ThreadId × Label} (outside : OutsideIdle threads pool)
    (action : label.2.action = .advance)
    (stepped : systemStep settings pool label = some next) :
    OutsideIdle threads next ∧ remaining threads next < remaining threads pool := by
  obtain ⟨shared, frame, taken, rfl⟩ := (poolStep_eq_some _ pool next label).mp stepped
  have enabled := taken
  simp only [Process.exec, Option.ite_none_left_eq_some, Bool.or_eq_true, Bool.not_eq_true',
    not_or, Bool.not_eq_true, action] at enabled
  obtain ⟨⟨running, -⟩, advanced⟩ := enabled
  have member : label.1 ∈ threads := by
    by_contra absent
    rw [outside label.1 absent] at advanced
    cases advanced
  refine ⟨fun other absent => ?_, ?_⟩
  · have different : other ≠ label.1 := fun same => absent (same ▸ member)
    simpa only [ne_eq, different, not_false_eq_true, Function.update_of_ne] using
      outside other absent
  · rcases Process.advance_lowers advanced with lower | ⟨was, rfl, aborted⟩
    · have less := work_update_lt Frame.rank threads pool shared label.1 frame member lower
      simp only [remaining, running]
      split <;> simp only [Bool.false_eq_true, ↓reduceIte] <;> omega
    · have same : Function.update pool.frames label.1 .aborting = pool.frames := by
        rw [← was, Function.update_eq_self]
      simp only [remaining, same, running, aborted, work, Bool.false_eq_true, ↓reduceIte]
      omega

/-- The threads that the labels are of. -/
def callers (labels : List (ThreadId × Label)) : Finset ThreadId := (labels.map (·.1)).toFinset

theorem outsideIdle_of_run (settings : Settings) (testRunStart : TestRunStart)
    (labels : List (ThreadId × Label)) (pool : Pool Process Frame)
    (reached : Runs.run (systemStep settings) (initialPool testRunStart) labels = some pool) :
    OutsideIdle (callers labels) pool := by
  refine Runs.run_preserves_history (systemStep settings)
    (fun history pool => OutsideIdle (callers history) pool) ?_ [] (initialPool testRunStart) pool
    labels (fun _ _ => rfl) reached
  intro history state label next outside stepped thread absent
  obtain ⟨shared, frame, _, rfl⟩ := (poolStep_eq_some _ state next label).mp stepped
  simp only [callers, List.map_append, List.map_cons, List.map_nil, List.toFinset_append,
    List.toFinset_cons, List.toFinset_nil, insert_empty_eq, Finset.mem_union, Finset.mem_singleton,
    not_or] at absent
  simpa only [ne_eq, absent.2, not_false_eq_true, Function.update_of_ne] using
    outside thread absent.1

theorem atRest_of_callers (settings : Settings) (testRunStart : TestRunStart)
    (labels : List (ThreadId × Label)) (pool : Pool Process Frame)
    (reached : Runs.run (systemStep settings) (initialPool testRunStart) labels = some pool)
    (returned : ∀ thread ∈ callers labels, pool.frames thread = .idle) (thread : ThreadId) :
    pool.frames thread = .idle := by
  by_cases member : thread ∈ callers labels
  · exact returned thread member
  · exact outsideIdle_of_run settings testRunStart labels pool reached thread member

/-- In a reachable state with a call under way, one of them can take its next step. -/
theorem exists_goesOn (settings : Settings) (testRunStart : TestRunStart)
    (labels : List (ThreadId × Label)) (pool : Pool Process Frame)
    (reached : Runs.run (systemStep settings) (initialPool testRunStart) labels = some pool)
    (running : pool.shared.aborted = false) (defined : pool.shared.Defined pool.frames)
    (thread : ThreadId) (inCall : pool.frames thread ≠ .idle) :
    ∃ other next, systemStep settings pool (other, { action := .advance }) = some next := by
  have locks := locks_of_run settings testRunStart labels pool reached
  have awaits : ∀ thread, pool.frames thread ≠ .idle →
      pool.shared.awaited (pool.frames thread) = none ∨ ∃ holder, pool.frames holder ≠ .idle ∧
        (pool.frames thread).level < (pool.frames holder).level := by
    intro thread _
    cases awaited : pool.shared.awaited (pool.frames thread) with
    | none => exact Or.inl rfl
    | some holder =>
        have above := level_lt_of_awaited locks (pool.frames thread) holder awaited
        refine Or.inr ⟨holder, fun idle => ?_, above⟩
        rw [idle] at above
        exact Nat.not_lt_zero _ above
  obtain ⟨other, busy, free⟩ := exists_ready (fun thread => pool.frames thread ≠ .idle)
    (fun thread => pool.shared.awaited (pool.frames thread) = none)
    (fun thread => (pool.frames thread).level) 2 (fun thread => Frame.level_le _) awaits thread
    inCall
  obtain ⟨⟨shared, frame⟩, taken⟩ := Option.isSome_iff_exists.mp
    (Process.advance_isSome defined settings other {} busy free)
  refine ⟨other, _, (poolStep_eq_some _ pool _ _).mpr ⟨shared, frame, ?_, rfl⟩⟩
  exact (exec_advance rfl running (defined.usable other)).trans taken

/-- With no call under way nothing is undefined but a counter at its end. -/
theorem Process.defined_of_idle {process : Process} {frames : ThreadId → Frame}
    (idle : ∀ thread, frames thread = .idle)
    (sequenceNumber : process.sequenceNumber.count < intMax)
    (elementCount : ∀ ref, (process.series ref).elementCount.count < intMax) :
    process.Defined frames where
  usable thread := by rw [idle]; rfl
  sequenceNumber := sequenceNumber
  elementCount := elementCount
  firstHasValue thread ref start inCall := by
    rw [idle] at inCall
    cases inCall

/-- A thread that is in no call has none to go on with. -/
theorem systemStep_idle_eq_none (settings : Settings) (pool : Pool Process Frame)
    (label : ThreadId × Label) (action : label.2.action = .advance)
    (idle : pool.frames label.1 = .idle) : systemStep settings pool label = none := by
  refine Option.eq_none_iff_forall_ne_some.mpr fun next stepped => ?_
  obtain ⟨shared, frame, taken, -⟩ := (poolStep_eq_some _ pool next label).mp stepped
  simp [Process.exec, action, idle, Process.advance] at taken

/-- However the threads are scheduled, the calls under way take ten steps each at most, and when
none of them can take another, every call has returned or the process has ended. -/
theorem calls_return (settings : Settings) (testRunStart : TestRunStart)
    (labels schedule : List (ThreadId × Label)) (pool final : Pool Process Frame)
    (reached : Runs.run (systemStep settings) (initialPool testRunStart) labels = some pool)
    (advances : ∀ label ∈ schedule, label.2.action = .advance)
    (continued : Runs.run (systemStep settings) pool schedule = some final) :
    schedule.length ≤ 10 * (callers labels).card + 1 ∧
    (final.shared.Defined final.frames →
      (∀ label, label.2.action = .advance → systemStep settings final label = none) →
      final.shared.aborted = true ∨ ∀ thread, final.frames thread = .idle) := by
  refine ⟨?_, fun defined stuck => ?_⟩
  · have outside := outsideIdle_of_run settings testRunStart labels pool reached
    have bounded : remaining (callers labels) pool ≤ 10 * (callers labels).card + 1 := by
      have each := work_le Frame.rank 10 Frame.rank_le (callers labels) pool
      unfold remaining
      split <;> omega
    have shorter := Runs.length_add_le_of_lowers (·.2.action = .advance)
      (OutsideIdle (callers labels)) (remaining (callers labels))
      (fun _ _ _ action outside stepped => remaining_lt outside action stepped) pool final schedule
      advances outside continued
    omega
  · have whole := Runs.run_append _ _ _ _ _ reached continued
    cases running : final.shared.aborted with
    | true => exact Or.inl rfl
    | false =>
        refine Or.inr fun thread => by_contra fun inCall => ?_
        obtain ⟨other, next, stepped⟩ := exists_goesOn settings testRunStart _ final whole running
          defined thread inCall
        rw [stuck _ rfl] at stepped
        cases stepped

/-- Thread 0 is about to write the end of its step, and thread 1 waits for it with its series'
mutex in its hands. -/
def waitingLabels : List (ThreadId × Label) :=
  sampleStart ++ callLabels 0 (.newTestStep "fans") 2 ++
    callLabels 1 (.newMeasurementSeries 0 { name := "spinning" }) 2 ++
    callLabels 0 (.endTestStep 0) 1 ++ callLabels 1 (.endMeasurementSeries 0) 1

/-- Thread 0 returns, and then thread 1. -/
def returningLabels : List (ThreadId × Label) :=
  (0, { action := .advance }) :: List.replicate 3 (1, { action := .advance })

/-- The run of the two schedules, with what it ends in. -/
theorem waitingLabels_run :
    ∃ pool final, Runs.run (systemStep sampleSettings) (initialPool sampleTestRunStart)
        waitingLabels = some pool ∧
      systemStep sampleSettings pool (1, { action := .advance }) = none ∧
      Runs.run (systemStep sampleSettings) pool returningLabels = some final ∧
      final.frames 0 = .idle ∧ final.frames 1 = .idle ∧
      final.shared.sequenceNumber.count < intMax ∧
      ∀ ref, (final.shared.series ref).elementCount.count < intMax := by
  refine ⟨_, _, rfl, rfl, rfl, rfl, rfl, of_decide_eq_true rfl, fun ref => ?_⟩
  cases ref with
  | zero => exact of_decide_eq_true rfl
  | succ ref => exact of_decide_eq_true rfl

theorem calls_return_waitingLabels :
    ∃ pool final, Runs.run (systemStep sampleSettings) (initialPool sampleTestRunStart)
        waitingLabels = some pool ∧
      systemStep sampleSettings pool (1, { action := .advance }) = none ∧
      Runs.run (systemStep sampleSettings) pool returningLabels = some final ∧
      returningLabels.length ≤ 10 * (callers waitingLabels).card + 1 ∧
      final.shared.Defined final.frames ∧
      (∀ label, label.2.action = .advance → systemStep sampleSettings final label = none) ∧
      (final.shared.aborted = true ∨ ∀ thread, final.frames thread = .idle) := by
  obtain ⟨pool, final, reached, waits, continued, first, second, sequenceNumber, elementCount⟩ :=
    waitingLabels_run
  have only : callers (waitingLabels ++ returningLabels) = {0, 1} := by decide
  have idle : ∀ thread, final.frames thread = .idle :=
    atRest_of_callers sampleSettings sampleTestRunStart _ final
      (Runs.run_append _ _ _ _ _ reached continued) (by simp [only, first, second])
  have defined : final.shared.Defined final.frames :=
    Process.defined_of_idle idle sequenceNumber elementCount
  have stuck : ∀ label, label.2.action = .advance →
      systemStep sampleSettings final label = none :=
    fun label advances => systemStep_idle_eq_none _ _ _ advances (idle _)
  obtain ⟨bounded, returned⟩ := calls_return sampleSettings sampleTestRunStart waitingLabels
    returningLabels pool final reached (by simp [returningLabels]) continued
  exact ⟨pool, final, reached, waits, continued, bounded, defined, stuck, returned defined stuck⟩

end OcpDiag.Results
