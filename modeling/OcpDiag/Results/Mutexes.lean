import OcpDiag.Results.ProcessMoves

set_option autoImplicit false

/- Which mutex a thread holds at which point of its calls, and that no other thread changes
what the mutex guards. -/
namespace OcpDiag.Results

open ThreadPool

/-- The constructor has returned. -/
def Lifetime.constructed : Lifetime → Bool
  | .unborn | .constructing _ => false
  | .live | .destroying _ | .destroyed => true

/-- What a thread leaves of a lifetime: nobody else's constructor, and no object that has been
constructed, is undone. -/
structure Lifetime.Keeps (thread : ThreadId) (before after : Lifetime) : Prop where
  constructing : ∀ other, other ≠ thread → before = .constructing other →
    after = .constructing other
  constructed : before.constructed = true → after.constructed = true

theorem Lifetime.Keeps.refl (thread : ThreadId) (lifetime : Lifetime) :
    lifetime.Keeps thread lifetime := ⟨fun _ _ same => same, id⟩

theorem Lifetime.Keeps.of_constructing (thread : ThreadId) (before after : Lifetime)
    (mine : before = .constructing thread) : before.Keeps thread after := by
  subst mine
  refine ⟨fun other different same => ?_, fun constructed => by cases constructed⟩
  exact absurd (Lifetime.constructing.inj same).symm different

theorem Lifetime.Keeps.of_constructed (thread : ThreadId) (before after : Lifetime)
    (was : before.constructed = true) (is : after.constructed = true) :
    before.Keeps thread after := by
  refine ⟨fun other _ same => ?_, fun _ => is⟩
  subst same
  cases was

/-- A thread that begins to construct or destroy an object leaves what the others rely on. -/
theorem Lifetime.Keeps.of_unborn (thread : ThreadId) (before after : Lifetime)
    (unborn : before = .unborn) : before.Keeps thread after := by
  subst unborn
  exact ⟨fun _ _ same => (by cases same), fun constructed => by cases constructed⟩

/-- A mutex that is free or held by the thread itself is held by no other. -/
theorem not_held_by_other {mutex : Option ThreadId} {thread other : ThreadId}
    (access : mutex = none ∨ mutex = some thread) (different : other ≠ thread) :
    mutex ≠ some other := by
  rintro rfl
  rcases access with none | mine
  · cases none
  · exact different (Option.some.inj mine)

namespace TestStep

/-- The points at which the thread holds the step's mutex. -/
def Frame.holds : Frame → Bool
  | .assignIdAndEmit _ _ | .emitEnd _ => true
  | _ => false

def Frame.constructs : Frame → Bool
  | .checkStarted | .emitStart => true
  | _ => false

/-- What a thread relies on at a point of a call. -/
structure Frame.Placed (step : TestStep) (thread : ThreadId) (frame : Frame) : Prop where
  held : frame.holds = true → step.mutex = some thread
  constructing : frame.constructs = true → step.lifetime = .constructing thread
  constructed : frame.constructs = false → step.lifetime.constructed = true

/-- What a thread leaves for the others. -/
structure Keeps (thread : ThreadId) (before after : TestStep) : Prop where
  guarded : ∀ other, other ≠ thread → before.mutex = some other →
    after.mutex = some other ∧ after.ended = before.ended ∧ after.status = before.status
  lifetime : before.lifetime.Keeps thread after.lifetime
  ended : before.ended = true → after.ended = true

theorem Keeps.refl (thread : ThreadId) (step : TestStep) : step.Keeps thread step :=
  ⟨fun _ _ theirs => ⟨theirs, rfl, rfl⟩, .refl _ _, id⟩

theorem Keeps.of_access {thread : ThreadId} {before after : TestStep}
    (access : before.mutex = none ∨ before.mutex = some thread)
    (lifetime : before.lifetime.Keeps thread after.lifetime)
    (ended : before.ended = true → after.ended = true) : before.Keeps thread after :=
  ⟨fun _ different theirs => absurd theirs (not_held_by_other access different), lifetime, ended⟩

theorem Keeps.of_afterEnd {thread : ThreadId} {before : TestStep} (destroy : Bool)
    (mutex : Option ThreadId) (access : before.mutex = none ∨ before.mutex = some thread)
    (constructed : before.lifetime.constructed = true) :
    before.Keeps thread ({ before with mutex }.afterEnd destroy) := by
  cases destroy
  · exact .of_access access (.refl _ _) id
  · exact .of_access access (.of_constructed _ _ _ constructed rfl) id

theorem advances_keeps {step next : TestStep} {ref : StepRef} {thread : ThreadId}
    {runMutex : Option ThreadId} {runStarted : Bool} {frame : Frame} {request : Request}
    {rest : Continue Frame} (placed : frame.Placed step thread)
    (advances : Advances step ref thread runMutex runStarted frame next request rest) :
    step.Keeps thread next := by
  cases advances with
  | emitStart =>
      exact ⟨fun _ _ theirs => ⟨theirs, rfl, rfl⟩,
        .of_constructing _ _ _ (placed.constructing rfl), id⟩
  | setError added free => exact .of_access (Or.inl free) (.refl _ _) id
  | checkEnded added fatal free => exact .of_access (Or.inl free) (.refl _ _) id
  | checkEndedDies added fatal message free => exact .of_access (Or.inl free) (.refl _ _) id
  | assignIdAndEmit added => exact .of_access (Or.inr (placed.held rfl)) (.refl _ _) id
  | assignIdAndEmitFatal added message =>
      exact .of_access (Or.inr (placed.held rfl)) (.refl _ _) id
  | skip free => exact .of_access (Or.inl free) (.refl _ _) id
  | endAgain destroy free =>
      exact .of_afterEnd destroy step.mutex (Or.inl free) (placed.constructed rfl)
  | lockEnd destroy free => exact .of_access (Or.inl free) (.refl _ _) fun _ => rfl
  | emitEnd destroy => exact .of_afterEnd destroy none (Or.inr (placed.held rfl)) (placed.constructed rfl)
  | _ => exact .refl _ _

theorem advances_placed {step next : TestStep} {ref : StepRef} {thread : ThreadId}
    {runMutex : Option ThreadId} {runStarted : Bool} {frame after : Frame} {request : Request}
    (placed : frame.Placed step thread)
    (advances : Advances step ref thread runMutex runStarted frame next request (.next after)) :
    after.Placed next thread := by
  cases advances with
  | checkStarted => exact ⟨by rintro ⟨⟩, placed.constructing, by rintro ⟨⟩⟩
  | checkEnded => exact ⟨fun _ => rfl, by rintro ⟨⟩, placed.constructed⟩
  | lockEnd => exact ⟨fun _ => rfl, by rintro ⟨⟩, placed.constructed⟩
  | _ => exact ⟨by rintro ⟨⟩, by rintro ⟨⟩, placed.constructed⟩

theorem Frame.Placed.born {step : TestStep} {thread : ThreadId} {frame : Frame}
    (placed : frame.Placed step thread) : step.lifetime ≠ .unborn := by
  intro unborn
  cases constructs : frame.constructs with
  | true =>
      have mine := placed.constructing constructs
      rw [unborn] at mine
      cases mine
  | false =>
      have constructed := placed.constructed constructs
      rw [unborn] at constructed
      cases constructed

theorem placed_of_keeps {before after : TestStep} {thread other : ThreadId} {frame : Frame}
    (different : other ≠ thread) (keeps : before.Keeps thread after)
    (placed : frame.Placed before other) : frame.Placed after other :=
  ⟨fun holds => (keeps.guarded other different (placed.held holds)).1,
    fun constructs => keeps.lifetime.constructing other different (placed.constructing constructs),
    fun constructed => keeps.lifetime.constructed (placed.constructed constructed)⟩

end TestStep

namespace MeasurementSeries

/-- The points at which the thread holds the series' mutex. -/
def Frame.holds : Frame → Bool
  | .checkElement _ | .emitElement _ | .checkStepEnded _ | .drawTotalCount _ | .emitEnd _ _ => true
  | _ => false

def Frame.constructs : Frame → Bool
  | .checkStep _ | .emitStart _ => true
  | _ => false

structure Frame.Placed (series : MeasurementSeries) (thread : ThreadId) (frame : Frame) :
    Prop where
  held : frame.holds = true → series.mutex = some thread
  constructing : frame.constructs = true → series.lifetime = .constructing thread
  constructed : frame.constructs = false → series.lifetime.constructed = true

structure Keeps (thread : ThreadId) (before after : MeasurementSeries) : Prop where
  guarded : ∀ other, other ≠ thread → before.mutex = some other →
    after.mutex = some other ∧ after.ended = before.ended ∧
      (before.lifetime.constructed = true → after.typeIndex = before.typeIndex)
  lifetime : before.lifetime.Keeps thread after.lifetime
  ended : before.ended = true → after.ended = true
  testStep : after.testStep = before.testStep

theorem Keeps.refl (thread : ThreadId) (series : MeasurementSeries) :
    series.Keeps thread series :=
  ⟨fun _ _ theirs => ⟨theirs, rfl, fun _ => rfl⟩, .refl _ _, id, rfl⟩

theorem Keeps.of_access {thread : ThreadId} {before after : MeasurementSeries}
    (access : before.mutex = none ∨ before.mutex = some thread)
    (lifetime : before.lifetime.Keeps thread after.lifetime)
    (ended : before.ended = true → after.ended = true) (testStep : after.testStep = before.testStep) :
    before.Keeps thread after :=
  ⟨fun _ different theirs => absurd theirs (not_held_by_other access different), lifetime, ended,
    testStep⟩

theorem Keeps.of_afterEnd {thread : ThreadId} {before : MeasurementSeries} (destroy : Bool)
    (mutex : Option ThreadId) (access : before.mutex = none ∨ before.mutex = some thread)
    (constructed : before.lifetime.constructed = true) :
    before.Keeps thread ({ before with mutex }.afterEnd destroy) := by
  cases destroy
  · exact .of_access access (.refl _ _) id rfl
  · exact .of_access access (.of_constructed _ _ _ constructed rfl) id rfl

/-- The type is all that is checked and set. -/
theorem setAndCheckSeriesType_eq_ok {series next : MeasurementSeries} {typeIndex : Int}
    (checked : series.setAndCheckSeriesType typeIndex = .ok next) :
    next = { series with typeIndex } ∧ (series.typeIndex = -1 ∨ series.typeIndex = typeIndex) := by
  obtain ⟨testStep, elementCount, mutex, ended, current, lifetime⟩ := series
  by_cases unset : current = -1
  · simp only [setAndCheckSeriesType, unset, ↓reduceIte, beq_self_eq_true, check_true,
      Outcome.ok_bind, Outcome.pure_eq_ok, Outcome.ok.injEq] at checked
    exact ⟨checked.symm, Or.inl unset⟩
  · simp only [setAndCheckSeriesType, unset, ↓reduceIte, Outcome.bind_eq_ok, check_eq_ok,
      beq_iff_eq, Outcome.pure_eq_ok, Outcome.ok.injEq] at checked
    obtain ⟨_, same, rfl⟩ := checked
    exact ⟨by rw [same], Or.inr same⟩

theorem construct_eq_ok {protobuf : Protobuf} {series next : MeasurementSeries} {ref : SeriesRef}
    {start : MeasurementSeriesStart} {proto : Pb.MeasurementSeriesStart}
    (built : series.construct protobuf ref start = .ok (next, proto)) :
    (∃ typeIndex, next = { series with typeIndex }) ∧ proto.measurementSeriesId = strCat ref := by
  simp only [construct, Outcome.bind_eq_ok] at built
  obtain ⟨_, _, built⟩ := built
  cases validators : start.validators with
  | nil =>
      simp only [validators, Outcome.pure_eq_ok, Outcome.ok_bind, Outcome.bind_eq_ok,
        Outcome.ok.injEq, Prod.mk.injEq] at built
      obtain ⟨_, _, rfl, rfl⟩ := built
      exact ⟨⟨_, rfl⟩, rfl⟩
  | cons validator rest =>
      simp only [validators, Outcome.bind_eq_ok, Outcome.pure_eq_ok,
        Outcome.ok.injEq, Prod.mk.injEq] at built
      obtain ⟨_, _, _, checked, _, _, rfl, rfl⟩ := built
      exact ⟨⟨_, (setAndCheckSeriesType_eq_ok checked).1⟩, rfl⟩

theorem drawElement_eq_ok {protobuf : Protobuf} {series next : MeasurementSeries}
    {ref : SeriesRef} {element : MeasurementSeriesElement} {now : Pb.Timestamp}
    {proto : Pb.MeasurementSeriesElement}
    (drawn : series.drawElement protobuf ref element now = .ok (next, proto)) :
    next = { series with elementCount := ⟨series.elementCount.count + 1⟩ } ∧
    proto.index = series.elementCount.count ∧ proto.measurementSeriesId = strCat ref := by
  simp only [drawElement, Outcome.bind_eq_ok, Prod.exists, IntIncrementer.next_eq_ok,
    Outcome.pure_eq_ok, Outcome.ok.injEq, Prod.mk.injEq] at drawn
  obtain ⟨_, _, _, _, ⟨_, rfl, rfl⟩, rfl, rfl⟩ := drawn
  exact ⟨rfl, rfl, rfl⟩

theorem advances_keeps {protobuf : Protobuf} {series next : MeasurementSeries} {ref : SeriesRef}
    {thread : ThreadId} {stepMutex : Option ThreadId} {stepEnded : Bool} {frame : Frame}
    {request : Request} {rest : Continue Frame} (placed : frame.Placed series thread)
    (advances : Advances protobuf series ref thread stepMutex stepEnded frame next request rest) :
    series.Keeps thread next := by
  cases advances with
  | emitStart start built proto constructs =>
      obtain ⟨⟨typeIndex, rfl⟩, _⟩ := construct_eq_ok constructs
      have mine := placed.constructing rfl
      exact ⟨fun _ _ theirs => ⟨theirs, rfl, fun was => by rw [mine] at was; cases was⟩,
        .of_constructing _ _ _ mine, id, rfl⟩
  | checkType element now _ free checked =>
      obtain ⟨rfl, _⟩ := setAndCheckSeriesType_eq_ok checked
      exact .of_access (Or.inl free) (.refl _ _) id rfl
  | checkTypeDies element now message free => exact .of_access (Or.inl free) (.refl _ _) id rfl
  | drawIndex element now _ proto drawn =>
      obtain ⟨rfl, _⟩ := drawElement_eq_ok drawn
      exact ⟨fun _ _ theirs => ⟨theirs, rfl, fun _ => rfl⟩, .refl _ _, id, rfl⟩
  | lockElement element free => exact .of_access (Or.inl free) (.refl _ _) id rfl
  | emitElement element => exact .of_access (Or.inr (placed.held rfl)) (.refl _ _) id rfl
  | endAgain destroy free =>
      exact .of_afterEnd destroy series.mutex (Or.inl free) (placed.constructed rfl)
  | lockEnd destroy free => exact .of_access (Or.inl free) (.refl _ _) id rfl
  | checkStepEnded destroy => exact .of_access (Or.inr (placed.held rfl)) (.refl _ _) (fun _ => rfl) rfl
  | drawTotalCount destroy =>
      exact ⟨fun _ _ theirs => ⟨theirs, rfl, fun _ => rfl⟩, .refl _ _, id, rfl⟩
  | emitEnd totalCount destroy =>
      exact .of_afterEnd destroy none (Or.inr (placed.held rfl)) (placed.constructed rfl)
  | _ => exact .refl _ _

theorem advances_placed {protobuf : Protobuf} {series next : MeasurementSeries} {ref : SeriesRef}
    {thread : ThreadId} {stepMutex : Option ThreadId} {stepEnded : Bool} {frame after : Frame}
    {request : Request} (placed : frame.Placed series thread)
    (advances : Advances protobuf series ref thread stepMutex stepEnded frame next request
      (.next after)) :
    after.Placed next thread := by
  cases advances with
  | checkStep start => exact ⟨by rintro ⟨⟩, placed.constructing, by rintro ⟨⟩⟩
  | checkType element now _ free checked =>
      obtain ⟨rfl, _⟩ := setAndCheckSeriesType_eq_ok checked
      exact ⟨by rintro ⟨⟩, by rintro ⟨⟩, placed.constructed⟩
  | drawIndex element now _ proto drawn =>
      obtain ⟨rfl, _⟩ := drawElement_eq_ok drawn
      exact ⟨by rintro ⟨⟩, by rintro ⟨⟩, placed.constructed⟩
  | lockElement element => exact ⟨fun _ => rfl, by rintro ⟨⟩, placed.constructed⟩
  | checkElement element =>
      exact ⟨fun _ => placed.held rfl, by rintro ⟨⟩, placed.constructed⟩
  | lockEnd destroy => exact ⟨fun _ => rfl, by rintro ⟨⟩, placed.constructed⟩
  | checkStepEnded destroy =>
      exact ⟨fun _ => placed.held rfl, by rintro ⟨⟩, placed.constructed⟩
  | drawTotalCount destroy =>
      exact ⟨fun _ => placed.held rfl, by rintro ⟨⟩, placed.constructed⟩

theorem Frame.Placed.born {series : MeasurementSeries} {thread : ThreadId} {frame : Frame}
    (placed : frame.Placed series thread) : series.lifetime ≠ .unborn := by
  intro unborn
  cases constructs : frame.constructs with
  | true =>
      have mine := placed.constructing constructs
      rw [unborn] at mine
      cases mine
  | false =>
      have constructed := placed.constructed constructs
      rw [unborn] at constructed
      cases constructed

theorem placed_of_keeps {before after : MeasurementSeries} {thread other : ThreadId}
    {frame : Frame} (different : other ≠ thread) (keeps : before.Keeps thread after)
    (placed : frame.Placed before other) : frame.Placed after other :=
  ⟨fun holds => (keeps.guarded other different (placed.held holds)).1,
    fun constructs => keeps.lifetime.constructing other different (placed.constructing constructs),
    fun constructed => keeps.lifetime.constructed (placed.constructed constructed)⟩

end MeasurementSeries

namespace TestRun

/-- The points at which the thread holds the run's mutex. -/
def Frame.holds : Frame → Bool
  | .writePreStartError _ | .notifyPreStartError | .writePreStartLog _ | .notifyStartRun _
  | .destroyPreviousDutInfo _ | .emitStart | .emitMissingStart | .finalize | .readStatus
  | .readResult _ | .emitEnd _ _ => true
  | _ => false

def Frame.constructs : Frame → Bool
  | .checkAndSetInitializationGuard | .registerLogSink | .emitSchemaVersion => true
  | _ => false

def Frame.destroys : Frame → Bool
  | .lockEnd | .emitMissingStart | .finalize | .readStatus | .readResult _ | .emitEnd _ _
  | .deregisterLogSink | .unsetInitializationGuard | .destroyMembers => true
  | _ => false

structure Frame.Placed (run : TestRun) (thread : ThreadId) (frame : Frame) : Prop where
  held : frame.holds = true → run.mutex = some thread
  constructing : frame.constructs = true → run.lifetime = .constructing thread
  constructed : frame.constructs = false → run.lifetime.constructed = true
  destroying : frame.destroys = true → run.lifetime = .destroying thread

structure Keeps (thread : ThreadId) (before after : TestRun) : Prop where
  guarded : ∀ other, other ≠ thread → before.mutex = some other →
    after.mutex = some other ∧ after.started = before.started ∧ after.dutInfo = before.dutInfo
  lifetime : before.lifetime.Keeps thread after.lifetime
  destroying : ∀ other, other ≠ thread → before.lifetime = .destroying other →
    after.lifetime = .destroying other
  started : before.started = true → after.started = true
  stepId : before.stepId.count ≤ after.stepId.count
  measurementSeriesId : before.measurementSeriesId.count ≤ after.measurementSeriesId.count

theorem Keeps.refl (thread : ThreadId) (run : TestRun) : run.Keeps thread run :=
  ⟨fun _ _ theirs => ⟨theirs, rfl, rfl⟩, .refl _ _, fun _ _ theirs => theirs, id, Nat.le_refl _,
    Nat.le_refl _⟩

theorem Keeps.of_access {thread : ThreadId} {before after : TestRun}
    (access : before.mutex = none ∨ before.mutex = some thread)
    (lifetime : after.lifetime = before.lifetime)
    (started : before.started = true → after.started = true)
    (counters : after.stepId = before.stepId ∧
      after.measurementSeriesId = before.measurementSeriesId) : before.Keeps thread after :=
  ⟨fun _ different theirs => absurd theirs (not_held_by_other access different),
    lifetime ▸ .refl _ _, fun _ _ theirs => lifetime ▸ theirs, started,
    counters.1 ▸ Nat.le_refl _, counters.2 ▸ Nat.le_refl _⟩

theorem advances_keeps {protobuf : Protobuf} {run next : TestRun} {thread : ThreadId}
    {calculator : TestResultCalculator} {dutInfos : DutRef → DutInfo} {frame : Frame}
    {request : Request} {rest : Continue Frame} (placed : frame.Placed run thread)
    (advances : Advances protobuf run thread calculator dutInfos frame next request rest) :
    run.Keeps thread next := by
  cases advances with
  | emitSchemaVersion =>
      have mine := placed.constructing rfl
      refine ⟨fun _ _ theirs => ⟨theirs, rfl, rfl⟩, .of_constructing _ _ _ mine, ?_, id,
        Nat.le_refl _, Nat.le_refl _⟩
      intro other _ theirs
      rw [mine] at theirs
      cases theirs
  | addPreStartError error free => exact .of_access (Or.inl free) rfl id ⟨rfl, rfl⟩
  | addPreStartErrorDies error message free => exact .of_access (Or.inl free) rfl id ⟨rfl, rfl⟩
  | notifyPreStartError => exact .of_access (Or.inr (placed.held rfl)) rfl id ⟨rfl, rfl⟩
  | addPreStartLog log free => exact .of_access (Or.inl free) rfl id ⟨rfl, rfl⟩
  | addPreStartLogDies log message free => exact .of_access (Or.inl free) rfl id ⟨rfl, rfl⟩
  | writePreStartLog log => exact .of_access (Or.inr (placed.held rfl)) rfl id ⟨rfl, rfl⟩
  | startAndRegisterDutInfo dutInfo free => exact .of_access (Or.inl free) rfl id ⟨rfl, rfl⟩
  | startAndRegisterDutInfoDies message free => exact .of_access (Or.inl free) rfl id ⟨rfl, rfl⟩
  | notifyStartRun dutInfo =>
      exact .of_access (Or.inr (placed.held rfl)) rfl (fun _ => rfl) ⟨rfl, rfl⟩
  | notifyStartRunAgain dutInfo previous =>
      exact .of_access (Or.inr (placed.held rfl)) rfl (fun _ => rfl) ⟨rfl, rfl⟩
  | emitStart artifact => exact .of_access (Or.inr (placed.held rfl)) rfl id ⟨rfl, rfl⟩
  | lockEnd free => exact .of_access (Or.inl free) rfl id ⟨rfl, rfl⟩
  | emitEnd status result => exact .of_access (Or.inr (placed.held rfl)) rfl id ⟨rfl, rfl⟩
  | destroyMembers =>
      have mine := placed.destroying rfl
      refine ⟨fun _ _ theirs => ⟨theirs, rfl, rfl⟩, .of_constructed _ _ _ (by rw [mine]; rfl) rfl,
        ?_, id, Nat.le_refl _, Nat.le_refl _⟩
      intro other different theirs
      rw [mine] at theirs
      exact absurd (Lifetime.destroying.inj theirs).symm different
  | destroyMembersDutInfo =>
      have mine := placed.destroying rfl
      refine ⟨fun _ _ theirs => ⟨theirs, rfl, rfl⟩, .of_constructed _ _ _ (by rw [mine]; rfl) rfl,
        ?_, id, Nat.le_refl _, Nat.le_refl _⟩
      intro other different theirs
      rw [mine] at theirs
      exact absurd (Lifetime.destroying.inj theirs).symm different
  | _ => exact .refl _ _

theorem advances_placed {protobuf : Protobuf} {run next : TestRun} {thread : ThreadId}
    {calculator : TestResultCalculator} {dutInfos : DutRef → DutInfo} {frame after : Frame}
    {request : Request} (placed : frame.Placed run thread)
    (advances : Advances protobuf run thread calculator dutInfos frame next request
      (.next after)) :
    after.Placed next thread := by
  cases advances with
  | checkAndSetInitializationGuard =>
      exact ⟨by rintro ⟨⟩, placed.constructing, by rintro ⟨⟩, by rintro ⟨⟩⟩
  | registerLogSink => exact ⟨by rintro ⟨⟩, placed.constructing, by rintro ⟨⟩, by rintro ⟨⟩⟩
  | addPreStartError => exact ⟨fun _ => rfl, by rintro ⟨⟩, placed.constructed, by rintro ⟨⟩⟩
  | addPreStartLog => exact ⟨fun _ => rfl, by rintro ⟨⟩, placed.constructed, by rintro ⟨⟩⟩
  | startAndRegisterDutInfo =>
      exact ⟨fun _ => rfl, by rintro ⟨⟩, placed.constructed, by rintro ⟨⟩⟩
  | lockEnd =>
      cases run.started
      · exact ⟨fun _ => rfl, by rintro ⟨⟩, placed.constructed, fun _ => placed.destroying rfl⟩
      · exact ⟨fun _ => rfl, by rintro ⟨⟩, placed.constructed, fun _ => placed.destroying rfl⟩
  | emitMissingStart =>
      exact ⟨fun _ => placed.held rfl, by rintro ⟨⟩, placed.constructed,
        fun _ => placed.destroying rfl⟩
  | finalize =>
      exact ⟨fun _ => placed.held rfl, by rintro ⟨⟩, placed.constructed,
        fun _ => placed.destroying rfl⟩
  | readStatus =>
      exact ⟨fun _ => placed.held rfl, by rintro ⟨⟩, placed.constructed,
        fun _ => placed.destroying rfl⟩
  | readResult =>
      exact ⟨fun _ => placed.held rfl, by rintro ⟨⟩, placed.constructed,
        fun _ => placed.destroying rfl⟩
  | emitEnd =>
      exact ⟨by rintro ⟨⟩, by rintro ⟨⟩, placed.constructed, fun _ => placed.destroying rfl⟩
  | deregisterLogSink =>
      exact ⟨by rintro ⟨⟩, by rintro ⟨⟩, placed.constructed, fun _ => placed.destroying rfl⟩
  | unsetInitializationGuard =>
      exact ⟨by rintro ⟨⟩, by rintro ⟨⟩, placed.constructed, fun _ => placed.destroying rfl⟩
  | _ => exact ⟨fun _ => placed.held rfl, by rintro ⟨⟩, placed.constructed, by rintro ⟨⟩⟩

theorem placed_of_keeps {before after : TestRun} {thread other : ThreadId} {frame : Frame}
    (different : other ≠ thread) (keeps : before.Keeps thread after)
    (placed : frame.Placed before other) : frame.Placed after other :=
  ⟨fun holds => (keeps.guarded other different (placed.held holds)).1,
    fun constructs => keeps.lifetime.constructing other different (placed.constructing constructs),
    fun constructed => keeps.lifetime.constructed (placed.constructed constructed),
    fun destroys => keeps.destroying other different (placed.destroying destroys)⟩

end TestRun

theorem TestStep.Entry.placed {step : TestStep} {thread : ThreadId} {frame : TestStep.Frame}
    (entry : TestStep.Entry frame) (live : step.lifetime = .live) : frame.Placed step thread := by
  cases entry <;> exact ⟨by rintro ⟨⟩, by rintro ⟨⟩, fun _ => by rw [live]; rfl⟩

theorem runFrame_placed {run : TestRun} {thread : ThreadId} {call : Call} {frame : TestRun.Frame}
    (entry : call.runFrame = some frame) (live : run.lifetime = .live) :
    frame.Placed run thread := by
  have constructed : run.lifetime.constructed = true := by rw [live]; rfl
  cases call with
  | startAndRegisterDutInfo dutInfo =>
      cases dutInfo with
      | none =>
          cases entry
          exact ⟨by rintro ⟨⟩, by rintro ⟨⟩, fun _ => constructed, by rintro ⟨⟩⟩
      | some dutInfo => cases entry
  | _ =>
      cases entry
      all_goals exact ⟨by rintro ⟨⟩, by rintro ⟨⟩, fun _ => constructed, by rintro ⟨⟩⟩

theorem seriesFrame_placed {series : MeasurementSeries} {thread : ThreadId} {now : Pb.Timestamp}
    {call : Call} {ref : SeriesRef} {frame : MeasurementSeries.Frame}
    (entry : call.seriesFrame now = some (ref, frame)) (live : series.lifetime = .live) :
    frame.Placed series thread := by
  have constructed : series.lifetime.constructed = true := by rw [live]; rfl
  cases call with
  | _ =>
      cases entry
      all_goals exact ⟨by rintro ⟨⟩, by rintro ⟨⟩, fun _ => constructed⟩

namespace Process

/-- Which objects there are: ids come from the counters, and a series has a step. -/
structure Allocated (process : Process) : Prop where
  steps : ∀ ref, (process.steps ref).lifetime ≠ .unborn → ref < process.run.stepId.count
  series : ∀ ref, (process.series ref).lifetime ≠ .unborn →
    ref < process.run.measurementSeriesId.count
  testStep : ∀ ref, (process.series ref).lifetime ≠ .unborn →
    (process.steps (process.series ref).testStep).lifetime.constructed = true

/-- What a thread relies on wherever it is. -/
def Placed (process : Process) (thread : ThreadId) : Frame → Prop
  | .run frame => frame.Placed process.run thread
  | .step ref frame =>
      ref < process.run.stepId.count ∧ frame.Placed (process.steps ref) thread
  | .series ref frame =>
      ref < process.run.measurementSeriesId.count ∧ frame.Placed (process.series ref) thread
  | _ => True

/-- What a thread leaves for the others. -/
structure Keeps (thread : ThreadId) (before after : Process) : Prop where
  run : before.run.Keeps thread after.run
  steps : ∀ ref, ref < before.run.stepId.count →
    (before.steps ref).Keeps thread (after.steps ref)
  series : ∀ ref, ref < before.run.measurementSeriesId.count →
    (before.series ref).Keeps thread (after.series ref)

theorem placed_of_keeps {before after : Process} {thread other : ThreadId} {frame : Frame}
    (different : other ≠ thread) (keeps : before.Keeps thread after)
    (placed : before.Placed other frame) : after.Placed other frame := by
  cases frame with
  | run frame => exact TestRun.placed_of_keeps different keeps.run placed
  | step ref frame =>
      exact ⟨Nat.lt_of_lt_of_le placed.1 keeps.run.stepId,
        TestStep.placed_of_keeps different (keeps.steps ref placed.1) placed.2⟩
  | series ref frame =>
      exact ⟨Nat.lt_of_lt_of_le placed.1 keeps.run.measurementSeriesId,
        MeasurementSeries.placed_of_keeps different (keeps.series ref placed.1) placed.2⟩
  | _ => trivial

theorem Keeps.refl (thread : ThreadId) (process : Process) : process.Keeps thread process :=
  ⟨.refl _ _, fun _ _ => .refl _ _, fun _ _ => .refl _ _⟩

theorem SameObjects.keeps {process next : Process} (thread : ThreadId)
    (same : SameObjects process next) : process.Keeps thread next := by
  refine ⟨?_, fun ref _ => ?_, fun ref _ => ?_⟩
  · rw [same.run]
    exact .refl _ _
  · rw [same.steps]
    exact .refl _ _
  · rw [same.series]
    exact .refl _ _

theorem SameObjects.allocated {process next : Process} (same : SameObjects process next)
    (allocated : process.Allocated) : next.Allocated := by
  constructor
  · rw [same.steps, same.run]
    exact allocated.steps
  · rw [same.series, same.run]
    exact allocated.series
  · rw [same.series, same.steps]
    exact allocated.testStep

theorem SameObjects.refl (process : Process) : SameObjects process process :=
  ⟨rfl, rfl, rfl, rfl, rfl, rfl, rfl⟩

/-- A step of a run's call, in the terms of the process. -/
theorem keeps_run {process next : Process} {thread : ThreadId}
    (run : process.run.Keeps thread next.run) (steps : next.steps = process.steps)
    (series : next.series = process.series) : process.Keeps thread next :=
  ⟨run, fun _ _ => steps ▸ .refl _ _, fun _ _ => series ▸ .refl _ _⟩

theorem keeps_setStep {process next : Process} {thread : ThreadId} {ref : StepRef}
    {step : TestStep} (same : SameObjects process next)
    (kept : (process.steps ref).Keeps thread step) :
    process.Keeps thread (next.setStep ref step) := by
  refine ⟨?_, fun other _ => ?_, fun other _ => ?_⟩
  · simp only [setStep, same.run]
    exact .refl _ _
  · by_cases self : other = ref
    · subst self
      simpa only [setStep, Function.update_self] using kept
    · simp only [setStep, ne_eq, self, not_false_eq_true, Function.update_of_ne, same.steps]
      exact .refl _ _
  · simp only [setStep, same.series]
    exact .refl _ _

theorem allocated_setStep {process next : Process} {thread : ThreadId} {ref : StepRef}
    {step : TestStep} (same : SameObjects process next) (allocated : process.Allocated)
    (kept : (process.steps ref).Keeps thread step)
    (drawn : ref < process.run.stepId.count) : (next.setStep ref step).Allocated := by
  refine ⟨fun other born => ?_, fun other born => ?_, fun other born => ?_⟩
  · simp only [setStep, same.run, same.steps] at born ⊢
    by_cases self : other = ref
    · exact self ▸ drawn
    · simp only [ne_eq, self, not_false_eq_true, Function.update_of_ne] at born
      exact allocated.steps other born
  · simp only [setStep, same.run, same.series] at born ⊢
    exact allocated.series other born
  · simp only [setStep, same.series, same.steps] at born ⊢
    have constructed := allocated.testStep other born
    by_cases self : (process.series other).testStep = ref
    · rw [self] at constructed ⊢
      simpa only [Function.update_self] using kept.lifetime.constructed constructed
    · simpa only [ne_eq, self, not_false_eq_true, Function.update_of_ne] using constructed

theorem keeps_setSeries {process next : Process} {thread : ThreadId} {ref : SeriesRef}
    {series : MeasurementSeries} (same : SameObjects process next)
    (kept : (process.series ref).Keeps thread series) :
    process.Keeps thread (next.setSeries ref series) := by
  refine ⟨?_, fun other _ => ?_, fun other _ => ?_⟩
  · simp only [setSeries, same.run]
    exact .refl _ _
  · simp only [setSeries, same.steps]
    exact .refl _ _
  · by_cases self : other = ref
    · subst self
      simpa only [setSeries, Function.update_self] using kept
    · simp only [setSeries, ne_eq, self, not_false_eq_true, Function.update_of_ne, same.series]
      exact .refl _ _

theorem allocated_setSeries {process next : Process} {thread : ThreadId} {ref : SeriesRef}
    {series : MeasurementSeries} (same : SameObjects process next) (allocated : process.Allocated)
    (kept : (process.series ref).Keeps thread series)
    (born : (process.series ref).lifetime ≠ .unborn) : (next.setSeries ref series).Allocated := by
  refine ⟨fun other isBorn => ?_, fun other isBorn => ?_, fun other isBorn => ?_⟩
  · simp only [setSeries, same.run, same.steps] at isBorn ⊢
    exact allocated.steps other isBorn
  · simp only [setSeries, same.run, same.series] at isBorn ⊢
    by_cases self : other = ref
    · exact self ▸ allocated.series ref born
    · simp only [ne_eq, self, not_false_eq_true, Function.update_of_ne] at isBorn
      exact allocated.series other isBorn
  · simp only [setSeries, same.steps, same.series] at isBorn ⊢
    by_cases self : other = ref
    · subst self
      simpa only [Function.update_self, kept.testStep] using allocated.testStep other born
    · simp only [ne_eq, self, not_false_eq_true, Function.update_of_ne] at isBorn ⊢
      exact allocated.testStep other isBorn

theorem begins_keeps {settings : Settings} {thread : ThreadId} {now : Pb.Timestamp}
    {process next : Process} {call : Call} {frame : Frame} (allocated : process.Allocated)
    (begins : Begins settings thread now process call next frame) :
    process.Keeps thread next ∧ next.Allocated ∧ next.Placed thread frame := by
  cases begins with
  | newTestRun unborn =>
      have run : process.run.Keeps thread { process.run with lifetime := .constructing thread } := by
        refine ⟨fun _ _ theirs => ⟨theirs, rfl, rfl⟩, .of_unborn _ _ _ unborn, ?_, id,
          Nat.le_refl _, Nat.le_refl _⟩
        intro _ _ same
        rw [unborn] at same
        cases same
      exact ⟨keeps_run run rfl rfl, ⟨allocated.steps, allocated.series, allocated.testStep⟩,
        ⟨by rintro ⟨⟩, fun _ => rfl, by rintro ⟨⟩, by rintro ⟨⟩⟩⟩
  | onRun call entered entry live => exact ⟨.refl _ _, allocated, runFrame_placed entry live⟩
  | startAndRegisterDutInfo dutInfo live owned =>
      refine ⟨keeps_run (.refl _ _) rfl rfl,
        ⟨allocated.steps, allocated.series, allocated.testStep⟩,
        ⟨by rintro ⟨⟩, by rintro ⟨⟩, fun _ => ?_, by rintro ⟨⟩⟩⟩
      simp only [setDutOwner, live, Lifetime.constructed]
  | getNextStepId =>
      refine ⟨keeps_run ⟨fun _ _ theirs => ⟨theirs, rfl, rfl⟩, .refl _ _, fun _ _ theirs => theirs,
        id, Nat.le_succ _, Nat.le_refl _⟩ rfl rfl, ?_, trivial⟩
      exact ⟨fun ref born => Nat.lt_succ_of_lt (allocated.steps ref born), allocated.series,
        allocated.testStep⟩
  | getNextMeasurementSeriesId =>
      refine ⟨keeps_run ⟨fun _ _ theirs => ⟨theirs, rfl, rfl⟩, .refl _ _, fun _ _ theirs => theirs,
        id, Nat.le_refl _, Nat.le_succ _⟩ rfl rfl, ?_, trivial⟩
      exact ⟨allocated.steps, fun ref born => Nat.lt_succ_of_lt (allocated.series ref born),
        allocated.testStep⟩
  | deleteTestRun live =>
      have was : process.run.lifetime.constructed = true := by rw [live]; rfl
      have run : process.run.Keeps thread { process.run with lifetime := .destroying thread } := by
        refine ⟨fun _ _ theirs => ⟨theirs, rfl, rfl⟩, .of_constructed _ _ _ was rfl, ?_, id,
          Nat.le_refl _, Nat.le_refl _⟩
        intro _ _ same
        rw [live] at same
        cases same
      exact ⟨keeps_run run rfl rfl, ⟨allocated.steps, allocated.series, allocated.testStep⟩,
        ⟨by rintro ⟨⟩, by rintro ⟨⟩, fun _ => rfl, fun _ => rfl⟩⟩
  | newTestStep name live =>
      have fresh : (process.steps process.run.stepId.count).lifetime = .unborn := by
        by_contra born
        exact Nat.lt_irrefl _ (allocated.steps _ born)
      refine ⟨⟨⟨fun _ _ theirs => ⟨theirs, rfl, rfl⟩, .refl _ _, fun _ _ theirs => theirs, id,
        Nat.le_succ _, Nat.le_refl _⟩, fun ref below => ?_, fun _ _ => .refl _ _⟩,
        ⟨fun ref born => ?_, allocated.series, fun ref born => ?_⟩,
        ⟨Nat.lt_succ_self _, by rintro ⟨⟩, fun _ => ?_, by rintro ⟨⟩⟩⟩
      · simp only [setStep, ne_eq, Nat.ne_of_lt below, not_false_eq_true, Function.update_of_ne]
        exact .refl _ _
      · by_cases new : ref = process.run.stepId.count
        · exact new ▸ Nat.lt_succ_self _
        · simp only [setStep, ne_eq, new, not_false_eq_true, Function.update_of_ne] at born
          exact Nat.lt_succ_of_lt (allocated.steps ref born)
      · have older := allocated.testStep ref born
        have different : (process.series ref).testStep ≠ process.run.stepId.count := by
          intro same
          rw [same, fresh] at older
          cases older
        simpa only [setStep, ne_eq, different, not_false_eq_true, Function.update_of_ne] using older
      · simp only [setStep, Function.update_self]
  | onStep call ref entered entry live =>
      have isBorn : (process.steps ref).lifetime ≠ .unborn := by simp [live]
      exact ⟨.refl _ _, allocated, allocated.steps ref isBorn,
        (TestStep.entry_of_stepFrame entry).placed live⟩
  | deleteTestStep ref live =>
      have was : (process.steps ref).lifetime.constructed = true := by rw [live]; rfl
      have drawn := allocated.steps ref (by simp [live])
      have kept : (process.steps ref).Keeps thread
          { process.steps ref with lifetime := .destroying thread } :=
        ⟨fun _ _ theirs => ⟨theirs, rfl, rfl⟩, .of_constructed _ _ _ was rfl, id⟩
      refine ⟨keeps_setStep (.refl process) kept,
        allocated_setStep (.refl process) allocated kept drawn,
        drawn, by rintro ⟨⟩, by rintro ⟨⟩, fun _ => ?_⟩
      simp only [setStep, Function.update_self, Lifetime.constructed]
  | newMeasurementSeries testStep start live =>
      have fresh : (process.series process.run.measurementSeriesId.count).lifetime = .unborn := by
        by_contra born
        exact Nat.lt_irrefl _ (allocated.series _ born)
      refine ⟨⟨⟨fun _ _ theirs => ⟨theirs, rfl, rfl⟩, .refl _ _, fun _ _ theirs => theirs, id,
        Nat.le_refl _, Nat.le_succ _⟩, fun _ _ => .refl _ _, fun ref below => ?_⟩,
        ⟨allocated.steps, fun ref born => ?_, fun ref born => ?_⟩,
        ⟨Nat.lt_succ_self _, by rintro ⟨⟩, fun _ => ?_, by rintro ⟨⟩⟩⟩
      · simp only [setSeries, ne_eq, Nat.ne_of_lt below, not_false_eq_true, Function.update_of_ne]
        exact .refl _ _
      · by_cases new : ref = process.run.measurementSeriesId.count
        · exact new ▸ Nat.lt_succ_self _
        · simp only [setSeries, ne_eq, new, not_false_eq_true, Function.update_of_ne] at born
          exact Nat.lt_succ_of_lt (allocated.series ref born)
      · by_cases new : ref = process.run.measurementSeriesId.count
        · subst new
          simp only [setSeries, Function.update_self, live, Lifetime.constructed]
        · simp only [setSeries, ne_eq, new, not_false_eq_true, Function.update_of_ne] at born ⊢
          exact allocated.testStep ref born
      · simp only [setSeries, Function.update_self]
  | onSeries call ref entered entry live =>
      have isBorn : (process.series ref).lifetime ≠ .unborn := by simp [live]
      exact ⟨.refl _ _, allocated, allocated.series ref isBorn, seriesFrame_placed entry live⟩
  | deleteMeasurementSeries ref live =>
      have was : (process.series ref).lifetime.constructed = true := by rw [live]; rfl
      have born : (process.series ref).lifetime ≠ .unborn := by simp [live]
      have kept : (process.series ref).Keeps thread
          { process.series ref with lifetime := .destroying thread } :=
        ⟨fun _ _ theirs => ⟨theirs, rfl, fun _ => rfl⟩, .of_constructed _ _ _ was rfl, id, rfl⟩
      refine ⟨keeps_setSeries (.refl process) kept,
        allocated_setSeries (.refl process) allocated kept born,
        allocated.series ref born, by rintro ⟨⟩, by rintro ⟨⟩, fun _ => ?_⟩
      simp only [setSeries, Function.update_self, Lifetime.constructed]
  | newDutInfo name id free =>
      exact ⟨keeps_run (.refl _ _) rfl rfl,
        ⟨allocated.steps, allocated.series, allocated.testStep⟩, trivial⟩
  | onDutInfo call ref dutInfo hardware software owned done =>
      exact ⟨keeps_run (.refl _ _) rfl rfl,
        ⟨allocated.steps, allocated.series, allocated.testStep⟩, trivial⟩
  | deleteDutInfo ref owned =>
      exact ⟨keeps_run (.refl _ _) rfl rfl,
        ⟨allocated.steps, allocated.series, allocated.testStep⟩, trivial⟩
  | dies call message => exact ⟨.refl _ _, allocated, trivial⟩

theorem deliver_same {process next : Process} {severity : AbslSeverity} {message : String}
    {now : Pb.Timestamp} (delivered : process.deliver severity message now = .ok next) :
    SameObjects process next := by
  rcases deliver_spec _ _ _ _ _ delivered with rfl | ⟨_, wrote⟩
  · exact .refl _
  · exact (write_spec _ _ _ _ _ wrote).1

/-- Every step keeps what the other threads rely on, and gives its own thread what it relies on
next. -/
theorem moves_keeps {settings : Settings} {thread : ThreadId} {process next : Process}
    {label : Label} {frame after : Frame} (allocated : process.Allocated)
    (placed : process.Placed thread frame)
    (moves : Moves settings thread process label frame next after) :
    process.Keeps thread next ∧ next.Allocated ∧ next.Placed thread after := by
  cases moves with
  | log _ severity message _ delivered =>
      have same := deliver_same delivered
      refine ⟨same.keeps thread, same.allocated allocated, ?_⟩
      cases frame with
      | run frame => simpa only [Placed, same.run] using placed
      | step ref frame => simpa only [Placed, same.run, same.steps] using placed
      | series ref frame => simpa only [Placed, same.run, same.series] using placed
      | _ => trivial
  | call call _ _ _ begins => exact begins_keeps allocated begins
  | run frame run request rest performed _ _ advances perform =>
      have same := (perform_spec _ _ _ _ _ _ perform).1
      have kept := TestRun.advances_keeps placed advances
      refine ⟨keeps_run kept same.steps same.series, ⟨?_, ?_, ?_⟩, ?_⟩
      · intro ref born
        rw [same.steps] at born
        exact Nat.lt_of_lt_of_le (allocated.steps ref born) kept.stepId
      · intro ref born
        rw [same.series] at born
        exact Nat.lt_of_lt_of_le (allocated.series ref born) kept.measurementSeriesId
      · intro ref born
        rw [same.series] at born ⊢
        rw [same.steps]
        exact allocated.testStep ref born
      · cases rest with
        | next after => exact TestRun.advances_placed placed advances
        | done => trivial
        | die message => trivial
  | step ref frame step request rest performed _ _ advances perform =>
      have same := (perform_spec _ _ _ _ _ _ perform).1
      have kept := TestStep.advances_keeps placed.2 advances
      refine ⟨keeps_setStep same kept, allocated_setStep same allocated kept placed.1, ?_⟩
      cases rest with
      | next after =>
          refine ⟨?_, ?_⟩
          · simpa only [setStep, same.run] using placed.1
          · simpa only [setStep, Function.update_self] using
              TestStep.advances_placed placed.2 advances
      | done => trivial
      | die message => trivial
  | series ref frame series request rest performed _ _ _ advances perform =>
      have same := (perform_spec _ _ _ _ _ _ perform).1
      have kept := MeasurementSeries.advances_keeps placed.2 advances
      have born : (process.series ref).lifetime ≠ .unborn := placed.2.born
      refine ⟨keeps_setSeries same kept, allocated_setSeries same allocated kept born, ?_⟩
      cases rest with
      | next after =>
          refine ⟨?_, ?_⟩
          · simpa only [setSeries, same.run] using placed.1
          · simpa only [setSeries, Function.update_self] using
              MeasurementSeries.advances_placed placed.2 advances
      | done => trivial
      | die message => trivial
  | dying message _ delivered =>
      have same := deliver_same delivered
      exact ⟨same.keeps thread, same.allocated allocated, trivial⟩
  | aborting =>
      exact ⟨keeps_run (.refl _ _) rfl rfl,
        ⟨allocated.steps, allocated.series, allocated.testStep⟩, trivial⟩
  | _ => exact ⟨.refl _ _, allocated, trivial⟩

end Process

/-- Every thread is where it holds what it has locked. -/
abbrev MutexesHeld : Pool Process Frame → Prop := Outline Process.Allocated Process.Placed

theorem mutexesHeld_initial (testRunStart : TestRunStart) :
    MutexesHeld (initialPool testRunStart) :=
  ⟨⟨fun _ born => absurd rfl born, fun _ born => absurd rfl born, fun _ born => absurd rfl born⟩,
    fun _ => trivial⟩

theorem mutexesHeld_step (settings : Settings) (pool final : Pool Process Frame)
    (label : ThreadId × Label) (held : MutexesHeld pool)
    (stepped : systemStep settings pool label = some final) : MutexesHeld final := by
  refine outline_of_guarantee _ Process.Keeps pool final label held stepped ?_ ?_
  · intro next after taken
    obtain ⟨kept, allocated, placed⟩ := Process.moves_keeps held.shared (held.threads label.1)
      (Process.moves_of_exec _ _ _ _ _ _ _ taken)
    exact ⟨allocated, placed, kept⟩
  · intro next thread different kept placed
    exact Process.placed_of_keeps different kept placed

/-- A further outline of the program, on top of what the mutexes give. -/
theorem outline_of_moves {settings : Settings}
    (Guarantee : ThreadId → Process → Process → Prop) {Global : Process → Prop}
    {Local : Process → ThreadId → Frame → Prop} {pool final : Pool Process Frame}
    {label : ThreadId × Label} (held : MutexesHeld pool) (outline : Outline Global Local pool)
    (stepped : systemStep settings pool label = some final)
    (own : ∀ next after,
      Process.Moves settings label.1 pool.shared label.2 (pool.frames label.1) next after →
      Global next ∧ Local next label.1 after ∧ Guarantee label.1 pool.shared next)
    (stable : ∀ next thread, thread ≠ label.1 → pool.shared.Keeps label.1 next →
      Guarantee label.1 pool.shared next → pool.shared.Placed thread (pool.frames thread) →
      Local pool.shared thread (pool.frames thread) → Local next thread (pool.frames thread)) :
    Outline Global Local final := by
  refine outline_of_guarantee _
    (fun thread before after => before.Keeps thread after ∧ Guarantee thread before after)
    pool final label outline stepped ?_ ?_
  · intro next after taken
    have moves := Process.moves_of_exec _ _ _ _ _ _ _ taken
    obtain ⟨global, mine, guarantee⟩ := own next after moves
    obtain ⟨kept, _, _⟩ := Process.moves_keeps held.shared (held.threads label.1) moves
    exact ⟨global, mine, kept, guarantee⟩
  · rintro next thread different ⟨kept, guarantee⟩ theirs
    exact stable next thread different kept guarantee (held.threads thread) theirs

end OcpDiag.Results
