import OcpDiag.Results.RunStart

set_option autoImplicit false

/- The two ends of a stream. The log sink is registered before the SchemaVersion is written and
removed after the TestRunEnd, so that what is logged in between comes before the one and after
the other. -/
namespace OcpDiag.Results

open ThreadPool

namespace Pb

def OutputVariant.isLog : OutputVariant → Bool
  | .testRunArtifact (.log _) => true
  | _ => false

/-- What AddPreStartError() and AddPreStartLog() write. -/
def OutputVariant.isPreStart : OutputVariant → Bool
  | .testRunArtifact (.error _) | .testRunArtifact (.log _) => true
  | _ => false

end Pb

namespace Process

def endWritten (stream : List (Origin × Pb.OutputArtifact)) : Bool :=
  stream.any (·.2.artifact.isTestRunEnd)

/-- Where an artifact stands in the stream, by who has written it. -/
structure InPlace (settings : Settings) (started : Bool)
    (before : List (Origin × Pb.OutputArtifact)) (entry : Origin × Pb.OutputArtifact) : Prop where
  number : entry.2.sequenceNumber = before.length
  sink : entry.1 = .sink → settings.logToResults = true ∧ entry.2.artifact.isLog = true
  first : entry.1 ≠ .sink → (∀ earlier ∈ before, earlier.1 = .sink) →
    entry.2.artifact = TestRun.schemaVersion
  last : entry.1 = .run → endWritten before = true →
    entry.2.artifact.isPreStart = true ∧ started = false

structure StreamOrdered (settings : Settings) (process : Process) : Prop where
  numbered : process.sequenceNumber.count = process.stream.length
  each : Trace.EachAfter (InPlace settings process.run.started) process.stream
  unopened : process.run.lifetime.constructed = false →
    ∀ entry ∈ process.stream, entry.1 = .sink
  opened : process.run.lifetime.constructed = true → ∃ entry ∈ process.stream, entry.1 ≠ .sink
  steps : ∀ ref, (process.steps ref).lifetime ≠ .unborn → process.run.lifetime.constructed = true
  registered : process.logSinkRegistered = true → settings.logToResults = true
  ending : endWritten process.stream = true →
    process.run.lifetime.ending = true ∧ process.calculator.finalized = true
  destroyed : process.run.lifetime = .destroyed → process.logSinkRegistered = false

/-- What is known of the stream where a thread is in a call of the run. -/
def StreamKnown (process : Process) : Frame → Prop
  | .run (.writePreStartError _) | .run (.writePreStartLog _) => process.run.started = false
  | .run .lockEnd | .run .emitMissingStart | .run .finalize | .run .readStatus
  | .run (.readResult _) | .run (.emitEnd _ _) => endWritten process.stream = false
  | .run .unsetInitializationGuard | .run .destroyMembers => process.logSinkRegistered = false
  | _ => True

/-- Only the destructor writes the end, and only the constructor registers the log sink. -/
structure KeepsStream (thread : ThreadId) (before after : Process) : Prop where
  ending : endWritten after.stream = endWritten before.stream ∨
    before.run.lifetime = .destroying thread
  registered : before.logSinkRegistered = false → after.logSinkRegistered = false ∨
    before.run.lifetime = .constructing thread

/-- What a step can do to the run and to the objects that depend on it. -/
structure RunMoves (settings : Settings) (thread : ThreadId) (label : Label) (frame : Frame)
    (process next : Process) : Prop where
  lifetime : next.run.lifetime = process.run.lifetime ∨
    process.run.lifetime = .unborn ∧ next.run.lifetime = .constructing thread ∨
    frame = .run .emitSchemaVersion ∧ next.run.lifetime = .live ∧
      (∃ entry ∈ next.stream, entry.1 ≠ .sink) ∨
    process.run.lifetime = .live ∧ next.run.lifetime = .destroying thread ∧ frame = .idle ∧
      label.action = .call .deleteTestRun ∨
    frame = .run .destroyMembers ∧ next.run.lifetime = .destroyed
  started : next.run.started = process.run.started ∨ process.calculator.finalized = false
  finalized : process.calculator.finalized = true → next.calculator.finalized = true
  logSink : next.logSinkRegistered = process.logSinkRegistered ∨
    frame = .run .registerLogSink ∧
      next.logSinkRegistered = (process.logSinkRegistered || settings.logToResults) ∨
    frame = .run .deregisterLogSink ∧
      next.logSinkRegistered = (process.logSinkRegistered && !settings.logToResults)
  steps : ∀ ref, (next.steps ref).lifetime ≠ .unborn →
    (process.steps ref).lifetime ≠ .unborn ∨ process.run.lifetime = .live

section

variable {settings : Settings} {thread : ThreadId} {label : Label} {process next : Process}
  {frame after : Frame}

theorem runMoves_of_same (run : next.run = process.run)
    (finalized : process.calculator.finalized = true → next.calculator.finalized = true)
    (logSink : next.logSinkRegistered = process.logSinkRegistered)
    (steps : ∀ ref, (next.steps ref).lifetime ≠ .unborn → (process.steps ref).lifetime ≠ .unborn) :
    RunMoves settings thread label frame process next :=
  ⟨Or.inl (by rw [run]), Or.inl (by rw [run]), finalized, Or.inl logSink,
    fun ref born => Or.inl (steps ref born)⟩

theorem deliver_runMoves {severity : AbslSeverity} {message : String} {now : Pb.Timestamp}
    (delivered : process.deliver severity message now = .ok next) :
    RunMoves settings thread label frame process next := by
  have same := deliver_same delivered
  rcases deliver_spec _ _ _ _ _ delivered with rfl | ⟨_, wrote⟩
  · exact runMoves_of_same rfl id rfl fun _ => id
  · obtain ⟨_, rfl⟩ := (write_eq_ok _ _ _ _ _).mp wrote
    exact runMoves_of_same rfl id rfl fun _ => id

theorem begins_runMoves {now : Pb.Timestamp} {call : Call} (action : label.action = .call call)
    (begins : Begins settings thread now process call next after) :
    RunMoves settings thread label .idle process next := by
  have same := begins_sameRecord _ _ _ _ _ _ _ begins
  have finalized : process.calculator.finalized = true → next.calculator.finalized = true :=
    same.calculator ▸ id
  refine ⟨?_, Or.inl same.started, finalized, Or.inl same.logSinkRegistered, fun ref born => ?_⟩
  · cases begins with
    | newTestRun unborn => exact Or.inr (Or.inl ⟨unborn, rfl⟩)
    | deleteTestRun live => exact Or.inr (Or.inr (Or.inr (Or.inl ⟨live, rfl, rfl, action⟩)))
    | _ => exact Or.inl rfl
  · cases begins with
    | newTestStep name live => exact Or.inr live
    | deleteTestStep other live =>
        refine Or.inl fun unborn => ?_
        by_cases self : ref = other
        · rw [← self, unborn] at live
          cases live
        · simp only [setStep, ne_eq, self, not_false_eq_true, Function.update_of_ne] at born
          exact born unborn
    | _ => exact Or.inl born

theorem perform_final {origin : Origin} {now : Pb.Timestamp} {request : Request}
    (performed : process.perform settings origin now request = .ok next)
    (was : process.calculator.finalized = true) : next.calculator.finalized = true := by
  by_cases final : request = .finalize
  · subst final
    obtain ⟨calculator, finalized, rfl⟩ := perform_finalize performed
    rw [(TestResultCalculator.finalize_eq_ok finalized).1] at was
    cases was
  · rw [perform_finalized performed final]
    exact was

theorem run_runMoves {now : Pb.Timestamp} {inner : TestRun.Frame} {run : TestRun}
    {request : Request} {rest : Continue TestRun.Frame}
    (advances : process.run.Advances settings.protobuf thread process.calculator process.dutInfos
      inner run request rest)
    (performed : process.perform settings .run now request = .ok next) :
    RunMoves settings thread label (.run inner) process { next with run } := by
  have same := (perform_spec _ _ _ _ _ _ performed).1
  have logSink := perform_logSink _ _ _ _ _ _ performed
  have finalized := perform_final performed
  refine ⟨?_, ?_, finalized, ?_, fun ref born => Or.inl (same.steps ▸ born)⟩
  · cases advances with
    | emitSchemaVersion =>
        obtain ⟨_, rfl⟩ := (write_eq_ok _ _ _ _ _).mp performed
        refine Or.inr (Or.inr (Or.inl ⟨rfl, rfl, ?_⟩))
        exact ⟨_, List.mem_append_right _ List.mem_cons_self, by simp⟩
    | destroyMembers => exact Or.inr (Or.inr (Or.inr (Or.inr ⟨rfl, rfl⟩)))
    | destroyMembersDutInfo => exact Or.inr (Or.inr (Or.inr (Or.inr ⟨rfl, rfl⟩)))
    | _ => exact Or.inl rfl
  · cases advances with
    | notifyStartRun dutInfo =>
        obtain ⟨calculator, notified, _⟩ := perform_registerDutInfo performed
        exact Or.inr (TestResultCalculator.notify_not_finalized notified).1
    | notifyStartRunAgain dutInfo previous =>
        obtain ⟨calculator, notified, _⟩ := perform_registerDutInfo performed
        exact Or.inr (TestResultCalculator.notify_not_finalized notified).1
    | _ => exact Or.inl rfl
  · cases advances with
    | registerLogSink => exact Or.inr (Or.inl ⟨rfl, logSink⟩)
    | deregisterLogSink => exact Or.inr (Or.inr ⟨rfl, logSink⟩)
    | _ => exact Or.inl logSink

theorem moves_runMoves (placed : process.Placed thread frame)
    (moves : Moves settings thread process label frame next after) :
    RunMoves settings thread label frame process next := by
  cases moves with
  | log _ severity message _ delivered => exact deliver_runMoves delivered
  | call call _ _ action begins => exact begins_runMoves action begins
  | run frame run request rest performed _ _ advances perform => exact run_runMoves advances perform
  | step ref frame step request rest performed _ _ advances perform =>
      have same := (perform_spec _ _ _ _ _ _ perform).1
      have finalized := perform_final perform
      refine runMoves_of_same same.run finalized ?_ fun other born => ?_
      · refine (perform_logSink _ _ _ _ _ _ perform).trans ?_
        cases advances <;> rfl
      · by_cases self : other = ref
        · exact self ▸ placed.2.born
        · simp only [setStep, ne_eq, self, not_false_eq_true, Function.update_of_ne,
            same.steps] at born
          exact born
  | series ref frame series request rest performed _ _ _ advances perform =>
      have same := (perform_spec _ _ _ _ _ _ perform).1
      have finalized := perform_final perform
      refine runMoves_of_same same.run finalized ?_ fun other => ?_
      · refine (perform_logSink _ _ _ _ _ _ perform).trans ?_
        cases advances <;> rfl
      · simp only [setSeries, same.steps, imp_self]
  | dying message _ delivered => exact deliver_runMoves delivered
  | _ => exact runMoves_of_same rfl id rfl fun _ => id

theorem started_of_endWritten (starts : process.StartsOnce)
    (ended : endWritten process.stream = true) : process.startCount ≠ 0 := by
  obtain ⟨entry, member, isEnd⟩ := List.any_eq_true.mp ended
  have recorded : entry.2.artifact ∈ process.artifacts := List.mem_map_of_mem member
  obtain ⟨before, after, whole⟩ := List.append_of_mem recorded
  have follows : entry.2.artifact.followsStart = true := by
    cases artifact : entry.2.artifact with
    | testRunArtifact variant =>
        rw [artifact] at isEnd
        cases variant with
        | testRunEnd proto => rfl
        | _ => cases isEnd
    | _ =>
        rw [artifact] at isEnd
        cases isEnd
  have one := starts.each before _ after whole follows
  simp only [startCount, whole, List.countP_append, one]
  omega

section

variable {origin : Origin} {artifact : Pb.OutputVariant}

/-- The run, its steps and its series write once the run is constructed, but for the
SchemaVersion, with which it is. -/
theorem constructed_of_writes (allocated : process.Allocated)
    (placed : process.Placed thread frame) (ordered : process.StreamOrdered settings)
    (writes : Writes settings thread process frame next origin artifact) (other : origin ≠ .sink) :
    process.run.lifetime.constructed = true ∨
      artifact = TestRun.schemaVersion ∧ next.run.lifetime.constructed = true := by
  cases writes with
  | sink => exact absurd rfl other
  | run inner _ _ rest alive advances =>
      generalize next.run = run at advances ⊢
      cases advances with
      | emitSchemaVersion => exact Or.inr ⟨rfl, rfl⟩
      | _ => exact Or.inl (placed.constructed rfl)
  | step ref inner _ _ rest advances => exact Or.inl (ordered.steps ref placed.2.born)
  | series ref inner _ _ rest advances =>
      have constructed := allocated.testStep ref placed.2.born
      refine Or.inl (ordered.steps (process.series ref).testStep fun unborn => ?_)
      rw [unborn] at constructed
      cases constructed

/-- Once it has its end, the run writes only what was waiting for the destructor to release the
mutex. -/
theorem isPreStart_of_writes (placed : process.Placed thread frame) (starts : process.StartsOnce)
    (begun : process.StartKnown frame) (ordered : process.StreamOrdered settings)
    (known : process.StreamKnown frame)
    (writes : Writes settings thread process frame next origin artifact) (byRun : origin = .run)
    (ended : endWritten process.stream = true) :
    artifact.isPreStart = true ∧ process.run.started = false := by
  cases writes with
  | run inner _ _ rest alive advances =>
      generalize next.run = run at advances
      cases advances with
      | emitSchemaVersion =>
          have ending := (ordered.ending ended).1
          rw [placed.constructing rfl] at ending
          cases ending
      | writePreStartError error => exact ⟨rfl, known⟩
      | writePreStartLog log => exact ⟨rfl, known⟩
      | writePreStartLogFatal log => exact ⟨rfl, known⟩
      | emitStart artifact built => exact absurd begun.1 (started_of_endWritten starts ended)
      | emitMissingStart artifact built => exact absurd begun (started_of_endWritten starts ended)
      | emitEnd status result =>
          rw [known] at ended
          cases ended
  | _ => cases byRun

/-- Only the destructor writes the end. -/
theorem destroying_of_writes (placed : process.Placed thread frame)
    (begun : process.StartKnown frame)
    (writes : Writes settings thread process frame next origin artifact)
    (isEnd : artifact.isTestRunEnd = true) :
    process.run.lifetime = .destroying thread ∧ next.run.lifetime = process.run.lifetime ∧
      process.calculator.finalized = true := by
  cases writes with
  | sink => cases isEnd
  | run inner _ _ rest alive advances =>
      generalize next.run = run at advances ⊢
      cases advances with
      | emitEnd status result => exact ⟨placed.destroying rfl, rfl, begun.2⟩
      | emitStart artifact built =>
          obtain ⟨start, rfl, _⟩ := TestRun.startArtifact_eq_ok _ _ _ _ built
          cases isEnd
      | emitMissingStart artifact built =>
          obtain ⟨start, rfl, _⟩ := TestRun.startArtifact_eq_ok _ _ _ _ built
          cases isEnd
      | _ => cases isEnd
  | step ref inner _ _ rest advances =>
      generalize next.steps ref = step at advances
      cases advances <;> cases isEnd
  | series ref inner _ _ rest advances =>
      generalize next.series ref = series at advances
      cases advances <;> cases isEnd

theorem writes_inPlace {now : Pb.Timestamp} (allocated : process.Allocated)
    (placed : process.Placed thread frame) (starts : process.StartsOnce)
    (begun : process.StartKnown frame) (ordered : process.StreamOrdered settings)
    (known : process.StreamKnown frame)
    (writes : Writes settings thread process frame next origin artifact) :
    InPlace settings process.run.started process.stream
      (origin, ⟨artifact, process.sequenceNumber.count, now⟩) := by
  refine ⟨by rw [ordered.numbered], fun bySink => ?_, fun other sinks => ?_,
    isPreStart_of_writes placed starts begun ordered known writes⟩
  · cases writes with
    | sink _ _ severity message registered => exact ⟨ordered.registered registered, rfl⟩
    | _ => cases bySink
  · rcases constructed_of_writes allocated placed ordered writes other with constructed | ⟨same, _⟩
    · obtain ⟨entry, member, different⟩ := ordered.opened constructed
      exact absurd (sinks entry member) different
    · exact same

end

theorem endWritten_snoc (stream : List (Origin × Pb.OutputArtifact))
    (entry : Origin × Pb.OutputArtifact) :
    endWritten (stream ++ [entry]) =
      (endWritten stream || entry.2.artifact.isTestRunEnd) := by
  simp [endWritten]

theorem InPlace.restarted {started other : Bool} {before : List (Origin × Pb.OutputArtifact)}
    {entry : Origin × Pb.OutputArtifact} (inPlace : InPlace settings started before entry)
    (restarted : other = started ∨ endWritten before = false) :
    InPlace settings other before entry := by
  refine ⟨inPlace.number, inPlace.sink, inPlace.first, fun byRun ended => ?_⟩
  rcases restarted with rfl | running
  · exact inPlace.last byRun ended
  · rw [running] at ended
    cases ended

/-- A run that is started has no end yet. -/
theorem each_restarted {started other : Bool} {stream : List (Origin × Pb.OutputArtifact)}
    (each : Trace.EachAfter (InPlace settings started) stream)
    (restarted : other = started ∨ endWritten stream = false) :
    Trace.EachAfter (InPlace settings other) stream := by
  intro before entry rest whole
  refine (each before entry rest whole).restarted (restarted.imp_right fun running => ?_)
  rw [whole] at running
  simp only [endWritten, List.any_append, Bool.or_eq_false_iff] at running
  exact running.1

theorem RunMoves.constructed (runMoves : RunMoves settings thread label frame process next)
    (placed : process.Placed thread frame) (constructed : next.run.lifetime.constructed = true) :
    process.run.lifetime.constructed = true ∨ ∃ entry ∈ next.stream, entry.1 ≠ .sink := by
  rcases runMoves.lifetime with same | ⟨_, new⟩ | ⟨_, _, written⟩ | ⟨live, _⟩ | ⟨rfl, _⟩
  · exact Or.inl (same ▸ constructed)
  · rw [new] at constructed
    cases constructed
  · exact Or.inr written
  · rw [live]
    exact Or.inl rfl
  · exact Or.inl (placed.constructed rfl)

theorem RunMoves.ending (runMoves : RunMoves settings thread label frame process next)
    (placed : process.Placed thread frame) (ending : process.run.lifetime.ending = true) :
    next.run.lifetime.ending = true := by
  rcases runMoves.lifetime with same | ⟨unborn, _⟩ | ⟨rfl, _⟩ | ⟨live, _⟩ | ⟨_, gone⟩
  · exact same ▸ ending
  · rw [unborn] at ending
    cases ending
  · rw [placed.constructing rfl] at ending
    cases ending
  · rw [live] at ending
    cases ending
  · rw [gone]
    rfl

theorem RunMoves.destroyed (runMoves : RunMoves settings thread label frame process next)
    (placed : process.Placed thread frame) (ordered : process.StreamOrdered settings)
    (known : process.StreamKnown frame) (destroyed : next.run.lifetime = .destroyed) :
    next.logSinkRegistered = false := by
  have gone : process.logSinkRegistered = false ∧ process.run.lifetime.ending = true := by
    rcases runMoves.lifetime with same | ⟨_, new⟩ | ⟨_, new, _⟩ | ⟨_, new, _⟩ | ⟨rfl, _⟩
    · have was := same.symm.trans destroyed
      exact ⟨ordered.destroyed was, by rw [was]; rfl⟩
    · rw [new] at destroyed
      cases destroyed
    · rw [new] at destroyed
      cases destroyed
    · rw [new] at destroyed
      cases destroyed
    · exact ⟨known, by rw [placed.destroying rfl]; rfl⟩
  obtain ⟨silent, ending⟩ := gone
  rcases runMoves.logSink with same | ⟨rfl, _⟩ | ⟨_, same⟩
  · exact same.trans silent
  · rw [placed.constructing rfl] at ending
    cases ending
  · rw [same, silent, Bool.false_and]

theorem moves_streamOrdered (allocated : process.Allocated)
    (placed : process.Placed thread frame) (starts : process.StartsOnce)
    (begun : process.StartKnown frame) (ordered : process.StreamOrdered settings)
    (known : process.StreamKnown frame)
    (moves : Moves settings thread process label frame next after) :
    next.StreamOrdered settings := by
  have runMoves := moves_runMoves placed moves
  have still := (moves_keeps allocated placed moves).1.run.lifetime.constructed
  have restarted : next.run.started = process.run.started ∨
      endWritten process.stream = false := by
    rcases runMoves.started with same | running
    · exact Or.inl same
    · refine Or.inr (Bool.eq_false_iff.mpr fun ended => ?_)
      rw [(ordered.ending ended).2] at running
      cases running
  have steps : ∀ ref, (next.steps ref).lifetime ≠ .unborn →
      next.run.lifetime.constructed = true := by
    intro ref born
    rcases runMoves.steps ref born with was | live
    · exact still (ordered.steps ref was)
    · exact still (by rw [live]; rfl)
  have registered : next.logSinkRegistered = true → settings.logToResults = true := by
    intro isRegistered
    rcases runMoves.logSink with same | ⟨_, same⟩ | ⟨_, same⟩
    · exact ordered.registered (same ▸ isRegistered)
    · rcases Bool.or_eq_true_iff.mp (same ▸ isRegistered) with was | flag
      · exact ordered.registered was
      · exact flag
    · exact ordered.registered (Bool.and_eq_true_iff.mp (same ▸ isRegistered)).1
  have destroyed := runMoves.destroyed placed ordered known
  have ending : endWritten process.stream = true →
      next.run.lifetime.ending = true ∧ next.calculator.finalized = true := fun ended =>
    ⟨runMoves.ending placed (ordered.ending ended).1, runMoves.finalized (ordered.ending ended).2⟩
  rcases moves_stream _ _ _ _ _ _ _ moves with ⟨stream, number⟩ |
    ⟨origin, artifact, writes, stream, number⟩
  · refine ⟨?_, ?_, ?_, ?_, steps, registered, ?_, destroyed⟩
    · rw [number, stream]
      exact ordered.numbered
    · rw [stream]
      exact each_restarted ordered.each restarted
    · intro fresh
      rw [stream]
      refine ordered.unopened (Bool.eq_false_iff.mpr fun was => ?_)
      rw [still was] at fresh
      cases fresh
    · intro constructed
      rcases runMoves.constructed placed constructed with was | written
      · rw [stream]
        exact ordered.opened was
      · exact written
    · rw [stream]
      exact ending
  · have inPlace : InPlace settings process.run.started process.stream
        (origin, ⟨artifact, process.sequenceNumber.count, label.now⟩) :=
      writes_inPlace allocated placed starts begun ordered known writes
    refine ⟨?_, ?_, ?_, ?_, steps, registered, ?_, destroyed⟩
    · rw [number, stream, List.length_append, ordered.numbered]
      rfl
    · rw [stream]
      exact (Trace.eachAfter_snoc _ _).mpr
        ⟨each_restarted ordered.each restarted, inPlace.restarted restarted⟩
    · intro fresh entry member
      have unopened : process.run.lifetime.constructed = false := by
        refine Bool.eq_false_iff.mpr fun was => ?_
        rw [still was] at fresh
        cases fresh
      rw [stream] at member
      rcases List.mem_append.mp member with earlier | new
      · exact ordered.unopened unopened entry earlier
      · obtain rfl := List.mem_singleton.mp new
        by_contra other
        rcases constructed_of_writes allocated placed ordered writes other with was | ⟨_, is⟩
        · rw [unopened] at was
          cases was
        · rw [fresh] at is
          cases is
    · intro constructed
      rcases runMoves.constructed placed constructed with was | written
      · obtain ⟨entry, member, other⟩ := ordered.opened was
        exact ⟨entry, stream ▸ List.mem_append_left _ member, other⟩
      · exact written
    · rw [stream, endWritten_snoc]
      intro ended
      rcases Bool.or_eq_true_iff.mp ended with was | isEnd
      · exact ending was
      · obtain ⟨destroying, same, final⟩ := destroying_of_writes placed begun writes isEnd
        exact ⟨by rw [same, destroying]; rfl, runMoves.finalized final⟩

theorem streamKnown_of_same (known : process.StreamKnown frame)
    (started : next.run.started = process.run.started)
    (ended : endWritten next.stream = endWritten process.stream)
    (logSink : next.logSinkRegistered = process.logSinkRegistered) : next.StreamKnown frame := by
  have same : next.StreamKnown frame = process.StreamKnown frame := by
    cases frame with
    | run inner => cases inner <;> simp only [StreamKnown, started, ended, logSink]
    | _ => rfl
  exact same ▸ known

theorem deliver_ended {severity : AbslSeverity} {message : String} {now : Pb.Timestamp}
    (delivered : process.deliver severity message now = .ok next) :
    endWritten next.stream = endWritten process.stream ∧
      next.logSinkRegistered = process.logSinkRegistered := by
  rcases deliver_spec _ _ _ _ _ delivered with rfl | ⟨_, wrote⟩
  · exact ⟨rfl, rfl⟩
  · obtain ⟨_, rfl⟩ := (write_eq_ok _ _ _ _ _).mp wrote
    refine ⟨?_, rfl⟩
    rw [endWritten_snoc]
    exact Bool.or_false _

theorem moves_streamKnown (ordered : process.StreamOrdered settings)
    (known : process.StreamKnown frame)
    (moves : Moves settings thread process label frame next after) : next.StreamKnown after := by
  cases moves with
  | log _ severity message _ delivered =>
      obtain ⟨ended, logSink⟩ := deliver_ended delivered
      exact streamKnown_of_same known (by rw [(deliver_same delivered).run]) ended logSink
  | call call _ _ _ begins =>
      cases begins with
      | deleteTestRun live =>
          refine Bool.eq_false_iff.mpr fun ended => ?_
          have ending := (ordered.ending ended).1
          rw [live] at ending
          cases ending
      | onRun call entered entry live =>
          cases call with
          | startAndRegisterDutInfo dutInfo =>
              cases dutInfo with
              | none =>
                  cases entry
                  trivial
              | some dutInfo => cases entry
          | _ =>
              cases entry
              all_goals trivial
      | _ => trivial
  | run inner run request rest performed _ _ advances perform =>
      have logSink := perform_logSink _ _ _ _ _ _ perform
      cases advances with
      | addPreStartError error free fresh => exact fresh
      | addPreStartLog log free fresh => exact fresh
      | lockEnd free =>
          obtain rfl := Outcome.ok.inj perform
          cases process.run.started <;> exact known
      | emitMissingStart artifact built =>
          obtain ⟨_, rfl⟩ := (write_eq_ok _ _ _ _ _).mp perform
          obtain ⟨start, rfl, _⟩ := TestRun.startArtifact_eq_ok _ _ _ _ built
          exact (endWritten_snoc _ _).trans ((Bool.or_false _).trans known)
      | finalize =>
          obtain ⟨calculator, _, rfl⟩ := perform_finalize perform
          exact known
      | readStatus =>
          obtain rfl := Outcome.ok.inj perform
          exact known
      | readResult status =>
          obtain rfl := Outcome.ok.inj perform
          exact known
      | deregisterLogSink =>
          refine logSink.trans ?_
          cases registered : process.logSinkRegistered with
          | false => rfl
          | true =>
              rw [registers, ordered.registered registered]
              rfl
      | unsetInitializationGuard => exact logSink.trans known
      | _ => trivial
  | step ref inner step request rest performed => cases rest <;> trivial
  | series ref inner series request rest performed => cases rest <;> trivial
  | dying message _ delivered => trivial
  | _ => trivial

theorem moves_keepsStream (placed : process.Placed thread frame) (begun : process.StartKnown frame)
    (moves : Moves settings thread process label frame next after) :
    KeepsStream thread process next := by
  have runMoves := moves_runMoves placed moves
  constructor
  · rcases moves_stream _ _ _ _ _ _ _ moves with ⟨stream, _⟩ | ⟨origin, artifact, writes, stream, _⟩
    · exact Or.inl (by rw [stream])
    · cases isEnd : artifact.isTestRunEnd with
      | true => exact Or.inr (destroying_of_writes placed begun writes isEnd).1
      | false =>
          rw [stream, endWritten_snoc, isEnd]
          exact Or.inl (Bool.or_false _)
  · intro silent
    rcases runMoves.logSink with same | ⟨rfl, _⟩ | ⟨_, same⟩
    · exact Or.inl (same.trans silent)
    · exact Or.inr (placed.constructing rfl)
    · rw [same, silent]
      exact Or.inl rfl

theorem streamKnown_of_keepsStream {other : ThreadId} (different : other ≠ thread)
    (kept : process.run.Keeps thread next.run) (keeps : KeepsStream thread process next)
    (placed : process.Placed other frame) (known : process.StreamKnown frame) :
    next.StreamKnown frame := by
  cases frame with
  | run inner =>
      have ended : inner.destroys = true → endWritten process.stream = false →
          endWritten next.stream = false := by
        intro destroys running
        rcases keeps.ending with same | theirs
        · exact same.trans running
        · rw [placed.destroying destroys] at theirs
          exact absurd (Lifetime.destroying.inj theirs) different
      have silent : inner.destroys = true → process.logSinkRegistered = false →
          next.logSinkRegistered = false := by
        intro destroys was
        rcases keeps.registered was with still | theirs
        · exact still
        · rw [placed.destroying destroys] at theirs
          cases theirs
      cases inner with
      | writePreStartError error =>
          exact (kept.guarded other different (placed.held rfl)).2.1.trans known
      | writePreStartLog log =>
          exact (kept.guarded other different (placed.held rfl)).2.1.trans known
      | lockEnd => exact ended rfl known
      | emitMissingStart => exact ended rfl known
      | finalize => exact ended rfl known
      | readStatus => exact ended rfl known
      | readResult status => exact ended rfl known
      | emitEnd status result => exact ended rfl known
      | unsetInitializationGuard => exact silent rfl known
      | destroyMembers => exact silent rfl known
      | _ => trivial
  | _ => trivial

end

/-- The stream of the program, in every state. -/
structure StreamSound (settings : Settings) (pool : Pool Process Frame) : Prop where
  start : StartSound pool
  outline : Outline (StreamOrdered settings) (fun process _ frame => process.StreamKnown frame) pool

theorem streamSound_initial (settings : Settings) (testRunStart : TestRunStart) :
    StreamSound settings (initialPool testRunStart) := by
  refine ⟨startSound_initial testRunStart, ⟨rfl, Trace.eachAfter_nil, fun _ _ member => ?_,
    fun constructed => ?_, fun _ born => absurd rfl born, fun registered => ?_, fun ended => ?_,
    fun _ => rfl⟩, fun _ => trivial⟩
  · cases member
  · cases constructed
  · cases registered
  · cases ended

theorem streamSound_step (settings : Settings) (pool : Pool Process Frame)
    (label : ThreadId × Label) (final : Pool Process Frame) (sound : StreamSound settings pool)
    (stepped : systemStep settings pool label = some final) : StreamSound settings final := by
  refine ⟨startSound_step settings pool label final sound.start stepped, ?_⟩
  refine outline_of_moves KeepsStream sound.start.held sound.outline stepped ?_ ?_
  · intro next after moves
    have placed := sound.start.held.threads label.1
    have begun := sound.start.outline.threads label.1
    have known := sound.outline.threads label.1
    exact ⟨moves_streamOrdered sound.start.held.shared placed sound.start.outline.shared begun
      sound.outline.shared known moves, moves_streamKnown sound.outline.shared known moves,
      moves_keepsStream placed begun moves⟩
  · intro next thread different kept keeps placed known
    exact streamKnown_of_keepsStream different kept.run keeps placed known

/-- No other thread is in a call of the run when its destructor begins. -/
def DestroysAlone (pool : Pool Process Frame) (label : ThreadId × Label) : Prop :=
  label.2.action = .call .deleteTestRun → ∀ thread frame, pool.frames thread = .run frame →
    thread = label.1

/-- From then on only the destructor is. -/
def AloneInRun (pool : Pool Process Frame) : Prop :=
  pool.shared.run.lifetime.ending = true → ∀ thread frame, pool.frames thread = .run frame →
    frame.destroys = true

section

variable {settings : Settings} {thread : ThreadId} {label : Label} {process next : Process}
  {frame after : Frame}

theorem advances_destroys {protobuf : Protobuf} {run : TestRun} {calculator : TestResultCalculator}
    {dutInfos : DutRef → DutInfo} {inner : TestRun.Frame} {request : Request}
    {continued : TestRun.Frame} (destroys : inner.destroys = true)
    (advances : process.run.Advances protobuf thread calculator dutInfos inner run request
      (.next continued)) : continued.destroys = true := by
  cases advances with
  | lockEnd => cases process.run.started <;> rfl
  | emitMissingStart => rfl
  | finalize => rfl
  | readStatus => rfl
  | readResult => rfl
  | emitEnd => rfl
  | deregisterLogSink => rfl
  | unsetInitializationGuard => rfl
  | _ => cases destroys

/-- The run is ending because its destructor had begun, or begins now. -/
theorem RunMoves.was_ending (runMoves : RunMoves settings thread label frame process next)
    (placed : process.Placed thread frame) (ending : next.run.lifetime.ending = true) :
    process.run.lifetime.ending = true ∨
      frame = .idle ∧ label.action = .call .deleteTestRun := by
  rcases runMoves.lifetime with same | ⟨_, new⟩ | ⟨_, new, _⟩ | ⟨_, _, begins⟩ | ⟨rfl, _⟩
  · exact Or.inl (same ▸ ending)
  · rw [new] at ending
    cases ending
  · rw [new] at ending
    cases ending
  · exact Or.inr begins
  · exact Or.inl (by rw [placed.destroying rfl]; rfl)

theorem moves_destroys {inner : TestRun.Frame} (placed : process.Placed thread frame)
    (alone : process.run.lifetime.ending = true → ∀ outer, frame = .run outer →
      outer.destroys = true)
    (ending : next.run.lifetime.ending = true) (continues : after = .run inner)
    (moves : Moves settings thread process label frame next after) : inner.destroys = true := by
  have was := (moves_runMoves placed moves).was_ending placed ending
  cases moves with
  | log _ severity message _ delivered =>
      rw [(deliver_same delivered).run] at ending
      exact alone ending inner continues
  | call call _ _ _ begins =>
      cases begins with
      | newTestRun unborn => cases ending
      | onRun call entered entry live =>
          rw [live] at ending
          cases ending
      | startAndRegisterDutInfo dutInfo live owned =>
          simp only [setDutOwner, live] at ending
          cases ending
      | deleteTestRun live =>
          cases continues
          rfl
      | _ => cases continues
  | run outer run request rest performed _ _ advances perform =>
      rcases was with was | ⟨same, _⟩
      · cases rest with
        | next continued =>
            cases continues
            exact advances_destroys (alone was outer rfl) advances
        | done => cases continues
        | die message => cases continues
      · cases same
  | step ref outer step request rest => cases rest <;> cases continues
  | series ref outer series request rest => cases rest <;> cases continues
  | _ => cases continues

end

theorem aloneInRun_step (settings : Settings) (pool : Pool Process Frame)
    (label : ThreadId × Label) (final : Pool Process Frame) (held : MutexesHeld pool)
    (destroysAlone : DestroysAlone pool label) (alone : AloneInRun pool)
    (stepped : systemStep settings pool label = some final) : AloneInRun final := by
  obtain ⟨next, after, taken, rfl⟩ := (poolStep_eq_some _ pool final label).mp stepped
  have moves := moves_of_exec _ _ _ _ _ _ _ taken
  have placed := held.threads label.1
  intro ending thread inner here
  simp only at here ending
  by_cases acting : thread = label.1
  · subst acting
    rw [Function.update_self] at here
    exact moves_destroys placed (fun was outer => alone was _ outer) ending here moves
  · rw [Function.update_of_ne acting] at here
    rcases (moves_runMoves placed moves).was_ending placed ending with was | ⟨_, begins⟩
    · exact alone was thread inner here
    · exact absurd (destroysAlone begins thread inner here) acting

/-- With no call of the run under way, the destructor is the last to write. -/
structure Silent (settings : Settings) (pool : Pool Process Frame) : Prop where
  sound : StreamSound settings pool
  alone : AloneInRun pool
  each : Trace.EachAfter (fun before entry => endWritten before = true → entry.1 ≠ .run)
    pool.shared.stream

theorem silent_step (settings : Settings) (pool : Pool Process Frame)
    (label : ThreadId × Label) (final : Pool Process Frame)
    (destroysAlone : DestroysAlone pool label) (silent : Silent settings pool)
    (stepped : systemStep settings pool label = some final) : Silent settings final := by
  have sound := silent.sound
  have alone := aloneInRun_step settings pool label final sound.start.held destroysAlone silent.alone
    stepped
  refine ⟨streamSound_step settings pool label final sound stepped, alone, ?_⟩
  obtain ⟨next, after, taken, rfl⟩ := (poolStep_eq_some _ pool final label).mp stepped
  have moves := moves_of_exec _ _ _ _ _ _ _ taken
  rcases moves_stream _ _ _ _ _ _ _ moves with ⟨stream, _⟩ | ⟨origin, artifact, writes, stream, _⟩
  · simp only [stream]
    exact silent.each
  · simp only [stream]
    refine (Trace.eachAfter_snoc _ _).mpr ⟨silent.each, fun ended byRun => ?_⟩
    have destroys := silent.alone (sound.outline.shared.ending ended).1 label.1
    have placed := sound.start.held.threads label.1
    have begun := sound.start.outline.threads label.1
    have known := sound.outline.threads label.1
    generalize pool.frames label.1 = frame at writes destroys placed begun known
    obtain ⟨late, _⟩ := isPreStart_of_writes placed sound.start.outline.shared begun
      sound.outline.shared known writes byRun ended
    cases writes with
    | run inner _ _ rest alive advances =>
        have inDestructor := destroys inner rfl
        generalize next.run = run at advances
        cases advances with
        | emitMissingStart artifact built =>
            obtain ⟨start, rfl, _⟩ := TestRun.startArtifact_eq_ok _ _ _ _ built
            cases late
        | emitEnd status result => cases late
        | _ => cases inDestructor
    | _ => cases byRun

/-- Past its destructor, what comes after `stream` is not the run's and not its log sink's. -/
structure Gone (settings : Settings) (stream : List (Origin × Pb.OutputArtifact))
    (pool : Pool Process Frame) : Prop where
  sound : StreamSound settings pool
  destroyed : pool.shared.run.lifetime = .destroyed
  added : ∃ added, pool.shared.stream = stream ++ added ∧
    ∀ entry ∈ added, entry.1 ≠ .run ∧ entry.1 ≠ .sink

theorem gone_step (settings : Settings) (stream : List (Origin × Pb.OutputArtifact))
    (pool : Pool Process Frame) (label : ThreadId × Label) (final : Pool Process Frame)
    (gone : Gone settings stream pool) (stepped : systemStep settings pool label = some final) :
    Gone settings stream final := by
  have sound := gone.sound
  refine ⟨streamSound_step settings pool label final sound stepped, ?_, ?_⟩
  · obtain ⟨next, after, taken, rfl⟩ := (poolStep_eq_some _ pool final label).mp stepped
    have moves := moves_of_exec _ _ _ _ _ _ _ taken
    have placed := sound.start.held.threads label.1
    have destroyed := gone.destroyed
    generalize pool.frames label.1 = frame at moves placed
    rcases (moves_runMoves placed moves).lifetime with same | ⟨was, _⟩ | ⟨rfl, _⟩ | ⟨was, _⟩ | ⟨_, new⟩
    · exact same.trans destroyed
    · rw [was] at destroyed
      cases destroyed
    · rw [placed.constructing rfl] at destroyed
      cases destroyed
    · rw [was] at destroyed
      cases destroyed
    · exact new
  · obtain ⟨next, after, taken, rfl⟩ := (poolStep_eq_some _ pool final label).mp stepped
    obtain ⟨added, whole, others⟩ := gone.added
    have moves := moves_of_exec _ _ _ _ _ _ _ taken
    rcases moves_stream _ _ _ _ _ _ _ moves with ⟨same, _⟩ | ⟨origin, artifact, writes, wrote, _⟩
    · exact ⟨added, same.trans whole, others⟩
    · refine ⟨added ++ [(origin, ⟨artifact, pool.shared.sequenceNumber.count, label.2.now⟩)], ?_, ?_⟩
      · rw [wrote, whole, List.append_assoc]
      · intro entry member
        rcases List.mem_append.mp member with earlier | new
        · exact others entry earlier
        · obtain rfl := List.mem_singleton.mp new
          have silent := sound.outline.shared.destroyed gone.destroyed
          generalize pool.frames label.1 = frame at writes
          cases writes with
          | sink _ _ severity message registered =>
              rw [silent] at registered
              cases registered
          | run inner _ _ rest alive advances => exact absurd gone.destroyed alive
          | step => exact ⟨nofun, nofun⟩
          | series => exact ⟨nofun, nofun⟩

end Process

/-- The first artifact that the log sink has not written is the SchemaVersion. After its TestRunEnd
the run writes only what waited for its mutex, the sink only logs, and neither writes once the
destructor has returned. -/
theorem stream_framing (settings : Settings) (testRunStart : TestRunStart)
    (labels : List (ThreadId × Label)) (final : Pool Process Frame)
    (reached : Runs.run (systemStep settings) (initialPool testRunStart) labels = some final) :
    Trace.EachAfter (Process.InPlace settings final.shared.run.started) final.shared.stream ∧
    (Runs.Meets (systemStep settings) Process.DestroysAlone (initialPool testRunStart) labels →
      Trace.EachAfter (fun before entry => Process.endWritten before = true → entry.1 ≠ .run)
        final.shared.stream) ∧
    (final.shared.run.lifetime = .destroyed → ∀ more later,
      Runs.run (systemStep settings) final more = some later →
      ∃ added, later.shared.stream = final.shared.stream ++ added ∧
        ∀ entry ∈ added, entry.1 ≠ .run ∧ entry.1 ≠ .sink) := by
  have initial := Process.streamSound_initial settings testRunStart
  have sound := Runs.run_preserves _ (Process.StreamSound settings)
    (Process.streamSound_step settings) _ final labels initial reached
  refine ⟨sound.outline.shared.each, fun destroysAlone => ?_, fun destroyed more later goesOn => ?_⟩
  · have silent := Runs.run_preserves_of_meets _ Process.DestroysAlone (Process.Silent settings)
      (Process.silent_step settings) _ final labels destroysAlone
      ⟨initial, fun ending => (by cases ending), Trace.eachAfter_nil⟩ reached
    exact silent.each
  · have gone := Runs.run_preserves _ (Process.Gone settings final.shared.stream)
      (Process.gone_step settings final.shared.stream) final later more
      ⟨sound, destroyed, [], (List.append_nil _).symm, List.forall_mem_nil _⟩ goesOn
    exact gone.added

/-- Thread 1 logs while thread 0 constructs the run and while it destroys it. -/
def loggedLabels : List (ThreadId × Label) :=
  callLabels 0 .newTestRun 2 ++ [(1, { action := .log .info "opening" })] ++
    [(0, { action := .advance })] ++ callLabels 0 .deleteTestRun 6 ++
    [(1, { action := .log .info "closing" })] ++ List.replicate 3 (0, { action := .advance })

theorem stream_framing_loggedLabels :
    ∃ final, Runs.run (systemStep sampleSettings) (initialPool sampleTestRunStart) loggedLabels =
        some final ∧
      final.shared.run.lifetime = .destroyed ∧
      Trace.EachAfter (Process.InPlace sampleSettings final.shared.run.started)
        final.shared.stream :=
  ⟨_, rfl, rfl, (stream_framing sampleSettings sampleTestRunStart loggedLabels _ rfl).1⟩

/-- The first artifact of this stream is a Log, and so is the last, after the TestRunEnd. -/
theorem stream_framing_fails_of_logging :
    ∃ final, Runs.run (systemStep sampleSettings) (initialPool sampleTestRunStart) loggedLabels =
        some final ∧
      (∃ first ∈ final.shared.artifacts.head?, first ≠ TestRun.schemaVersion) ∧
      ¬ Trace.EachAfter (fun before entry => Process.endWritten before = true →
        entry.1 ≠ .run ∧ entry.1 ≠ .sink) final.shared.stream := by
  refine ⟨_, rfl, ⟨logSinkArtifact .info "opening", rfl, ?_⟩, ?_⟩
  · nofun
  · intro silent
    have last := silent _ _ [] (List.dropLast_append_getLast (by nofun)).symm
    exact (last rfl).2 rfl

end OcpDiag.Results
