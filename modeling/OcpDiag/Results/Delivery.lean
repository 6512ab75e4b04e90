import OcpDiag.Lib.Delivery
import OcpDiag.Results.CallsReturn

set_option autoImplicit false

/- What the test hands to the library: errors and logs before the start, the artifacts of the
steps, the elements of the series. A call carries it from its first step to the write. -/
namespace OcpDiag.Results

open ThreadPool

/-- An element without its number and the step id, which the library draws for it. -/
def Pb.MeasurementSeriesElement.unnumbered (element : Pb.MeasurementSeriesElement) :
    Pb.OutputVariant :=
  .testStepArtifact ⟨.measurementSeriesElement { element with index := 0 }, ""⟩

/-- What an artifact holds of the test's own. Starts, ends and the schema version are the
library's. -/
def Pb.OutputVariant.payload : Pb.OutputVariant → Option Pb.OutputVariant
  | .testRunArtifact (.error error) => some (.testRunArtifact (.error error))
  | .testRunArtifact (.log log) => some (.testRunArtifact (.log log))
  | .testStepArtifact ⟨.measurementSeriesElement element, _⟩ => some element.unnumbered
  | .testStepArtifact ⟨variant, testStepId⟩ =>
      if variant.addable then some (.testStepArtifact ⟨variant, testStepId⟩) else none
  | _ => none

/-- The conversion of an element at the time of its call. One that does not convert ends the
process. -/
def MeasurementSeriesElement.payload (protobuf : Protobuf) (element : MeasurementSeriesElement)
    (ref : SeriesRef) (now : Pb.Timestamp) : Option Pb.OutputVariant :=
  (element.structToProto protobuf).toOption.map fun proto =>
    let proto := if element.timestamp.isNone then { proto with timestamp := now } else proto
    { proto with measurementSeriesId := strCat ref }.unnumbered

/-- What a call hands to the library. -/
def Call.payload (settings : Settings) (now : Pb.Timestamp) : Call → Option Pb.OutputVariant
  | .addPreStartError error => some (.testRunArtifact (.error error.structToProto))
  | .addPreStartLog log => some (.testRunArtifact (.log log.structToProto))
  | .addMeasurement ref measurement =>
      (measurement.structToProto settings.protobuf).toOption.map fun proto =>
        TestStep.artifact ref (.measurement proto)
  | .addDiagnosis ref diagnosis => some (TestStep.artifact ref (.diagnosis diagnosis.structToProto))
  | .addError ref error => some (TestStep.artifact ref (.error error.structToProto))
  | .addFile ref file => some (TestStep.artifact ref (.file file.structToProto))
  | .addLog ref log => some (TestStep.artifact ref (.log log.structToProto))
  | .addExtension ref extension =>
      (extension.structToProto settings.protobuf).toOption.map fun proto =>
        TestStep.artifact ref (.extension proto)
  | .addElement ref element => element.payload settings.protobuf ref now
  | _ => none

def Label.payload (settings : Settings) (label : Label) : Option Pb.OutputVariant :=
  match label.action with
  | .call call => call.payload settings label.now
  | _ => none

def TestRun.Frame.carried : TestRun.Frame → Option Pb.OutputVariant
  | .addPreStartError error => some (.testRunArtifact (.error error.structToProto))
  | .writePreStartError error => some (.testRunArtifact (.error error))
  | .addPreStartLog log | .writePreStartLog log =>
      some (.testRunArtifact (.log log.structToProto))
  | _ => none

def TestStep.Frame.carried (ref : StepRef) : TestStep.Frame → Option Pb.OutputVariant
  | .notifyFailureDiagnosis added | .setError added | .notifyError added | .checkEnded added _
  | .assignIdAndEmit added _ => some (TestStep.artifact ref added.variant)
  | _ => none

def MeasurementSeries.Frame.carried (protobuf : Protobuf) (ref : SeriesRef) :
    MeasurementSeries.Frame → Option Pb.OutputVariant
  | .checkType element now | .drawIndex element now => element.payload protobuf ref now
  | .lockElement proto | .checkElement proto | .emitElement proto => some proto.unnumbered
  | _ => none

/-- What a call is yet to write of what it was handed. -/
def Frame.carried (settings : Settings) : Frame → Option Pb.OutputVariant
  | .run frame => frame.carried
  | .step ref frame => frame.carried ref
  | .series ref frame => frame.carried settings.protobuf ref
  | _ => none

/-- What the stream holds of the test's own. The log sink writes for whoever logs. -/
def Process.payloads (process : Process) : List Pb.OutputVariant :=
  process.stream.filterMap fun record =>
    if record.1 = .sink then none else record.2.artifact.payload

def Request.payloads (request : Request) : List Pb.OutputVariant :=
  request.written.filterMap (·.payload)

def Frame.dead : Frame → Prop
  | .dying _ | .aborting => True
  | _ => False

/-- What a step writes and what its call still carries come from what the call carried and was
handed, and only a dying thread drops some of it. -/
def Frame.Hands (settings : Settings) (frame after : Frame) (written taken :
    List Pb.OutputVariant) : Prop :=
  (frame.dead → after.dead) ∧
  (written ++ (after.carried settings).toList = (frame.carried settings).toList ++ taken ∨
    written = [] ∧ after.dead ∧ after.carried settings = none)

section

variable {settings : Settings}

theorem payload_added (ref : StepRef) (added : AddedArtifact) :
    (TestStep.artifact ref added.variant).payload = some (TestStep.artifact ref added.variant) := by
  obtain ⟨variant, addable⟩ := added
  cases variant <;> first | rfl | cases addable

theorem hands_dying (frame : Frame) (message : String) (taken : List Pb.OutputVariant) :
    frame.Hands settings (.dying message) [] taken :=
  ⟨fun _ => trivial, Or.inr ⟨rfl, trivial, rfl⟩⟩

theorem TestRun.advances_hands {protobuf : Protobuf} {run next : TestRun} {thread : ThreadId}
    {calculator : TestResultCalculator} {dutInfos : DutRef → DutInfo} {frame : Frame}
    {request : Request} {rest : Continue Frame}
    (advances : Advances protobuf run thread calculator dutInfos frame next request rest) :
    (Results.Frame.run frame).Hands settings (rest.toFrame .run) request.payloads [] := by
  cases advances with
  | emitStart artifact built | emitMissingStart artifact built =>
      obtain ⟨start, rfl, _⟩ := TestRun.startArtifact_eq_ok _ _ _ _ built
      exact ⟨False.elim, Or.inl rfl⟩
  | addPreStartErrorDies | addPreStartLogDies | startAndRegisterDutInfoDies
  | emitSchemaVersionDies | emitStartDies | emitMissingStartDies => exact hands_dying _ _ _
  | lockEnd free => cases run.started <;> exact ⟨False.elim, Or.inl rfl⟩
  | _ => exact ⟨False.elim, Or.inl rfl⟩

theorem TestStep.advances_hands {step next : TestStep} {ref : StepRef} {thread : ThreadId}
    {runMutex : Option ThreadId} {runStarted : Bool} {frame : Frame} {request : Request}
    {rest : Continue Frame}
    (advances : Advances step ref thread runMutex runStarted frame next request rest) :
    (Results.Frame.step ref frame).Hands settings (rest.toFrame (.step ref))
      request.payloads [] := by
  cases advances with
  | checkStartedDies | emitStartDies | checkEndedDies => exact hands_dying _ _ _
  | assignIdAndEmit added =>
      refine ⟨False.elim, Or.inl ?_⟩
      simp [Request.payloads, Request.written, payload_added, Results.Frame.carried, Frame.carried,
        Continue.toFrame]
  | assignIdAndEmitFatal added message =>
      refine ⟨False.elim, Or.inl ?_⟩
      simp [Request.payloads, Request.written, payload_added, Results.Frame.carried, Frame.carried,
        Continue.toFrame]
  | _ => exact ⟨False.elim, Or.inl rfl⟩

/-- The element that goes on is the conversion of the one that was handed over. -/
theorem MeasurementSeries.drawElement_payload {protobuf : Protobuf}
    {series next : MeasurementSeries} {ref : SeriesRef} {element : MeasurementSeriesElement}
    {now : Pb.Timestamp} {proto : Pb.MeasurementSeriesElement}
    (drawn : series.drawElement protobuf ref element now = .ok (next, proto)) :
    element.payload protobuf ref now = some proto.unnumbered := by
  simp only [drawElement, Outcome.bind_eq_ok, Outcome.pure_eq_ok, Outcome.ok.injEq,
    Prod.mk.injEq, Prod.exists] at drawn
  obtain ⟨converted, conversion, index, counter, _, _, rfl⟩ := drawn
  simp [MeasurementSeriesElement.payload, conversion, Outcome.toOption,
    Pb.MeasurementSeriesElement.unnumbered]

theorem MeasurementSeries.advances_hands {series next : MeasurementSeries}
    {ref : SeriesRef} {thread : ThreadId} {stepMutex : Option ThreadId} {stepEnded : Bool}
    {frame : Frame} {request : Request} {rest : Continue Frame}
    (advances : Advances settings.protobuf series ref thread stepMutex stepEnded frame next request
      rest) :
    (Results.Frame.series ref frame).Hands settings (rest.toFrame (.series ref))
      request.payloads [] := by
  cases advances with
  | checkStepDies | emitStartDies | checkTypeDies | drawIndexDies | checkElementDies =>
      exact hands_dying _ _ _
  | drawIndex element now built proto drawn =>
      refine ⟨False.elim, Or.inl ?_⟩
      simp [Request.payloads, Request.written, Results.Frame.carried, Frame.carried,
        Continue.toFrame, drawElement_payload drawn]
  | checkType element now => exact ⟨False.elim, Or.inl (List.append_nil _).symm⟩
  | _ => exact ⟨False.elim, Or.inl rfl⟩

/-- A call of a step starts with what it was handed. -/
theorem TestStep.payload_of_stepFrame {call : Call} {ref : StepRef} {frame : TestStep.Frame}
    (entry : call.stepFrame settings = some (ref, .ok frame)) (now : Pb.Timestamp) :
    frame.carried ref = call.payload settings now := by
  cases call with
  | addMeasurement _ measurement =>
      simp only [Call.stepFrame, Option.some.injEq, Prod.mk.injEq, addMeasurement,
        Outcome.bind_eq_ok, Outcome.pure_eq_ok, Outcome.ok.injEq] at entry
      obtain ⟨rfl, _, _, proto, converted, rfl⟩ := entry
      simp [Frame.carried, Call.payload, converted, Outcome.toOption]
  | addDiagnosis _ diagnosis =>
      simp only [Call.stepFrame, Option.some.injEq, Prod.mk.injEq, addDiagnosis,
        Outcome.bind_eq_ok] at entry
      obtain ⟨rfl, _, _, entry⟩ := entry
      split at entry <;> cases entry <;> rfl
  | addError _ error =>
      simp only [Call.stepFrame, Option.some.injEq, Prod.mk.injEq, addError,
        Outcome.bind_eq_ok, Outcome.pure_eq_ok, Outcome.ok.injEq] at entry
      obtain ⟨rfl, _, _, rfl⟩ := entry
      rfl
  | addFile _ file =>
      simp only [Call.stepFrame, Option.some.injEq, Prod.mk.injEq, addFile,
        Outcome.bind_eq_ok, Outcome.pure_eq_ok, Outcome.ok.injEq] at entry
      obtain ⟨rfl, _, _, rfl⟩ := entry
      rfl
  | addLog _ log =>
      simp only [Call.stepFrame, Option.some.injEq, Prod.mk.injEq, addLog,
        Outcome.bind_eq_ok, Outcome.pure_eq_ok, Outcome.ok.injEq] at entry
      obtain ⟨rfl, _, _, rfl⟩ := entry
      rfl
  | addExtension _ extension =>
      simp only [Call.stepFrame, Option.some.injEq, Prod.mk.injEq, addExtension,
        Outcome.bind_eq_ok, Outcome.pure_eq_ok, Outcome.ok.injEq] at entry
      obtain ⟨rfl, _, _, proto, converted, rfl⟩ := entry
      simp [Frame.carried, Call.payload, converted, Outcome.toOption]
  | skipTestStep _ =>
      cases entry
      rfl
  | endTestStep _ =>
      cases entry
      rfl
  | _ => cases entry

namespace Process

variable {process next : Process} {thread : ThreadId} {label : Label} {now : Pb.Timestamp}

theorem begins_hands {call : Call} {frame : Frame}
    (begins : Begins settings thread now process call next frame) :
    Frame.idle.Hands settings frame [] (call.payload settings now).toList := by
  cases begins with
  | onRun call frame entry live =>
      cases call with
      | startAndRegisterDutInfo dutInfo =>
          cases dutInfo with
          | none =>
              cases entry
              exact ⟨False.elim, Or.inl rfl⟩
          | some dutInfo => cases entry
      | _ =>
          cases entry
          all_goals exact ⟨False.elim, Or.inl rfl⟩
  | onStep call ref frame entry live =>
      refine ⟨False.elim, Or.inl ?_⟩
      simp [Frame.carried, TestStep.payload_of_stepFrame entry now]
  | onSeries call ref frame entry live =>
      cases call <;> cases entry <;> exact ⟨False.elim, Or.inl rfl⟩
  | onDutInfo call ref dutInfo hardware software owned made =>
      cases made <;> exact ⟨False.elim, Or.inl rfl⟩
  | dies call message => exact hands_dying _ _ _
  | _ => exact ⟨False.elim, Or.inl rfl⟩

theorem payloads_perform {origin : Origin} {request : Request}
    (performed : process.perform settings origin now request = .ok next) (own : origin ≠ .sink) :
    next.payloads = process.payloads ++ request.payloads := by
  rcases perform_stream _ _ _ _ _ _ performed with ⟨stream, _⟩ | ⟨artifact, rfl, stream, _⟩
  · cases request with
    | write artifact =>
        obtain ⟨_, rfl⟩ := (write_eq_ok _ _ _ _ _).mp performed
        simp at stream
    | _ => simp [payloads, stream, Request.payloads, Request.written]
  · rw [payloads, stream, List.filterMap_append]
    simp only [List.filterMap_cons, own, ↓reduceIte, List.filterMap_nil, payloads,
      Request.payloads, Request.written]

theorem payloads_deliver {severity : AbslSeverity} {message : String}
    (delivered : process.deliver severity message now = .ok next) :
    next.payloads = process.payloads := by
  rcases deliver_spec _ _ _ _ _ delivered with rfl | ⟨_, wrote⟩
  · rfl
  · obtain ⟨_, rfl⟩ := (write_eq_ok _ _ _ _ _).mp wrote
    simp [payloads]

/-- A step that nothing is handed to writes what it carries. -/
theorem moves_hands {frame after : Frame}
    (moves : Moves settings thread process label frame next after)
    (nothing : label.payload settings = none) :
    ∃ written, next.payloads = process.payloads ++ written ∧
      frame.Hands settings after written [] := by
  have logged : ∀ {severity : AbslSeverity} {message : String} {next : Process},
      process.deliver severity message label.now = .ok next →
      next.payloads = process.payloads ++ [] := fun delivered => by
    rw [payloads_deliver delivered, List.append_nil]
  cases moves with
  | log _ severity message _ delivered =>
      exact ⟨[], logged delivered, id, Or.inl (List.append_nil _).symm⟩
  | call call _ _ action begins =>
      have same := begins_sameRecord _ _ _ _ _ _ _ begins
      have hands := begins_hands begins
      have unhanded : call.payload settings label.now = none := by
        rwa [Label.payload, action] at nothing
      rw [unhanded] at hands
      exact ⟨[], by simp [payloads, same.stream], hands⟩
  | run frame run request rest performed _ _ advances perform =>
      have payloads := payloads_perform perform nofun
      exact ⟨request.payloads, payloads, TestRun.advances_hands advances⟩
  | step ref frame step request rest performed _ _ advances perform =>
      have payloads := payloads_perform perform nofun
      exact ⟨request.payloads, payloads, TestStep.advances_hands advances⟩
  | series ref frame series request rest performed _ _ _ advances perform =>
      have payloads := payloads_perform perform nofun
      exact ⟨request.payloads, payloads, MeasurementSeries.advances_hands advances⟩
  | runDies frame message => exact ⟨[], (List.append_nil _).symm, hands_dying _ _ _⟩
  | stepDies ref frame message => exact ⟨[], (List.append_nil _).symm, hands_dying _ _ _⟩
  | dying message _ delivered =>
      exact ⟨[], logged delivered, fun _ => trivial, Or.inr ⟨rfl, trivial, rfl⟩⟩
  | aborting =>
      exact ⟨[], (List.append_nil _).symm, fun _ => trivial, Or.inr ⟨rfl, trivial, rfl⟩⟩

theorem exec_hands {frame after : Frame}
    (taken : process.exec settings label thread frame = some (next, after)) :
    ∃ written, next.payloads = process.payloads ++ written ∧
      frame.Hands settings after written (label.payload settings).toList := by
  cases action : label.action with
  | call call =>
      simp only [exec, Option.ite_none_left_eq_some, action] at taken
      obtain ⟨_, begun⟩ := taken
      split at begun
      · have begins := begins_of_begin _ _ _ _ _ _ _ begun
        have same := begins_sameRecord _ _ _ _ _ _ _ begins
        refine ⟨[], by simp [payloads, same.stream], ?_⟩
        rw [Label.payload, action]
        exact begins_hands begins
      · cases begun
  | advance =>
      have nothing : label.payload settings = none := by rw [Label.payload, action]
      rw [nothing]
      exact moves_hands (moves_of_exec _ _ _ _ _ _ _ taken) nothing
  | log severity message =>
      have nothing : label.payload settings = none := by rw [Label.payload, action]
      rw [nothing]
      exact moves_hands (moves_of_exec _ _ _ _ _ _ _ taken) nothing

end Process

/-- What a thread carries, as a bag. -/
def Frame.bag (settings : Settings) (frame : Frame) : Multiset Pb.OutputVariant :=
  ↑(frame.carried settings).toList

/-- What the calls of a run handed to the library. -/
def submitted (settings : Settings) (labels : List (ThreadId × Label)) : List Pb.OutputVariant :=
  labels.filterMap fun label => label.2.payload settings

theorem submitted_snoc (labels : List (ThreadId × Label)) (label : ThreadId × Label) :
    submitted settings (labels ++ [label]) =
      submitted settings labels ++ (label.2.payload settings).toList := by
  cases handed : label.2.payload settings <;> simp [submitted, handed]

theorem delivers_of_run (settings : Settings) (testRunStart : TestRunStart)
    (labels : List (ThreadId × Label)) (pool : Pool Process Frame)
    (reached : Runs.run (systemStep settings) (initialPool testRunStart) labels = some pool) :
    Delivers (Frame.bag settings) Frame.dead (fun process => ↑process.payloads) (callers labels)
      ↑(submitted settings labels) pool := by
  have kept := Runs.run_preserves_history (systemStep settings)
    (fun history pool => (∀ label ∈ history, label.1 ∈ callers labels) →
      Delivers (Frame.bag settings) Frame.dead (fun process => ↑process.payloads) (callers labels)
        ↑(submitted settings history) pool) ?_ [] (initialPool testRunStart) pool labels ?_ reached
  · refine kept fun label member => ?_
    exact List.mem_toFinset.mpr (List.mem_map_of_mem member)
  · intro history state label next delivers stepped each
    have earlier := delivers fun other before => each other (List.mem_append_left _ before)
    rw [submitted_snoc, ← Multiset.coe_add]
    refine delivers_step _ earlier (each label (by simp)) stepped fun shared frame taken => ?_
    obtain ⟨written, payloads, stays, hands⟩ := Process.exec_hands taken
    simp only [payloads, Frame.bag, Multiset.coe_add]
    rcases hands with same | ⟨rfl, dead, nothing⟩
    · rw [List.append_assoc, List.append_assoc, same]
      exact ⟨stays, le_refl _, fun _ => rfl⟩
    · refine ⟨stays, ?_, fun alive => absurd dead alive⟩
      rw [nothing, Option.toList_none, List.append_nil, List.append_nil, List.append_assoc,
        ← Multiset.coe_add]
      exact Multiset.le_add_right _ _
  · intro _
    have idle : inFlight (Frame.bag settings) (callers labels) (initialPool testRunStart) = 0 :=
      Finset.sum_eq_zero fun _ _ => rfl
    refine ⟨?_, fun _ => ?_⟩
    · rw [idle]
      exact le_refl _
    · rw [idle]
      rfl

theorem payloads_of_rest {labels : List (ThreadId × Label)} {pool : Pool Process Frame}
    (delivers : Delivers (Frame.bag settings) Frame.dead (fun process => ↑process.payloads)
      (callers labels) ↑(submitted settings labels) pool)
    (atRest : ∀ thread, pool.frames thread = .idle) :
    pool.shared.payloads.Perm (submitted settings labels) := by
  refine (Multiset.coe_eq_coe.mp (delivers.eq_of_rest fun thread => ?_)).symm
  rw [atRest thread]
  exact ⟨rfl, id⟩

/-- Each write of the test's own comes from a call of its own, and when no call is under way each
call that handed something over has written it. -/
theorem calls_delivered (settings : Settings) (testRunStart : TestRunStart)
    (labels : List (ThreadId × Label)) (final : Pool Process Frame)
    (reached : Runs.run (systemStep settings) (initialPool testRunStart) labels = some final) :
    final.shared.payloads.Subperm (submitted settings labels) ∧
    ((∀ thread, final.frames thread = .idle) →
      final.shared.payloads.Perm (submitted settings labels)) := by
  have delivers := delivers_of_run settings testRunStart labels final reached
  exact ⟨Multiset.coe_le.mp (le_trans (Multiset.le_add_right _ _) delivers.sound),
    payloads_of_rest delivers⟩

end

/-- Thread 1 begins to add an error, and thread 0 adds an element to its series first. -/
def crossingLabels : List (ThreadId × Label) :=
  sampleStart ++ callLabels 0 (.newTestStep "fans") 2 ++
    callLabels 0 (.newMeasurementSeries 0 { name := "spinning" }) 2 ++
    callLabels 1 (.addError 0 { symptom := "stalled" }) 1 ++
    callLabels 0 (.addElement 0 { value := .bool true }) 5 ++
    List.replicate 3 (1, { action := .advance })

theorem crossingLabels_atRest :
    ∃ final, Runs.run (systemStep sampleSettings) (initialPool sampleTestRunStart) crossingLabels =
        some final ∧
      final.shared.payloads.length = 2 ∧ ∀ thread, final.frames thread = .idle := by
  obtain ⟨final, reached, returned, other, written⟩ :
      ∃ final, Runs.run (systemStep sampleSettings) (initialPool sampleTestRunStart)
          crossingLabels = some final ∧
        final.frames 0 = .idle ∧ final.frames 1 = .idle ∧ final.shared.payloads.length = 2 :=
    ⟨_, rfl, rfl, rfl, rfl⟩
  have only : callers crossingLabels = {0, 1} := by decide
  exact ⟨final, reached, written, atRest_of_callers sampleSettings sampleTestRunStart
    crossingLabels final reached (by simp [only, returned, other])⟩

theorem calls_delivered_crossingLabels :
    ∃ final, Runs.run (systemStep sampleSettings) (initialPool sampleTestRunStart) crossingLabels =
        some final ∧
      final.shared.payloads.length = 2 ∧
      final.shared.payloads.Perm (submitted sampleSettings crossingLabels) := by
  obtain ⟨final, reached, written, atRest⟩ := crossingLabels_atRest
  exact ⟨final, reached, written,
    (calls_delivered sampleSettings sampleTestRunStart crossingLabels final reached).2 atRest⟩

end OcpDiag.Results
