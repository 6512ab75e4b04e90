import OcpDiag.Lib.Pointwise
import OcpDiag.Results.ModelContents
import OcpDiag.Results.RoundTrip
import OcpDiag.Results.SeriesFraming

set_option autoImplicit false

/- Whatever a program writes, the library reads back: each artifact converts, and the artifacts
of a series stand under the one step that the series was made for. -/
namespace OcpDiag.Results

open ThreadPool

section

variable {protobuf : Protobuf} (undoes : ParseUndoesPrint protobuf)

/-- A text that has been converted is JSON, or empty. -/
theorem jsonField_of_ok {text : String} {value : Pb.Struct}
    (converted : jsonToProtoOrDie protobuf text = .ok value) : JsonField protobuf text := by
  unfold jsonToProtoOrDie at converted
  split at converted
  · rename_i empty
    exact Or.inl (String.isEmpty_iff.mp empty)
  · split at converted
    · rename_i value parsed
      exact Or.inr ⟨_, parsed⟩
    · cases converted

include undoes in
theorem protoToJsonOrDie_of_ok {text : String} {value : Pb.Struct}
    (converted : jsonToProtoOrDie protobuf text = .ok value) :
    ∃ output, protoToJsonOrDie protobuf value = .ok output := by
  obtain ⟨other, output, encoded, decoded, _⟩ :=
    json_roundTrip undoes text (jsonField_of_ok converted)
  obtain rfl := Outcome.ok.inj (converted.symm.trans encoded)
  exact ⟨output, decoded⟩

end

/-- The content of a step's artifact is converted without dying. -/
def Pb.TestStepVariant.Readable (protobuf : Protobuf) (variant : Pb.TestStepVariant) : Prop :=
  ∃ output, TestStepVariant.protoToStruct protobuf variant = .ok output

def Pb.OutputVariant.Readable (protobuf : Protobuf) (artifact : Pb.OutputVariant) : Prop :=
  ∃ output, OutputVariant.protoToStruct protobuf artifact = .ok output

theorem readable_testStepArtifact {protobuf : Protobuf} {variant : Pb.TestStepVariant}
    (readable : variant.Readable protobuf) (testStepId : String) :
    (Pb.OutputVariant.testStepArtifact ⟨variant, testStepId⟩).Readable protobuf := by
  obtain ⟨output, converted⟩ := readable
  refine ⟨.testStepArtifact ⟨output, testStepId⟩, ?_⟩
  simp only [OutputVariant.protoToStruct, TestStepArtifact.protoToStruct, converted,
    Outcome.ok_bind, Outcome.pure_eq_ok]

namespace TestStep

/-- What an Add call carries converts back. -/
def Frame.Readable (protobuf : Protobuf) : Frame → Prop
  | .notifyFailureDiagnosis added | .setError added | .notifyError added | .checkEnded added _
  | .assignIdAndEmit added _ => added.variant.Readable protobuf
  | _ => True

section

variable {settings : Settings} (undoes : ParseUndoesPrint settings.protobuf)

include undoes in
theorem readable_measurement {measurement : Measurement} {proto : Pb.Measurement}
    (accepted : measurement.validateStructOrDie = .ok ())
    (converted : measurement.structToProto settings.protobuf = .ok proto) :
    (Pb.TestStepVariant.measurement proto).Readable settings.protobuf := by
  have field : JsonField settings.protobuf measurement.metadataJson := by
    simp only [Measurement.structToProto, Outcome.bind_eq_ok] at converted
    obtain ⟨_, parsed, _⟩ := converted
    exact jsonField_of_ok parsed
  obtain ⟨other, json, encoded, _, decoded⟩ := Measurement.roundTrip undoes _ accepted field
  obtain rfl := Outcome.ok.inj (converted.symm.trans encoded)
  exact ⟨_, by
    simp only [TestStepVariant.protoToStruct, decoded, Outcome.ok_bind, Outcome.pure_eq_ok]
    rfl⟩

include undoes in
theorem readable_extension {extension : Extension} {proto : Pb.Extension}
    (converted : extension.structToProto settings.protobuf = .ok proto) :
    (Pb.TestStepVariant.extension proto).Readable settings.protobuf := by
  simp only [Extension.structToProto, Outcome.bind_eq_ok, Outcome.pure_eq_ok,
    Outcome.ok.injEq] at converted
  obtain ⟨content, parsed, rfl⟩ := converted
  obtain ⟨output, printed⟩ := protoToJsonOrDie_of_ok undoes parsed
  exact ⟨_, by
    simp only [TestStepVariant.protoToStruct, ExtensionOutput.protoToStruct, printed,
      Outcome.ok_bind, Outcome.pure_eq_ok]
    rfl⟩

include undoes in
theorem readable_of_stepFrame {call : Call} {ref : StepRef} {frame : Frame}
    (entry : call.stepFrame settings = some (ref, .ok frame)) :
    frame.Readable settings.protobuf := by
  cases call with
  | addMeasurement _ measurement =>
      simp only [Call.stepFrame, Option.some.injEq, Prod.mk.injEq, addMeasurement,
        Outcome.bind_eq_ok, Outcome.pure_eq_ok, Outcome.ok.injEq] at entry
      obtain ⟨_, _, accepted, proto, converted, rfl⟩ := entry
      exact readable_measurement undoes accepted converted
  | addDiagnosis _ diagnosis =>
      simp only [Call.stepFrame, Option.some.injEq, Prod.mk.injEq, addDiagnosis,
        Outcome.bind_eq_ok] at entry
      obtain ⟨_, _, _, entry⟩ := entry
      split at entry <;> cases entry <;> exact ⟨_, rfl⟩
  | addError _ error =>
      simp only [Call.stepFrame, Option.some.injEq, Prod.mk.injEq, addError,
        Outcome.bind_eq_ok, Outcome.pure_eq_ok, Outcome.ok.injEq] at entry
      obtain ⟨_, _, _, rfl⟩ := entry
      exact ⟨_, rfl⟩
  | addFile _ file =>
      simp only [Call.stepFrame, Option.some.injEq, Prod.mk.injEq, addFile,
        Outcome.bind_eq_ok, Outcome.pure_eq_ok, Outcome.ok.injEq] at entry
      obtain ⟨_, _, _, rfl⟩ := entry
      exact ⟨_, rfl⟩
  | addLog _ log =>
      simp only [Call.stepFrame, Option.some.injEq, Prod.mk.injEq, addLog,
        Outcome.bind_eq_ok, Outcome.pure_eq_ok, Outcome.ok.injEq] at entry
      obtain ⟨_, _, _, rfl⟩ := entry
      exact ⟨_, rfl⟩
  | addExtension _ extension =>
      simp only [Call.stepFrame, Option.some.injEq, Prod.mk.injEq, addExtension,
        Outcome.bind_eq_ok, Outcome.pure_eq_ok, Outcome.ok.injEq] at entry
      obtain ⟨_, _, _, proto, converted, rfl⟩ := entry
      exact readable_extension undoes converted
  | skipTestStep _ =>
      cases entry
      trivial
  | endTestStep _ =>
      cases entry
      trivial
  | _ => cases entry

theorem advances_readable {protobuf : Protobuf} {step next : TestStep} {ref : StepRef}
    {thread : ThreadId} {runMutex : Option ThreadId} {runStarted : Bool} {frame : Frame}
    {request : Request} {rest : Continue Frame} (readable : frame.Readable protobuf)
    (advances : Advances step ref thread runMutex runStarted frame next request rest) :
    (∀ artifact ∈ request.written, artifact.Readable protobuf) ∧
    ∀ after, rest = .next after → after.Readable protobuf := by
  have nothing : ∀ artifact ∈ Request.none.written, artifact.Readable protobuf :=
    fun _ member => by cases member
  cases advances with
  | emitStart =>
      refine ⟨fun artifact member => ?_, fun _ same => by cases same⟩
      obtain rfl := List.mem_singleton.mp member
      exact ⟨_, rfl⟩
  | emitEnd destroy =>
      refine ⟨fun artifact member => ?_, fun _ same => by cases same⟩
      obtain rfl := List.mem_singleton.mp member
      exact ⟨_, rfl⟩
  | assignIdAndEmit added =>
      refine ⟨fun artifact member => ?_, fun _ same => by cases same⟩
      obtain rfl := List.mem_singleton.mp member
      exact readable_testStepArtifact readable _
  | assignIdAndEmitFatal added message =>
      refine ⟨fun artifact member => ?_, fun _ same => by cases same⟩
      obtain rfl := List.mem_singleton.mp member
      exact readable_testStepArtifact readable _
  | _ =>
      refine ⟨nothing, ?_⟩
      rintro after ⟨⟩
      all_goals exact readable

end

end TestStep

namespace MeasurementSeries

/-- The element that an AddElement() carries converts back, and is the series' own. -/
def Frame.Readable (protobuf : Protobuf) (ref : SeriesRef) : Frame → Prop
  | .lockElement element | .checkElement element | .emitElement element =>
      (Pb.TestStepVariant.measurementSeriesElement element).Readable protobuf ∧
        element.measurementSeriesId = strCat ref
  | _ => True

section

variable {protobuf : Protobuf} (undoes : ParseUndoesPrint protobuf)

theorem readable_of_value {proto : Pb.MeasurementSeriesElement} (value : Variant) (output : String)
    (valued : proto.value = variantToProto value)
    (printed : protoToJsonOrDie protobuf proto.metadata = .ok output) :
    (Pb.TestStepVariant.measurementSeriesElement proto).Readable protobuf :=
  ⟨_, by
    simp only [TestStepVariant.protoToStruct, MeasurementSeriesElementOutput.protoToStruct, valued,
      protoToVariant_variantToProto, printed, Outcome.ok_bind, Outcome.pure_eq_ok]
    rfl⟩

include undoes in
theorem readable_element {series next : MeasurementSeries} {ref : SeriesRef}
    {element : MeasurementSeriesElement} {now : Pb.Timestamp}
    {proto : Pb.MeasurementSeriesElement}
    (drawn : series.drawElement protobuf ref element now = .ok (next, proto)) :
    (Pb.TestStepVariant.measurementSeriesElement proto).Readable protobuf ∧
      proto.measurementSeriesId = strCat ref := by
  simp only [drawElement, MeasurementSeriesElement.structToProto, Outcome.bind_eq_ok,
    Outcome.pure_eq_ok, Outcome.ok.injEq, Prod.mk.injEq, Prod.exists] at drawn
  obtain ⟨_, ⟨metadata, parsed, rfl⟩, index, counter, _, _, rfl⟩ := drawn
  obtain ⟨output, printed⟩ := protoToJsonOrDie_of_ok undoes parsed
  refine ⟨readable_of_value element.value output ?_ ?_, rfl⟩
  · split <;> rfl
  · split <;> exact printed

include undoes in
theorem readable_start {series next : MeasurementSeries} {ref : SeriesRef}
    {start : MeasurementSeriesStart} {proto : Pb.MeasurementSeriesStart}
    (built : series.construct protobuf ref start = .ok (next, proto)) :
    (Pb.TestStepVariant.measurementSeriesStart proto).Readable protobuf ∧
      proto.measurementSeriesId = strCat ref := by
  have accepted : start.validateStructOrDie = .ok () := by
    simp only [construct, Outcome.bind_eq_ok] at built
    obtain ⟨_, accepted, _⟩ := built
    exact accepted
  obtain ⟨converted, conversion, rfl⟩ := construct_proto built
  have field : JsonField protobuf start.metadataJson := by
    simp only [MeasurementSeriesStart.structToProto, Outcome.bind_eq_ok] at conversion
    obtain ⟨_, parsed, _⟩ := conversion
    exact jsonField_of_ok parsed
  obtain ⟨other, json, encoded, _, decoded⟩ :=
    MeasurementSeriesStart.roundTrip undoes start (strCat ref) accepted field
  obtain rfl := Outcome.ok.inj (conversion.symm.trans encoded)
  exact ⟨⟨_, by
    simp only [TestStepVariant.protoToStruct, decoded, Outcome.ok_bind, Outcome.pure_eq_ok]
    rfl⟩, rfl⟩

include undoes in
/-- A series writes under the id of its step, and names itself. -/
theorem advances_readable {series next : MeasurementSeries} {ref : SeriesRef} {thread : ThreadId}
    {stepMutex : Option ThreadId} {stepEnded : Bool} {frame : Frame} {request : Request}
    {rest : Continue Frame} (readable : frame.Readable protobuf ref)
    (advances : Advances protobuf series ref thread stepMutex stepEnded frame next request rest) :
    (∀ artifact ∈ request.written, ∃ variant, artifact = next.artifact variant ∧
      variant.Readable protobuf ∧ variant.seriesId = some (strCat ref)) ∧
    ∀ after, rest = .next after → after.Readable protobuf ref := by
  cases advances with
  | emitStart start built proto constructs =>
      refine ⟨fun artifact member => ?_, fun _ same => by cases same⟩
      obtain rfl := List.mem_singleton.mp member
      obtain ⟨converts, named⟩ := readable_start undoes constructs
      exact ⟨_, rfl, converts, congrArg some named⟩
  | drawIndex element now built proto drawn =>
      refine ⟨(fun _ member => by cases member), ?_⟩
      rintro after ⟨⟩
      exact readable_element undoes drawn
  | emitElement element =>
      refine ⟨fun artifact member => ?_, fun _ same => by cases same⟩
      obtain rfl := List.mem_singleton.mp member
      exact ⟨_, rfl, readable.1, congrArg some readable.2⟩
  | emitEnd totalCount destroy =>
      refine ⟨fun artifact member => ?_, fun _ same => by cases same⟩
      obtain rfl := List.mem_singleton.mp member
      refine ⟨.measurementSeriesEnd ⟨strCat ref, totalCount⟩, ?_, ⟨_, rfl⟩, rfl⟩
      cases destroy <;> rfl
  | lockElement element | checkElement element =>
      refine ⟨(fun _ member => by cases member), ?_⟩
      rintro after ⟨⟩
      exact readable
  | _ =>
      refine ⟨(fun _ member => by cases member), ?_⟩
      rintro after ⟨⟩
      all_goals trivial

end

end MeasurementSeries

namespace TestRun

variable {protobuf : Protobuf} (undoes : ParseUndoesPrint protobuf)

include undoes in
theorem readable_start {run : TestRun} {dutInfos : DutRef → DutInfo} {artifact : Pb.OutputVariant}
    (built : run.startArtifact protobuf dutInfos = .ok artifact) : artifact.Readable protobuf := by
  let input : ResultInput := .testRunStart run.testRunStart (run.dutInfo.map dutInfos)
  have same : input.structToProto protobuf "" = .ok artifact := by
    rw [← built]
    simp only [input, ResultInput.structToProto, startArtifact]
    cases run.dutInfo <;> rfl
  have valid : ∀ text ∈ input.jsonFields, JsonField protobuf text := by
    simp only [startArtifact, TestRunStart.structToProto, Outcome.bind_eq_ok] at built
    obtain ⟨_, ⟨_, parameters, _, metadata, _⟩, built⟩ := built
    intro text member
    simp only [input, ResultInput.jsonFields, List.cons_append, List.nil_append,
      List.mem_cons, Option.mem_toList, Option.map_map, Option.map_eq_some_iff] at member
    rcases member with rfl | rfl | ⟨dutInfo, registered, rfl⟩
    · exact jsonField_of_ok parameters
    · exact jsonField_of_ok metadata
    · simp only [registered, dutInfoToProto, Outcome.bind_eq_ok] at built
      obtain ⟨_, ⟨_, converted, _⟩, _⟩ := built
      exact jsonField_of_ok converted
  obtain ⟨other, output, encoded, decoded, _⟩ :=
    TestRunStart.roundTrip undoes run.testRunStart (run.dutInfo.map dutInfos) "" valid
  obtain rfl := Outcome.ok.inj (same.symm.trans encoded)
  exact ⟨output, decoded⟩

include undoes in
theorem advances_readable {run next : TestRun} {thread : ThreadId}
    {calculator : TestResultCalculator} {dutInfos : DutRef → DutInfo} {frame : Frame}
    {request : Request} {rest : Continue Frame}
    (advances : Advances protobuf run thread calculator dutInfos frame next request rest) :
    ∀ artifact ∈ request.written, artifact.Readable protobuf := by
  cases advances with
  | emitStart artifact built | emitMissingStart artifact built =>
      intro other member
      obtain rfl := List.mem_singleton.mp member
      exact readable_start undoes built
  | emitSchemaVersion | writePreStartError | writePreStartLog | writePreStartLogFatal | emitEnd =>
      intro other member
      obtain rfl := List.mem_singleton.mp member
      exact ⟨_, rfl⟩
  | _ => exact fun _ member => by cases member

end TestRun

/-- The artifact is not of a series, or names one that was made, under the step it was made
for. -/
def Process.UnderOwnStep (process : Process) (artifact : Pb.OutputVariant) : Prop :=
  ∀ proto seriesId, artifact = .testStepArtifact proto → proto.artifact.seriesId = some seriesId →
    ∃ ref, ref < process.run.measurementSeriesId.count ∧ seriesId = strCat ref ∧
      proto.testStepId = strCat (process.series ref).testStep

theorem Process.UnderOwnStep.of_keeps {process next : Process} {thread : ThreadId}
    {artifact : Pb.OutputVariant} (under : process.UnderOwnStep artifact)
    (keeps : process.Keeps thread next) : next.UnderOwnStep artifact := by
  intro proto seriesId same named
  obtain ⟨ref, made, names, under⟩ := under proto seriesId same named
  refine ⟨ref, Nat.lt_of_lt_of_le made keeps.run.measurementSeriesId, names, ?_⟩
  rw [(keeps.series ref made).testStep]
  exact under

/-- An artifact that is of no series is under no other step. -/
theorem Process.underOwnStep_of_ofSeries {process : Process} {artifact : Pb.OutputVariant}
    (other : ∀ seriesId, artifact.ofSeries seriesId = none) : process.UnderOwnStep artifact := by
  rintro proto seriesId rfl named
  have absent := other seriesId
  simp [Pb.OutputVariant.ofSeries, named] at absent

def Frame.Readable (protobuf : Protobuf) : Frame → Prop
  | .step _ frame => frame.Readable protobuf
  | .series ref frame => frame.Readable protobuf ref
  | _ => True

/-- Everything in the stream converts back and is under its own step. -/
def Process.ReadsBack (protobuf : Protobuf) (process : Process) : Prop :=
  ∀ artifact ∈ process.artifacts, artifact.Readable protobuf ∧ process.UnderOwnStep artifact

namespace Process

variable {settings : Settings} {process next : Process} {thread : ThreadId} {label : Label}

theorem ReadsBack.grow (reads : process.ReadsBack settings.protobuf)
    (written : List Pb.OutputVariant) (keeps : process.Keeps thread next)
    (grown : next.artifacts = process.artifacts ++ written)
    (readable : ∀ artifact ∈ written, artifact.Readable settings.protobuf)
    (under : ∀ artifact ∈ written, next.UnderOwnStep artifact) :
    next.ReadsBack settings.protobuf := by
  intro artifact member
  rw [grown, List.mem_append] at member
  rcases member with earlier | fresh
  · exact ⟨(reads artifact earlier).1, (reads artifact earlier).2.of_keeps keeps⟩
  · exact ⟨readable artifact fresh, under artifact fresh⟩

theorem artifacts_deliver {severity : AbslSeverity} {message : String} {now : Pb.Timestamp}
    (delivered : process.deliver severity message now = .ok next) :
    ∃ written, next.artifacts = process.artifacts ++ written ∧
      ∀ artifact ∈ written, artifact = logSinkArtifact severity message := by
  rcases deliver_spec _ _ _ _ _ delivered with rfl | ⟨_, wrote⟩
  · exact ⟨[], (List.append_nil _).symm, fun _ member => by cases member⟩
  · exact ⟨_, (write_spec _ _ _ _ _ wrote).2.1, fun _ member => List.mem_singleton.mp member⟩

theorem underOwnStep_of_toSeries {request : Request}
    (plain : ∀ seriesId, request.toSeries seriesId = []) :
    ∀ artifact ∈ request.written, process.UnderOwnStep artifact := fun artifact member =>
  underOwnStep_of_ofSeries fun seriesId =>
    List.filterMap_eq_nil_iff.mp (plain seriesId) artifact member

theorem readable_of_begins {call : Call} {now : Pb.Timestamp} {frame : Frame}
    (undoes : ParseUndoesPrint settings.protobuf)
    (begins : Begins settings thread now process call next frame) :
    frame.Readable settings.protobuf := by
  cases begins with
  | onStep call ref entered entry live => exact TestStep.readable_of_stepFrame undoes entry
  | onSeries call ref entered entry live => cases call <;> cases entry <;> trivial
  | _ => trivial

theorem moves_readsBack {frame after : Frame} (undoes : ParseUndoesPrint settings.protobuf)
    (reads : process.ReadsBack settings.protobuf) (readable : frame.Readable settings.protobuf)
    (placed : process.Placed thread frame) (keeps : process.Keeps thread next)
    (moves : Moves settings thread process label frame next after) :
    next.ReadsBack settings.protobuf ∧ after.Readable settings.protobuf := by
  have logged : ∀ {severity : AbslSeverity} {message : String},
      process.deliver severity message label.now = .ok next →
      next.ReadsBack settings.protobuf := by
    intro severity message delivered
    obtain ⟨written, grown, log⟩ := artifacts_deliver delivered
    refine reads.grow _ keeps grown (fun artifact member => ?_) fun artifact member => ?_
    · rw [log artifact member]
      exact ⟨_, rfl⟩
    · rw [log artifact member]
      exact underOwnStep_of_ofSeries fun _ => rfl
  cases moves with
  | log _ severity message _ delivered => exact ⟨logged delivered, readable⟩
  | call call _ _ _ begins =>
      have same := begins_sameRecord _ _ _ _ _ _ _ begins
      refine ⟨reads.grow [] keeps ?_ ?_ ?_, readable_of_begins undoes begins⟩
      · simp only [Process.artifacts, same.stream, List.append_nil]
      · exact fun _ member => by cases member
      · exact fun _ member => by cases member
  | run frame run request rest performed _ _ advances perform =>
      have grown := (perform_spec _ _ _ _ _ _ perform).2
      refine ⟨reads.grow _ keeps grown (TestRun.advances_readable undoes advances)
        (underOwnStep_of_toSeries fun seriesId => TestRun.toSeries_nil seriesId advances), ?_⟩
      cases rest <;> trivial
  | step ref frame step request rest performed _ _ advances perform =>
      have grown := (perform_spec _ _ _ _ _ _ perform).2
      obtain ⟨written, later⟩ := TestStep.advances_readable readable advances
      refine ⟨reads.grow _ keeps grown written
        (underOwnStep_of_toSeries fun seriesId => TestStep.toSeries_nil seriesId advances), ?_⟩
      cases rest with
      | next after => exact later after rfl
      | _ => trivial
  | series ref frame series request rest performed _ _ _ advances perform =>
      obtain ⟨same, grown⟩ := perform_spec _ _ _ _ _ _ perform
      obtain ⟨written, later⟩ := MeasurementSeries.advances_readable undoes readable advances
      refine ⟨reads.grow _ keeps grown (fun artifact member => ?_) fun artifact member => ?_, ?_⟩
      · obtain ⟨variant, rfl, converts, _⟩ := written artifact member
        exact readable_testStepArtifact converts _
      · obtain ⟨variant, rfl, _, named⟩ := written artifact member
        rintro proto seriesId ⟨⟩ other
        obtain rfl := Option.some.inj (named.symm.trans other)
        refine ⟨ref, ?_, rfl, ?_⟩
        · show ref < performed.run.measurementSeriesId.count
          rw [same.run]
          exact placed.1
        · simp only [setSeries, Function.update_self]
      · cases rest with
        | next after => exact later after rfl
        | _ => trivial
  | dying message _ delivered => exact ⟨logged delivered, trivial⟩
  | runDies | stepDies => exact ⟨reads, trivial⟩
  | aborting => exact ⟨reads, trivial⟩

end Process

/-- Along a run everything in the stream reads back, and everything on its way there. -/
structure StreamReadable (protobuf : Protobuf) (pool : Pool Process Frame) : Prop where
  held : MutexesHeld pool
  outline : Outline (Process.ReadsBack protobuf) (fun _ _ frame => frame.Readable protobuf) pool

theorem streamReadable_of_run (settings : Settings) (undoes : ParseUndoesPrint settings.protobuf)
    (testRunStart : TestRunStart) (labels : List (ThreadId × Label)) (final : Pool Process Frame)
    (reached : Runs.run (systemStep settings) (initialPool testRunStart) labels = some final) :
    StreamReadable settings.protobuf final := by
  refine Runs.run_preserves _ (StreamReadable settings.protobuf) ?_ _ final labels
    ⟨mutexesHeld_initial testRunStart, (fun _ member => by cases member), fun _ => trivial⟩ reached
  intro pool label next before stepped
  refine ⟨mutexesHeld_step settings pool next label before.held stepped,
    outline_of_moves (fun _ _ _ => True) before.held before.outline stepped ?_ ?_⟩
  · intro shared after moves
    obtain ⟨keeps, _, _⟩ :=
      Process.moves_keeps before.held.shared (before.held.threads label.1) moves
    obtain ⟨reads, readable⟩ := Process.moves_readsBack undoes before.outline.shared
      (before.outline.threads label.1) (before.held.threads label.1) keeps moves
    exact ⟨reads, readable, trivial⟩
  · exact fun _ _ _ _ _ _ readable => readable

theorem converts_of_readable {protobuf : Protobuf} {record : Pb.OutputArtifact}
    (readable : record.artifact.Readable protobuf) :
    ∃ artifact, OutputArtifact.protoToStruct protobuf record = .ok artifact := by
  obtain ⟨output, converted⟩ := readable
  refine ⟨⟨output, record.sequenceNumber, protobuf.timestampToTimeval record.timestamp⟩, ?_⟩
  simp only [OutputArtifact.protoToStruct, converted, Outcome.ok_bind, Outcome.pure_eq_ok]

/-- A conversion leaves the ids alone. -/
theorem TestStepVariant.seriesId?_protoToStruct {protobuf : Protobuf}
    {variant : Pb.TestStepVariant} {output : TestStepVariant}
    (converted : TestStepVariant.protoToStruct protobuf variant = .ok output) :
    output.seriesId? = variant.seriesId := by
  cases variant with
  | measurement proto =>
      simp only [protoToStruct, Outcome.bind_eq_ok, Outcome.pure_eq_ok, Outcome.ok.injEq]
        at converted
      obtain ⟨_, _, rfl⟩ := converted
      rfl
  | measurementSeriesStart proto =>
      simp only [protoToStruct, MeasurementSeriesStartOutput.protoToStruct, Outcome.bind_eq_ok,
        Outcome.pure_eq_ok, Outcome.ok.injEq] at converted
      obtain ⟨_, ⟨_, _, _, _, rfl⟩, rfl⟩ := converted
      rfl
  | measurementSeriesElement proto =>
      simp only [protoToStruct, MeasurementSeriesElementOutput.protoToStruct, Outcome.bind_eq_ok,
        Outcome.pure_eq_ok, Outcome.ok.injEq] at converted
      obtain ⟨_, ⟨_, _, _, _, rfl⟩, rfl⟩ := converted
      rfl
  | extension proto =>
      simp only [protoToStruct, Outcome.bind_eq_ok, Outcome.pure_eq_ok, Outcome.ok.injEq]
        at converted
      obtain ⟨_, _, rfl⟩ := converted
      rfl
  | notSet => cases converted
  | _ =>
      cases converted
      rfl

theorem stepArtifact?_protoToStruct {protobuf : Protobuf} {record : Pb.OutputArtifact}
    {artifact : OutputArtifact} {step : TestStepArtifact}
    (converted : OutputArtifact.protoToStruct protobuf record = .ok artifact)
    (isStep : artifact.stepArtifact? = some step) :
    ∃ proto, record.artifact = .testStepArtifact proto ∧ proto.testStepId = step.testStepId ∧
      TestStepVariant.protoToStruct protobuf proto.artifact = .ok step.artifact := by
  simp only [OutputArtifact.protoToStruct, Outcome.bind_eq_ok, Outcome.pure_eq_ok,
    Outcome.ok.injEq] at converted
  obtain ⟨output, decoded, rfl⟩ := converted
  cases content : record.artifact with
  | notSet =>
      rw [content] at decoded
      cases decoded
  | schemaVersion proto =>
      rw [content] at decoded
      cases decoded
      cases isStep
  | testRunArtifact proto =>
      simp only [content, OutputVariant.protoToStruct, Outcome.bind_eq_ok, Outcome.pure_eq_ok,
        Outcome.ok.injEq] at decoded
      obtain ⟨_, _, rfl⟩ := decoded
      cases isStep
  | testStepArtifact proto =>
      simp only [content, OutputVariant.protoToStruct, TestStepArtifact.protoToStruct,
        Outcome.bind_eq_ok, Outcome.pure_eq_ok, Outcome.ok.injEq] at decoded
      obtain ⟨_, ⟨variant, read, rfl⟩, rfl⟩ := decoded
      cases isStep
      exact ⟨proto, rfl, rfl, read⟩

/-- The stream of a program, converted, keeps each series under one step. -/
theorem seriesUnderOneStep_of_readsBack {protobuf : Protobuf} {process : Process}
    (reads : process.ReadsBack protobuf) {artifacts : List OutputArtifact}
    (iterated : ModelBuilder.Iterates protobuf process.log.written artifacts) :
    SeriesUnderOneStep (artifacts.filterMap (·.stepArtifact?)) := by
  have placed : ∀ step ∈ artifacts.filterMap (·.stepArtifact?), ∀ seriesId,
      step.artifact.seriesId? = some seriesId → ∃ ref, seriesId = strCat ref ∧
        step.testStepId = strCat (process.series ref).testStep := by
    intro step member seriesId named
    obtain ⟨artifact, inside, isStep⟩ := List.mem_filterMap.mp member
    obtain ⟨record, written, converted⟩ := Pointwise.mem_right iterated inside
    obtain ⟨proto, content, sameStep, read⟩ := stepArtifact?_protoToStruct converted isStep
    have inStream : .testStepArtifact proto ∈ process.artifacts := by
      obtain ⟨entry, entered, rfl⟩ := List.mem_map.mp written
      exact content ▸ List.mem_map_of_mem entered
    rw [TestStepVariant.seriesId?_protoToStruct read] at named
    obtain ⟨ref, _, names, under⟩ := (reads _ inStream).2 proto seriesId rfl named
    exact ⟨ref, names, sameStep ▸ under⟩
  intro first firstMember second secondMember seriesId ofFirst ofSecond
  obtain ⟨ref, names, under⟩ := placed first firstMember seriesId ofFirst
  obtain ⟨other, same, alsoUnder⟩ := placed second secondMember seriesId ofSecond
  obtain rfl := strCat_injective (names.symm.trans same)
  rw [under, alsoUnder]

/-- A receiver whose writer has been given the records. -/
theorem OutputReceiver.run_write (protobuf : Protobuf) (records : List Pb.OutputArtifact)
    (receiver : OutputReceiver) (created : receiver.writerCreated = true) :
    Runs.run (step protobuf) receiver (records.map .write) =
      some { receiver with container := receiver.container ++ records } := by
  induction records generalizing receiver with
  | nil => simp
  | cons record rest ih =>
      rw [List.map_cons, Runs.run_cons_eq_some]
      refine ⟨{ receiver with container := receiver.container ++ [record] }, if_pos created, ?_⟩
      rw [ih { receiver with container := receiver.container ++ [record] } created,
        List.append_assoc, List.singleton_append]

/-- What a receiver makes of the stream of a process. -/
structure Process.Rebuilds (protobuf : Protobuf) (process : Process)
    (artifacts : List OutputArtifact) (receiver : OutputReceiver) : Prop where
  iterated : ModelBuilder.Iterates protobuf process.log.written artifacts
  given : Runs.run (OutputReceiver.step protobuf) {}
    (.makeArtifactWriter :: process.log.written.map .write) = some receiver
  model : (·.1) <$> receiver.getOutputModel protobuf = .ok (.ofStream artifacts)

theorem Process.ReadsBack.rebuilds {protobuf : Protobuf} {process : Process}
    (reads : process.ReadsBack protobuf) :
    ∃ artifacts receiver, process.Rebuilds protobuf artifacts receiver := by
  obtain ⟨artifacts, iterated⟩ : ∃ artifacts,
      ModelBuilder.Iterates protobuf process.log.written artifacts := by
    refine Pointwise.exists_iff.mpr fun record written => converts_of_readable ?_
    obtain ⟨entry, entered, rfl⟩ := List.mem_map.mp written
    exact (reads _ (List.mem_map_of_mem entered)).1
  obtain ⟨builder, handled, builds⟩ := ModelBuilder.handleRecords_builds _ iterated [] {}
    ⟨rfl, rfl, ModelBuilder.builds_fresh _⟩
    (owned_of_single (seriesUnderOneStep_of_readsBack reads iterated))
  rw [List.nil_append] at builds
  refine ⟨artifacts, { container := process.log.written, writerCreated := true }, iterated, ?_, ?_⟩
  · rw [Runs.run_cons_eq_some]
    refine ⟨{ writerCreated := true }, rfl, ?_⟩
    rw [OutputReceiver.run_write _ _ _ rfl]
    rfl
  · rw [← builds.model_eq]
    simp only [OutputReceiver.getOutputModel, OutputReceiver.buildModel,
      OutputReceiver.getOutputContainer, check_true, Outcome.ok_bind, Outcome.pure_eq_ok, handled]
    rfl

/-- Whatever the threads of a test have done, an OutputReceiver that is given the stream so far
reads every record of it, and returns the model that the stream stands for. -/
theorem stream_rebuilt (settings : Settings) (undoes : ParseUndoesPrint settings.protobuf)
    (testRunStart : TestRunStart) (labels : List (ThreadId × Label)) (final : Pool Process Frame)
    (reached : Runs.run (systemStep settings) (initialPool testRunStart) labels = some final) :
    ∃ artifacts receiver, final.shared.Rebuilds settings.protobuf artifacts receiver :=
  (streamReadable_of_run settings undoes testRunStart labels final reached).outline.shared.rebuilds

theorem stream_rebuilt_sampleSeries :
    ∃ final artifacts receiver,
      Runs.run (systemStep sampleSettings) (initialPool sampleTestRunStart) sampleSeries =
        some final ∧
      final.shared.log.written.length = 5 ∧
      final.shared.Rebuilds sampleSettings.protobuf artifacts receiver := by
  obtain ⟨final, reached, written⟩ : ∃ final, Runs.run (systemStep sampleSettings)
      (initialPool sampleTestRunStart) sampleSeries = some final ∧
      final.shared.log.written.length = 5 := ⟨_, rfl, rfl⟩
  obtain ⟨artifacts, receiver, rebuilds⟩ :=
    stream_rebuilt sampleSettings sampleProtobuf_undoes sampleTestRunStart sampleSeries final
      reached
  exact ⟨final, artifacts, receiver, reached, written, rebuilds⟩

end OcpDiag.Results
