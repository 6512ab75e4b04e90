import OcpDiag.Results.Delivery
import OcpDiag.Results.ReadBack
import OcpDiag.Results.StepBracketing

set_option autoImplicit false

/- From the calls of a test to the model that a receiver returns. -/
namespace OcpDiag.Results

open ThreadPool

/-- The contents that the Add calls of a TestStep make, read back. -/
def TestStepVariant.addable : TestStepVariant → Bool
  | .measurement _ | .diagnosis _ | .error _ | .file _ | .log _ | .extension _ => true
  | _ => false

theorem TestStepVariant.addable_protoToStruct {protobuf : Protobuf} {variant : Pb.TestStepVariant}
    {output : TestStepVariant}
    (converted : TestStepVariant.protoToStruct protobuf variant = .ok output) :
    output.addable = variant.addable := by
  cases variant with
  | measurement proto | measurementSeriesStart proto | measurementSeriesElement proto
  | extension proto =>
      simp only [protoToStruct, Outcome.bind_eq_ok, Outcome.pure_eq_ok, Outcome.ok.injEq]
        at converted
      obtain ⟨_, _, rfl⟩ := converted
      rfl
  | notSet => cases converted
  | _ =>
      cases converted
      rfl

/-- Two models of a step hold the same of what Add calls make, in whatever order. -/
structure TestStepModel.SameAdded (first second : TestStepModel) : Prop where
  logs : first.logs.Perm second.logs
  errors : first.errors.Perm second.errors
  files : first.files.Perm second.files
  extensions : first.extensions.Perm second.extensions
  measurements : first.measurements.Perm second.measurements
  diagnoses : first.diagnoses.Perm second.diagnoses

theorem TestStepModel.sameAdded_of_perm {first second : List TestStepVariant} (testStepId : String)
    (same : (first.filter (·.addable)).Perm (second.filter (·.addable))) :
    (ofVariants testStepId first).SameAdded (ofVariants testStepId second) := by
  have kept : ∀ {α : Type} (select : TestStepVariant → Option α),
      (∀ variant, variant.addable = false → select variant = none) →
      (first.filterMap select).Perm (second.filterMap select) := by
    intro α select plain
    have onlyAdded : ∀ variants : List TestStepVariant,
        (variants.filter (·.addable)).filterMap select = variants.filterMap select := by
      intro variants
      rw [List.filterMap_filter]
      refine List.filterMap_congr fun variant _ => ?_
      cases added : variant.addable with
      | true => rfl
      | false => exact (plain variant added).symm
    rw [← onlyAdded first, ← onlyAdded second]
    exact same.filterMap select
  constructor <;> refine kept _ fun variant plain => ?_ <;>
    cases variant <;> first | rfl | cases plain

/-- A payload, as a step's own content read back. -/
def readOfStep (protobuf : Protobuf) (testStepId : String) (payload : Pb.OutputVariant) :
    Option TestStepVariant :=
  (payload.ofStep testStepId).bind fun variant =>
    (TestStepVariant.protoToStruct protobuf variant).toOption

/-- What the calls of a run reported to a step, as a receiver would read it. -/
def reported (settings : Settings) (labels : List (ThreadId × Label)) (ref : StepRef) :
    List TestStepVariant :=
  (submitted settings labels).filterMap (readOfStep settings.protobuf (strCat ref))

/-- What an artifact adds to the model of a step. -/
def OutputArtifact.addedTo (testStepId : String) (artifact : OutputArtifact) :
    Option TestStepVariant :=
  artifact.stepArtifact?.bind fun step =>
    if step.testStepId = testStepId ∧ step.artifact.addable = true then some step.artifact else none

theorem filter_variantsOf (artifacts : List OutputArtifact) (testStepId : String) :
    (variantsOf (artifacts.filterMap (·.stepArtifact?)) testStepId).filter (·.addable) =
      artifacts.filterMap (·.addedTo testStepId) := by
  induction artifacts with
  | nil => rfl
  | cons artifact rest ih =>
      unfold variantsOf at ih ⊢
      cases isStep : artifact.stepArtifact? with
      | none => simpa [isStep, OutputArtifact.addedTo] using ih
      | some step =>
          by_cases here : step.testStepId = testStepId
          · cases added : step.artifact.addable <;>
              simpa [isStep, OutputArtifact.addedTo, here, added] using ih
          · simpa [isStep, OutputArtifact.addedTo, here] using ih

/-- An element's payload is of no step, as the library draws its step id. -/
theorem readOfStep_unnumbered (protobuf : Protobuf) (ref : StepRef)
    (element : Pb.MeasurementSeriesElement) :
    readOfStep protobuf (strCat ref) element.unnumbered = none := by
  have named : "" ≠ strCat ref := (strCat_ne_empty ref).symm
  simp [readOfStep, Pb.MeasurementSeriesElement.unnumbered, Pb.OutputVariant.ofStep, named]

/-- A record adds to the model of a step what its payload reads back to. -/
theorem addedTo_protoToStruct {protobuf : Protobuf} {record : Pb.OutputArtifact}
    {artifact : OutputArtifact} (ref : StepRef)
    (converted : OutputArtifact.protoToStruct protobuf record = .ok artifact) :
    artifact.addedTo (strCat ref) =
      (record.artifact.payload.bind (readOfStep protobuf (strCat ref))).filter (·.addable) := by
  simp only [OutputArtifact.protoToStruct, Outcome.bind_eq_ok, Outcome.pure_eq_ok,
    Outcome.ok.injEq] at converted
  obtain ⟨output, decoded, rfl⟩ := converted
  cases content : record.artifact with
  | notSet =>
      rw [content] at decoded
      cases decoded
  | schemaVersion proto =>
      rw [content] at decoded
      cases decoded
      rfl
  | testRunArtifact proto =>
      simp only [content, OutputVariant.protoToStruct, Outcome.bind_eq_ok, Outcome.pure_eq_ok,
        Outcome.ok.injEq] at decoded
      obtain ⟨_, _, rfl⟩ := decoded
      cases proto <;> rfl
  | testStepArtifact proto =>
      obtain ⟨variant, testStepId⟩ := proto
      simp only [content, OutputVariant.protoToStruct, TestStepArtifact.protoToStruct,
        Outcome.bind_eq_ok, Outcome.pure_eq_ok, Outcome.ok.injEq] at decoded
      obtain ⟨_, ⟨read, decoding, rfl⟩, rfl⟩ := decoded
      have sort := TestStepVariant.addable_protoToStruct decoding
      cases variant with
      | measurementSeriesElement element =>
          simp only [Pb.OutputVariant.payload, Option.bind_some, readOfStep_unnumbered,
            Option.filter_none]
          simp [OutputArtifact.addedTo, OutputArtifact.stepArtifact?, sort,
            Pb.TestStepVariant.addable]
      | _ =>
          by_cases here : testStepId = strCat ref <;>
            simp [OutputArtifact.addedTo, OutputArtifact.stepArtifact?, sort,
              Pb.TestStepVariant.addable, Pb.OutputVariant.payload, readOfStep,
              Pb.OutputVariant.ofStep, here, decoding, Outcome.toOption, Option.filter_some]

/-- What is logged through Abseil is a log of the run. -/
theorem Process.writes_sink {settings : Settings} {thread : ThreadId} {process next : Process}
    {frame : Frame} {artifact : Pb.OutputVariant}
    (writes : Writes settings thread process frame next .sink artifact) :
    ∃ log, artifact = .testRunArtifact (.log log) := by
  cases writes with
  | sink _ _ severity message _ => exact ⟨_, rfl⟩

theorem sink_log_of_run (settings : Settings) (testRunStart : TestRunStart)
    (labels : List (ThreadId × Label)) (final : Pool Process Frame)
    (reached : Runs.run (systemStep settings) (initialPool testRunStart) labels = some final) :
    ∀ entry ∈ final.shared.stream, entry.1 = .sink →
      ∃ log, entry.2.artifact = .testRunArtifact (.log log) := by
  refine Runs.run_preserves (systemStep settings) (fun pool => ∀ entry ∈ pool.shared.stream,
    entry.1 = .sink → ∃ log, entry.2.artifact = .testRunArtifact (.log log)) ?_ _ final labels
    (fun _ member => by cases member) reached
  intro pool label next logs stepped entry member bySink
  obtain ⟨shared, frame, taken, rfl⟩ := (poolStep_eq_some _ pool next label).mp stepped
  rcases Process.moves_stream _ _ _ _ _ _ _ (Process.moves_of_exec _ _ _ _ _ _ _ taken) with
    ⟨same, _⟩ | ⟨origin, artifact, writes, grown, _⟩
  · exact logs entry (same ▸ member) bySink
  · rw [show shared.stream = _ from grown, List.mem_append, List.mem_singleton] at member
    rcases member with earlier | rfl
    · exact logs entry earlier bySink
    · obtain rfl : origin = .sink := bySink
      exact Process.writes_sink writes

/-- The contents that a stream adds to the model of a step, and those its payloads read back to,
are the same. -/
theorem added_eq_payloads {protobuf : Protobuf} {process : Process}
    {artifacts : List OutputArtifact} (ref : StepRef)
    (logs : ∀ entry ∈ process.stream, entry.1 = .sink →
      ∃ log, entry.2.artifact = .testRunArtifact (.log log))
    (iterated : ModelBuilder.Iterates protobuf process.log.written artifacts) :
    artifacts.filterMap (·.addedTo (strCat ref)) =
      (process.payloads.filterMap (readOfStep protobuf (strCat ref))).filter (·.addable) := by
  have byEntry : List.Forall₂ (fun entry artifact =>
      OutputArtifact.protoToStruct protobuf entry.2 = .ok artifact) process.stream artifacts :=
    List.forall₂_map_left_iff.mp iterated
  rw [Process.payloads, List.filterMap_filterMap, ← List.filterMap_eq_filter,
    List.filterMap_filterMap]
  refine Pointwise.filterMap_eq byEntry _ _ fun entry member artifact converted => ?_
  rw [addedTo_protoToStruct ref converted, Option.bind_guard]
  by_cases bySink : entry.1 = .sink
  · obtain ⟨log, isLog⟩ := logs entry member bySink
    rw [isLog, if_pos bySink]
    rfl
  · rw [if_neg bySink]

theorem payload_cases {artifact payload : Pb.OutputVariant}
    (holds : artifact.payload = some payload) :
    (∃ run, payload = .testRunArtifact run) ∨ (∃ element, payload =
      Pb.MeasurementSeriesElement.unnumbered element) ∨
    ∃ variant testStepId, payload = .testStepArtifact ⟨variant, testStepId⟩ ∧
      variant.addable = true := by
  unfold Pb.OutputVariant.payload at holds
  split at holds
  · exact Or.inl ⟨_, (Option.some.inj holds).symm⟩
  · exact Or.inl ⟨_, (Option.some.inj holds).symm⟩
  · exact Or.inr (Or.inl ⟨_, (Option.some.inj holds).symm⟩)
  · rename_i variant testStepId _
    obtain ⟨added, same⟩ := Option.ite_none_right_eq_some.mp holds
    exact Or.inr (Or.inr ⟨variant, testStepId, (Option.some.inj same).symm, added⟩)
  · cases holds

/-- What a step's payloads read back to is what Add calls make. -/
theorem addable_of_payloads {protobuf : Protobuf} {process : Process} {ref : StepRef}
    {variant : TestStepVariant}
    (member : variant ∈ process.payloads.filterMap (readOfStep protobuf (strCat ref))) :
    variant.addable = true := by
  obtain ⟨payload, held, read⟩ := List.mem_filterMap.mp member
  obtain ⟨entry, _, holds⟩ := List.mem_filterMap.mp held
  rcases payload_cases (Option.ite_none_left_eq_some.mp holds).2 with
    ⟨run, rfl⟩ | ⟨element, rfl⟩ | ⟨content, testStepId, rfl, added⟩
  · cases read
  · rw [readOfStep_unnumbered] at read
    cases read
  · simp only [readOfStep, Pb.OutputVariant.ofStep] at read
    split at read
    · rw [Option.bind_some, Outcome.toOption_eq_some] at read
      rw [TestStepVariant.addable_protoToStruct read, added]
    · cases read

/-- Once no call is under way, the model that a receiver returns for the stream holds, under each
step, what the calls of that step reported, once each and nothing else. -/
theorem reports_reach_model (settings : Settings) (undoes : ParseUndoesPrint settings.protobuf)
    (testRunStart : TestRunStart) (labels : List (ThreadId × Label)) (final : Pool Process Frame)
    (reached : Runs.run (systemStep settings) (initialPool testRunStart) labels = some final)
    (atRest : ∀ thread, final.frames thread = .idle) :
    ∃ receiver model,
      Runs.run (OutputReceiver.step settings.protobuf) {}
        (.makeArtifactWriter :: final.shared.log.written.map .write) = some receiver ∧
      (·.1) <$> receiver.getOutputModel settings.protobuf = .ok model ∧
      (∀ ref, ∀ step ∈ model.testSteps, step.testStepId = strCat ref →
        step.SameAdded (.ofVariants (strCat ref) (reported settings labels ref))) ∧
      ∀ ref, ∀ variant ∈ reported settings labels ref,
        ∃ step ∈ model.testSteps, step.testStepId = strCat ref := by
  have reads :=
    (streamReadable_of_run settings undoes testRunStart labels final reached).outline.shared
  obtain ⟨artifacts, receiver, rebuilds⟩ := reads.rebuilds
  have logs := sink_log_of_run settings testRunStart labels final reached
  have delivers := delivers_of_run settings testRunStart labels final reached
  have delivered := payloads_of_rest delivers atRest
  have added : ∀ ref, ((variantsOf (artifacts.filterMap (·.stepArtifact?)) (strCat ref)).filter
      (·.addable)).Perm ((reported settings labels ref).filter (·.addable)) := by
    intro ref
    rw [filter_variantsOf, added_eq_payloads ref logs rebuilds.iterated]
    exact (delivered.filterMap _).filter _
  refine ⟨receiver, _, rebuilds.given, rebuilds.model, fun ref step member named => ?_,
    fun ref variant member => ?_⟩
  · obtain ⟨testStepId, _, rfl⟩ := List.mem_map.mp member
    obtain rfl : testStepId = strCat ref := named
    exact TestStepModel.sameAdded_of_perm _ (added ref)
  · have here : variant ∈ (reported settings labels ref).filter (·.addable) :=
      List.mem_filter.mpr ⟨member, addable_of_payloads ((delivered.filterMap _).mem_iff.mpr member)⟩
    have inModel := (List.mem_filter.mp ((added ref).mem_iff.mpr here)).1
    obtain ⟨step, ofRef, _⟩ := List.mem_map.mp inModel
    obtain ⟨written, named⟩ := List.mem_filter.mp ofRef
    refine ⟨_, List.mem_map_of_mem (List.mem_eraseDups.mpr (List.mem_map_of_mem written)), ?_⟩
    exact beq_iff_eq.mp named

theorem reports_reach_model_crossingLabels :
    ∃ receiver model, (·.1) <$> OutputReceiver.getOutputModel sampleProtobuf receiver = .ok model ∧
      ∃ step ∈ model.testSteps, step.testStepId = strCat 0 ∧
        step.errors.Perm [{ symptom := "stalled", message := "", softwareInfoIds := [] }] := by
  obtain ⟨final, reached, _, atRest⟩ := crossingLabels_atRest
  obtain ⟨receiver, model, _, built, same, stands⟩ := reports_reach_model sampleSettings
    sampleProtobuf_undoes sampleTestRunStart crossingLabels final reached atRest
  have told : reported sampleSettings crossingLabels 0 =
      [.error { symptom := "stalled", message := "", softwareInfoIds := [] }] := rfl
  obtain ⟨step, member, named⟩ := stands 0 _ (told ▸ List.mem_singleton_self _)
  refine ⟨receiver, model, built, step, member, named, ?_⟩
  have errors := (same 0 step member named).errors
  rwa [told] at errors

end OcpDiag.Results
