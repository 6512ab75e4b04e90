import OcpDiag.Lib.Partition
import OcpDiag.Results.ReportedModel
import OcpDiag.Results.SeriesTickets

set_option autoImplicit false

/- From the AddElement calls of a test to the series of the model that a receiver returns. -/
namespace OcpDiag.Results

open ThreadPool

def TestStepVariant.element? : TestStepVariant → Option MeasurementSeriesElementOutput
  | .measurementSeriesElement element => some element
  | _ => none

/-- An element without its number. -/
def MeasurementSeriesElementOutput.unindexed (element : MeasurementSeriesElementOutput) :
    MeasurementSeriesElementOutput := { element with index := 0 }

/-- The elements of all series of all steps. -/
def OutputModel.elements (model : OutputModel) : List MeasurementSeriesElementOutput :=
  model.testSteps.flatMap fun step => step.measurementSeries.flatMap (·.elements)

/-- A payload, as an element read back. -/
def readElement (protobuf : Protobuf) (payload : Pb.OutputVariant) :
    Option MeasurementSeriesElementOutput :=
  match payload with
  | .testStepArtifact ⟨.measurementSeriesElement element, _⟩ =>
      (MeasurementSeriesElementOutput.protoToStruct protobuf element).toOption
  | _ => none

/-- What the AddElement calls of a run handed over, as a receiver would read it. -/
def reportedElements (settings : Settings) (labels : List (ThreadId × Label)) :
    List MeasurementSeriesElementOutput :=
  (submitted settings labels).filterMap (readElement settings.protobuf)

theorem seriesGroup_elements (variants : List TestStepVariant) (seriesId : String) :
    (seriesGroup variants seriesId).elements =
      (variants.filter fun variant => variant.seriesId? == some seriesId).filterMap
        (·.element?) := by
  refine List.filterMap_congr fun variant _ => ?_
  cases variant <;> rfl

theorem step_elements (testStepId : String) (variants : List TestStepVariant) :
    ((TestStepModel.ofVariants testStepId variants).measurementSeries.flatMap (·.elements)).Perm
      (variants.filterMap (·.element?)) := by
  have grouped := Partition.filterMap_groups_perm (fun variant => variant.seriesId?)
    TestStepVariant.element? variants fun variant has => by
      cases variant <;> first | rfl | cases has
  simp only [TestStepModel.ofVariants, List.flatMap_map, seriesGroup_elements]
  exact grouped

/-- The model has the elements of the stream. -/
theorem ofStream_elements (artifacts : List OutputArtifact) :
    (OutputModel.ofStream artifacts).elements.Perm
      (artifacts.filterMap fun artifact => artifact.stepArtifact?.bind (·.artifact.element?)) := by
  let steps := artifacts.filterMap (·.stepArtifact?)
  have grouped := Partition.filterMap_groups_perm
    (fun step : TestStepArtifact => some step.testStepId)
    (fun step => step.artifact.element?) steps fun _ _ => rfl
  have variants : ∀ testStepId, (variantsOf steps testStepId).filterMap (·.element?) =
      (steps.filter fun step => some step.testStepId == some testStepId).filterMap
        (·.artifact.element?) := by
    intro testStepId
    rw [variantsOf, List.filterMap_map]
    rfl
  have ids : steps.filterMap (fun step => some step.testStepId) = steps.map (·.testStepId) :=
    congrFun List.filterMap_eq_map steps
  rw [ids] at grouped
  unfold OutputModel.elements OutputModel.ofStream
  simp only [List.flatMap_map]
  rw [← List.filterMap_filterMap]
  refine List.Perm.trans (List.Perm.flatMap_left _ fun testStepId _ => ?_) grouped
  rw [← variants]
  exact step_elements testStepId _

theorem readElement_unnumbered (protobuf : Protobuf) (element : Pb.MeasurementSeriesElement) :
    readElement protobuf element.unnumbered =
      (MeasurementSeriesElementOutput.protoToStruct protobuf element).toOption.map
        (·.unindexed) := by
  simp only [readElement, Pb.MeasurementSeriesElement.unnumbered,
    MeasurementSeriesElementOutput.protoToStruct]
  cases protoToVariant element.value with
  | ok value => cases protoToJsonOrDie protobuf element.metadata <;> rfl
  | die message => rfl
  | undefined => rfl

theorem element?_other {protobuf : Protobuf} {variant : Pb.TestStepVariant}
    {output : TestStepVariant}
    (converted : TestStepVariant.protoToStruct protobuf variant = .ok output)
    (other : ∀ element, variant ≠ .measurementSeriesElement element) : output.element? = none := by
  cases variant with
  | measurementSeriesElement proto => exact absurd rfl (other proto)
  | measurement proto | measurementSeriesStart proto | extension proto =>
      simp only [TestStepVariant.protoToStruct, Outcome.bind_eq_ok, Outcome.pure_eq_ok,
        Outcome.ok.injEq] at converted
      obtain ⟨_, _, rfl⟩ := converted
      rfl
  | notSet => cases converted
  | _ =>
      cases converted
      rfl

/-- A record gives the element that its payload reads back to. -/
theorem element_protoToStruct {protobuf : Protobuf} {record : Pb.OutputArtifact}
    {artifact : OutputArtifact}
    (converted : OutputArtifact.protoToStruct protobuf record = .ok artifact) :
    (artifact.stepArtifact?.bind (·.artifact.element?)).map (·.unindexed) =
      record.artifact.payload.bind (readElement protobuf) := by
  simp only [OutputArtifact.protoToStruct, Outcome.bind_eq_ok, Outcome.pure_eq_ok,
    Outcome.ok.injEq] at converted
  obtain ⟨output, decoded, rfl⟩ := converted
  cases content : record.artifact with
  | notSet =>
      rw [content] at decoded
      cases decoded
  | schemaVersion proto =>
      rw [content] at decoded
      cases decoded
      rfl
  | testRunArtifact proto =>
      simp only [content, OutputVariant.protoToStruct, Outcome.bind_eq_ok, Outcome.pure_eq_ok,
        Outcome.ok.injEq] at decoded
      obtain ⟨_, _, rfl⟩ := decoded
      cases proto <;> rfl
  | testStepArtifact proto =>
      obtain ⟨variant, testStepId⟩ := proto
      simp only [content, OutputVariant.protoToStruct, TestStepArtifact.protoToStruct,
        Outcome.bind_eq_ok, Outcome.pure_eq_ok, Outcome.ok.injEq] at decoded
      obtain ⟨_, ⟨read, decoding, rfl⟩, rfl⟩ := decoded
      cases variant with
      | measurementSeriesElement element =>
          simp only [TestStepVariant.protoToStruct, Outcome.bind_eq_ok, Outcome.pure_eq_ok,
            Outcome.ok.injEq] at decoding
          obtain ⟨output, decoding, rfl⟩ := decoding
          simp only [Pb.OutputVariant.payload, Option.bind_some, readElement_unnumbered, decoding]
          rfl
      | _ =>
          have nothing := element?_other decoding (by rintro _ ⟨⟩)
          simp [OutputArtifact.stepArtifact?, nothing, Pb.OutputVariant.payload,
            Pb.TestStepVariant.addable, readElement]

theorem elements_eq_payloads {protobuf : Protobuf} {process : Process}
    {artifacts : List OutputArtifact}
    (logs : ∀ entry ∈ process.stream, entry.1 = .sink →
      ∃ log, entry.2.artifact = .testRunArtifact (.log log))
    (iterated : ModelBuilder.Iterates protobuf process.log.written artifacts) :
    (artifacts.filterMap fun artifact => artifact.stepArtifact?.bind (·.artifact.element?)).map
        (·.unindexed) =
      process.payloads.filterMap (readElement protobuf) := by
  have byEntry : List.Forall₂ (fun entry artifact =>
      OutputArtifact.protoToStruct protobuf entry.2 = .ok artifact) process.stream artifacts :=
    List.forall₂_map_left_iff.mp iterated
  rw [Process.payloads, List.filterMap_filterMap, List.map_filterMap]
  refine Pointwise.filterMap_eq byEntry _ _ fun entry member artifact converted => ?_
  rw [element_protoToStruct converted]
  by_cases bySink : entry.1 = .sink
  · obtain ⟨log, isLog⟩ := logs entry member bySink
    rw [isLog, if_pos bySink]
    rfl
  · rw [if_neg bySink]

/-- The content of an artifact that carries the series id. -/
def OutputArtifact.ofSeries (seriesId : String) (artifact : OutputArtifact) :
    Option TestStepVariant :=
  artifact.stepArtifact?.bind fun step =>
    if step.artifact.seriesId? = some seriesId then some step.artifact else none

def Decodes (protobuf : Protobuf) (proto : Pb.TestStepVariant) (variant : TestStepVariant) : Prop :=
  TestStepVariant.protoToStruct protobuf proto = .ok variant

theorem ofSeries_protoToStruct {protobuf : Protobuf} {record : Pb.OutputArtifact}
    {artifact : OutputArtifact} (seriesId : String)
    (converted : OutputArtifact.protoToStruct protobuf record = .ok artifact) :
    Option.Rel (Decodes protobuf) (record.artifact.ofSeries seriesId)
      (artifact.ofSeries seriesId) := by
  simp only [OutputArtifact.protoToStruct, Outcome.bind_eq_ok, Outcome.pure_eq_ok,
    Outcome.ok.injEq] at converted
  obtain ⟨output, decoded, rfl⟩ := converted
  cases content : record.artifact with
  | notSet =>
      rw [content] at decoded
      cases decoded
  | schemaVersion proto =>
      rw [content] at decoded
      cases decoded
      exact .none
  | testRunArtifact proto =>
      simp only [content, OutputVariant.protoToStruct, Outcome.bind_eq_ok, Outcome.pure_eq_ok,
        Outcome.ok.injEq] at decoded
      obtain ⟨_, _, rfl⟩ := decoded
      exact .none
  | testStepArtifact proto =>
      simp only [content, OutputVariant.protoToStruct, TestStepArtifact.protoToStruct,
        Outcome.bind_eq_ok, Outcome.pure_eq_ok, Outcome.ok.injEq] at decoded
      obtain ⟨_, ⟨variant, read, rfl⟩, rfl⟩ := decoded
      simp only [Pb.OutputVariant.ofSeries, OutputArtifact.ofSeries, OutputArtifact.stepArtifact?,
        Option.bind_some, TestStepVariant.seriesId?_protoToStruct read]
      split
      · exact .some read
      · exact .none

/-- The artifacts of a series, converted. -/
theorem seriesArtifacts_decode {protobuf : Protobuf} {process : Process}
    {artifacts : List OutputArtifact} (seriesId : String)
    (iterated : ModelBuilder.Iterates protobuf process.log.written artifacts) :
    List.Forall₂ (Decodes protobuf) (process.seriesArtifacts seriesId)
      (artifacts.filterMap (·.ofSeries seriesId)) := by
  have written : process.seriesArtifacts seriesId =
      process.log.written.filterMap fun record => record.artifact.ofSeries seriesId := by
    simp only [Process.seriesArtifacts, Process.artifacts, Process.log, List.filterMap_map]
    rfl
  rw [written]
  exact List.rel_filterMap (fun _ _ converted => ofSeries_protoToStruct seriesId converted)
    iterated

/-- A series of the model has all artifacts of its id. -/
theorem seriesGroup_variantsOf {artifacts : List OutputArtifact} {testStepId seriesId : String}
    (single : SeriesUnderOneStep (artifacts.filterMap (·.stepArtifact?)))
    (present : seriesId ∈ seriesIds
      (variantsOf (artifacts.filterMap (·.stepArtifact?)) testStepId)) :
    seriesGroup (variantsOf (artifacts.filterMap (·.stepArtifact?)) testStepId) seriesId =
      .ofVariants (artifacts.filterMap (·.ofSeries seriesId)) := by
  obtain ⟨variant, ofStep, named⟩ := List.mem_filterMap.mp present
  obtain ⟨own, inStep, rfl⟩ := List.mem_map.mp ofStep
  obtain ⟨isStep, here⟩ := List.mem_filter.mp inStep
  obtain rfl : own.testStepId = testStepId := beq_iff_eq.mp here
  have flat : artifacts.filterMap (·.ofSeries seriesId) =
      (artifacts.filterMap (·.stepArtifact?)).filterMap fun step =>
        if step.artifact.seriesId? = some seriesId then some step.artifact else none := by
    rw [List.filterMap_filterMap]
    rfl
  rw [flat]
  unfold seriesGroup variantsOf
  rw [← List.filterMap_eq_filter, ← List.filterMap_eq_map, ← List.filterMap_eq_filter,
    List.filterMap_filterMap, List.filterMap_filterMap]
  congr 1
  refine List.filterMap_congr fun step member => ?_
  by_cases ofSeries : step.artifact.seriesId? = some seriesId
  · have sameStep := single step member own isStep seriesId ofSeries named
    simp [Option.guard, sameStep, ofSeries]
  · by_cases elsewhere : step.testStepId = own.testStepId <;>
      simp [Option.guard, elsewhere, ofSeries]

/-- The stream has the end of the series among its artifacts. -/
def Ended (written : List Pb.TestStepVariant) : Prop :=
  ∃ seriesEnd, .measurementSeriesEnd seriesEnd ∈ written

/-- A series whose elements count from 0 up to the total, in some order. Its end is unset exactly if
the artifacts written for it have none. -/
structure MeasurementSeriesModel.Counted (series : MeasurementSeriesModel) (seriesId : String)
    (written : List Pb.TestStepVariant) : Prop where
  start : series.start.measurementSeriesId = seriesId
  elements : ∀ element ∈ series.elements, element.measurementSeriesId = seriesId
  numbers : (series.elements.map (·.index)).Perm
    ((List.range series.elements.length).map fun position : Nat => (position : Int))
  seriesEnd : Ended written ∧ series.seriesEnd = ⟨seriesId, series.elements.length⟩ ∨
    ¬ Ended written ∧ series.seriesEnd = {}

theorem element_decodes {protobuf : Protobuf} {element : Pb.MeasurementSeriesElement}
    {variant : TestStepVariant}
    (decodes : Decodes protobuf (.measurementSeriesElement element) variant) :
    ∃ output, variant = .measurementSeriesElement output ∧ output.index = element.index := by
  simp only [Decodes, TestStepVariant.protoToStruct, MeasurementSeriesElementOutput.protoToStruct,
    Outcome.bind_eq_ok, Outcome.pure_eq_ok, Outcome.ok.injEq] at decodes
  obtain ⟨_, ⟨_, _, _, _, rfl⟩, rfl⟩ := decodes
  exact ⟨_, rfl, rfl⟩

theorem start_decodes {protobuf : Protobuf} {start : Pb.MeasurementSeriesStart}
    {variant : TestStepVariant}
    (decodes : Decodes protobuf (.measurementSeriesStart start) variant) :
    ∃ output, variant = .measurementSeriesStart output := by
  simp only [Decodes, TestStepVariant.protoToStruct, Outcome.bind_eq_ok, Outcome.pure_eq_ok,
    Outcome.ok.injEq] at decodes
  obtain ⟨_, _, rfl⟩ := decodes
  exact ⟨_, rfl⟩

theorem elements_decode {protobuf : Protobuf} {elements : List Pb.MeasurementSeriesElement}
    {tail : List Pb.TestStepVariant} {variants : List TestStepVariant}
    (decode : List.Forall₂ (Decodes protobuf) (elements.map .measurementSeriesElement ++ tail)
      variants) :
    ∃ (outputs : List MeasurementSeriesElementOutput) (others : List TestStepVariant),
      variants = outputs.map .measurementSeriesElement ++ others ∧
      outputs.map (·.index) = elements.map (·.index) ∧
      List.Forall₂ (Decodes protobuf) tail others := by
  induction elements generalizing variants with
  | nil => exact ⟨[], variants, rfl, rfl, decode⟩
  | cons element rest ih =>
      obtain ⟨variant, later, here, decodeRest, rfl⟩ := List.forall₂_cons_left_iff.mp decode
      obtain ⟨output, rfl, index⟩ := element_decodes here
      obtain ⟨outputs, others, rfl, indices, decodeTail⟩ := ih decodeRest
      exact ⟨output :: outputs, others, rfl,
        by rw [List.map_cons, List.map_cons, index, indices], decodeTail⟩

theorem ofVariants_series (start : MeasurementSeriesStartOutput)
    (elements : List MeasurementSeriesElementOutput) (ends : List MeasurementSeriesEndOutput) :
    MeasurementSeriesModel.ofVariants (.measurementSeriesStart start ::
        (elements.map .measurementSeriesElement ++ ends.map .measurementSeriesEnd)) =
      { start, elements, seriesEnd := ends.getLastD {} } := by
  simp [MeasurementSeriesModel.ofVariants, List.filterMap_append, List.filterMap_map]

theorem ended_series (start : Pb.MeasurementSeriesStart)
    (elements : List Pb.MeasurementSeriesElement) (ends : List Pb.MeasurementSeriesEnd) :
    Ended (.measurementSeriesStart start ::
        (elements.map .measurementSeriesElement ++ ends.map .measurementSeriesEnd)) ↔
      ends ≠ [] := by
  cases ends <;> simp [Ended]

theorem counted_of_complete {protobuf : Protobuf} {seriesId : String}
    {trace : List Pb.TestStepVariant} {variants : List TestStepVariant}
    (complete : Complete seriesId trace) (decode : List.Forall₂ (Decodes protobuf) trace variants)
    (mine : ∀ variant ∈ variants, variant.seriesId? = some seriesId) :
    (MeasurementSeriesModel.ofVariants variants).Counted seriesId trace := by
  obtain ⟨start, elements, numbers, shape⟩ := complete
  obtain ⟨ends, same, total⟩ : ∃ ends : List Pb.MeasurementSeriesEnd,
      trace = .measurementSeriesStart start ::
        (elements.map .measurementSeriesElement ++ ends.map .measurementSeriesEnd) ∧
      (ends = [] ∨ ends = [⟨seriesId, elements.length⟩]) := by
    rcases shape with rfl | rfl
    · exact ⟨[], by rw [List.map_nil, List.append_nil], Or.inl rfl⟩
    · exact ⟨_, rfl, Or.inr rfl⟩
  subst same
  obtain ⟨first, later, here, decodeRest, rfl⟩ := List.forall₂_cons_left_iff.mp decode
  obtain ⟨startOutput, rfl⟩ := start_decodes here
  obtain ⟨outputs, others, rfl, indices, decodeEnds⟩ := elements_decode decodeRest
  have length : outputs.length = elements.length := by
    have lengths := congrArg List.length indices
    simpa only [List.length_map] using lengths
  obtain ⟨endOutputs, rfl, totals⟩ : ∃ endOutputs : List MeasurementSeriesEndOutput,
      others = endOutputs.map .measurementSeriesEnd ∧
      (ends ≠ [] ∧ endOutputs = [⟨seriesId, elements.length⟩] ∨ ends = [] ∧ endOutputs = []) := by
    rcases total with rfl | rfl
    · exact ⟨[], List.forall₂_nil_left_iff.mp decodeEnds, Or.inr ⟨rfl, rfl⟩⟩
    · obtain ⟨last, absent, ofEnd, nothing, rfl⟩ := List.forall₂_cons_left_iff.mp decodeEnds
      obtain rfl := List.forall₂_nil_left_iff.mp nothing
      cases ofEnd
      exact ⟨_, rfl, Or.inl ⟨List.cons_ne_nil _ _, rfl⟩⟩
  rw [ofVariants_series]
  refine ⟨?_, fun element member => ?_, ?_, ?_⟩
  · exact Option.some.inj (mine (.measurementSeriesStart startOutput) List.mem_cons_self)
  · refine Option.some.inj (mine (.measurementSeriesElement element) ?_)
    exact List.mem_cons_of_mem _ (List.mem_append_left _ (List.mem_map_of_mem member))
  · simpa only [indices, length] using numbers
  · rw [ended_series]
    rcases totals with ⟨ended, rfl⟩ | ⟨unended, rfl⟩
    · exact Or.inl ⟨ended, by rw [length]; rfl⟩
    · exact Or.inr ⟨not_not_intro unended, rfl⟩

/-- The series of the model, when every series of the stream is complete. -/
theorem series_counted {protobuf : Protobuf} {process : Process}
    {artifacts : List OutputArtifact}
    (iterated : ModelBuilder.Iterates protobuf process.log.written artifacts)
    (single : SeriesUnderOneStep (artifacts.filterMap (·.stepArtifact?)))
    (complete : ∀ seriesId, process.seriesArtifacts seriesId = [] ∨
      Complete seriesId (process.seriesArtifacts seriesId))
    {step : TestStepModel} (isStep : step ∈ (OutputModel.ofStream artifacts).testSteps)
    {series : MeasurementSeriesModel} (isSeries : series ∈ step.measurementSeries) :
    ∃ seriesId, series.Counted seriesId (process.seriesArtifacts seriesId) := by
  obtain ⟨testStepId, _, rfl⟩ := List.mem_map.mp isStep
  obtain ⟨seriesId, present, rfl⟩ := List.mem_map.mp isSeries
  have decode := seriesArtifacts_decode seriesId iterated
  refine ⟨seriesId, ?_⟩
  rw [seriesGroup_variantsOf single (List.mem_eraseDups.mp present)]
  refine counted_of_complete ((complete seriesId).resolve_left fun nothing => ?_) decode
    fun variant member => ?_
  · -- the series is in the model, so that something of it is in the stream
    rw [nothing, List.forall₂_nil_left_iff] at decode
    obtain ⟨variant, ofStep, named⟩ := List.mem_filterMap.mp (List.mem_eraseDups.mp present)
    obtain ⟨own, inStep, rfl⟩ := List.mem_map.mp ofStep
    obtain ⟨artifact, inside, isOwn⟩ := List.mem_filterMap.mp (List.mem_filter.mp inStep).1
    have found : own.artifact ∈ artifacts.filterMap (·.ofSeries seriesId) := by
      refine List.mem_filterMap.mpr ⟨artifact, inside, ?_⟩
      rw [OutputArtifact.ofSeries, isOwn, Option.bind_some, if_pos named]
    rw [decode] at found
    cases found
  · obtain ⟨artifact, _, isVariant⟩ := List.mem_filterMap.mp member
    obtain ⟨own, _, taken⟩ := Option.bind_eq_some_iff.mp isVariant
    obtain ⟨named, same⟩ := Option.ite_none_right_eq_some.mp taken
    exact Option.some.inj same ▸ named

/-- Once no call is under way, the model that a receiver returns for the stream has the elements
that the calls handed over, once each and nothing else, and each of its series counts them from 0 up
to the total count, in whatever order they were written, with an end if one was written for it. -/
theorem elements_reach_model (settings : Settings) (undoes : ParseUndoesPrint settings.protobuf)
    (testRunStart : TestRunStart) (labels : List (ThreadId × Label)) (final : Pool Process Frame)
    (reached : Runs.run (systemStep settings) (initialPool testRunStart) labels = some final)
    (atRest : ∀ thread, final.frames thread = .idle) :
    ∃ receiver model,
      Runs.run (OutputReceiver.step settings.protobuf) {}
        (.makeArtifactWriter :: final.shared.log.written.map .write) = some receiver ∧
      (·.1) <$> receiver.getOutputModel settings.protobuf = .ok model ∧
      (model.elements.map (·.unindexed)).Perm (reportedElements settings labels) ∧
      ∀ step ∈ model.testSteps, ∀ series ∈ step.measurementSeries,
        ∃ seriesId, series.Counted seriesId (final.shared.seriesArtifacts seriesId) := by
  have reads :=
    (streamReadable_of_run settings undoes testRunStart labels final reached).outline.shared
  obtain ⟨artifacts, receiver, rebuilds⟩ := reads.rebuilds
  have logs := sink_log_of_run settings testRunStart labels final reached
  have delivered :=
    payloads_of_rest (delivers_of_run settings testRunStart labels final reached) atRest
  refine ⟨receiver, _, rebuilds.given, rebuilds.model, ?_, fun step isStep series isSeries => ?_⟩
  · refine ((ofStream_elements artifacts).map _).trans ?_
    rw [elements_eq_payloads logs rebuilds.iterated]
    exact delivered.filterMap _
  · exact series_counted rebuilds.iterated
      (seriesUnderOneStep_of_readsBack reads rebuilds.iterated)
      (fun seriesId => complete_of_rest settings testRunStart labels final reached atRest seriesId)
      isStep isSeries

theorem elements_reach_model_overtakingSeries :
    ∃ final receiver model, Runs.run (systemStep sampleSettings) (initialPool sampleTestRunStart)
        overtakingSeries = some final ∧
      (·.1) <$> OutputReceiver.getOutputModel sampleProtobuf receiver = .ok model ∧
      (model.elements.map (·.value)).Perm [.bool true, .bool false, .bool true] ∧
      ∀ step ∈ model.testSteps, ∀ series ∈ step.measurementSeries,
        ∃ seriesId, series.Counted seriesId (final.shared.seriesArtifacts seriesId) := by
  obtain ⟨final, reached, _, atRest⟩ := overtakingSeries_atRest
  obtain ⟨receiver, model, _, built, elements, counted⟩ := elements_reach_model sampleSettings
    sampleProtobuf_undoes sampleTestRunStart overtakingSeries final reached atRest
  refine ⟨final, receiver, model, reached, built, ?_, counted⟩
  have told : (reportedElements sampleSettings overtakingSeries).map (·.value) =
      [.bool true, .bool false, .bool true] := rfl
  have values := elements.map (·.value)
  rwa [told, List.map_map] at values

end OcpDiag.Results
