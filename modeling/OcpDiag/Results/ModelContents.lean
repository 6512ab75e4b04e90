import OcpDiag.Lib.Grouping
import OcpDiag.Results.ModelRebuild

set_option autoImplicit false

/- What BuildModel() makes of a stream: the artifacts grouped by test step and by series, with
no trace of the indices. -/
namespace OcpDiag.Results

open Grouping

/-- A series' share of the artifacts of a step. -/
def MeasurementSeriesModel.ofVariants (variants : List TestStepVariant) :
    MeasurementSeriesModel where
  start := (variants.filterMap fun
    | .measurementSeriesStart start => some start
    | _ => none).getLastD {}
  seriesEnd := (variants.filterMap fun
    | .measurementSeriesEnd seriesEnd => some seriesEnd
    | _ => none).getLastD {}
  elements := variants.filterMap fun
    | .measurementSeriesElement element => some element
    | _ => none

/-- The series ids in the artifacts of a step. -/
def seriesIds (variants : List TestStepVariant) : List String :=
  variants.filterMap (·.seriesId?)

def seriesGroup (variants : List TestStepVariant) (seriesId : String) : MeasurementSeriesModel :=
  .ofVariants (variants.filter (·.seriesId? == some seriesId))

def TestStepModel.ofVariants (testStepId : String) (variants : List TestStepVariant) :
    TestStepModel where
  testStepId := testStepId
  start := (variants.filterMap fun
    | .testStepStart start => some start
    | _ => none).getLastD {}
  stepEnd := (variants.filterMap fun
    | .testStepEnd stepEnd => some stepEnd
    | _ => none).getLastD {}
  logs := variants.filterMap fun
    | .log log => some log
    | _ => none
  errors := variants.filterMap fun
    | .error error => some error
    | _ => none
  files := variants.filterMap fun
    | .file file => some file
    | _ => none
  extensions := variants.filterMap fun
    | .extension extension => some extension
    | _ => none
  measurementSeries := (seriesIds variants).eraseDups.map (seriesGroup variants)
  measurements := variants.filterMap fun
    | .measurement measurement => some measurement
    | _ => none
  diagnoses := variants.filterMap fun
    | .diagnosis diagnosis => some diagnosis
    | _ => none

namespace OutputArtifact

def stepArtifact? (artifact : OutputArtifact) : Option TestStepArtifact :=
  match artifact.artifact with
  | .testStepArtifact step => some step
  | _ => none

def runArtifact? (artifact : OutputArtifact) : Option TestRunArtifact :=
  match artifact.artifact with
  | .testRunArtifact run => some run
  | _ => none

def schemaVersion? (artifact : OutputArtifact) : Option SchemaVersionOutput :=
  match artifact.artifact with
  | .schemaVersion version => some version
  | _ => none

end OutputArtifact

def TestRunModel.ofVariants (variants : List TestRunArtifact) : TestRunModel where
  start := (variants.filterMap fun
    | .testRunStart start => some start
    | _ => none).getLastD {}
  runEnd := (variants.filterMap fun
    | .testRunEnd runEnd => some runEnd
    | _ => none).getLastD {}
  preStartLogs := variants.filterMap fun
    | .log log => some log
    | _ => none
  preStartErrors := variants.filterMap fun
    | .error error => some error
    | _ => none

/-- The contents of the artifacts with the step id. -/
def variantsOf (artifacts : List TestStepArtifact) (testStepId : String) : List TestStepVariant :=
  (artifacts.filter (·.testStepId == testStepId)).map (·.artifact)

def stepGroup (artifacts : List TestStepArtifact) (testStepId : String) : TestStepModel :=
  .ofVariants testStepId (variantsOf artifacts testStepId)

/-- The model that a stream stands for. -/
def OutputModel.ofStream (artifacts : List OutputArtifact) : OutputModel where
  schemaVersion := (artifacts.filterMap (·.schemaVersion?)).getLastD {}
  testRun := .ofVariants (artifacts.filterMap (·.runArtifact?))
  testSteps :=
    let steps := artifacts.filterMap (·.stepArtifact?)
    (steps.map (·.testStepId)).eraseDups.map (stepGroup steps)

/-- Each series id occurs under one step id. -/
def SeriesUnderOneStep (artifacts : List TestStepArtifact) : Prop :=
  ∀ first ∈ artifacts, ∀ second ∈ artifacts, ∀ seriesId,
    first.artifact.seriesId? = some seriesId → second.artifact.seriesId? = some seriesId →
    first.testStepId = second.testStepId

/-- What one more artifact of a series changes in its model. -/
def MeasurementSeriesModel.add (series : MeasurementSeriesModel) :
    TestStepVariant → MeasurementSeriesModel
  | .measurementSeriesStart start => { series with start }
  | .measurementSeriesEnd seriesEnd => { series with seriesEnd }
  | .measurementSeriesElement element => { series with elements := series.elements ++ [element] }
  | _ => series

theorem MeasurementSeriesModel.ofVariants_snoc (variants : List TestStepVariant)
    (variant : TestStepVariant) :
    ofVariants (variants ++ [variant]) = (ofVariants variants).add variant := by
  cases variant <;> simp [ofVariants, add, List.filterMap_append]

theorem seriesGroup_snoc (variants : List TestStepVariant) (variant : TestStepVariant)
    (seriesId : String) (ofSeries : variant.seriesId? = some seriesId) :
    seriesGroup (variants ++ [variant]) =
      Function.update (seriesGroup variants) seriesId ((seriesGroup variants seriesId).add variant) := by
  funext other
  by_cases same : other = seriesId
  · subst same
    simp only [seriesGroup, List.filter_append, List.filter_singleton, ofSeries, beq_self_eq_true,
      MeasurementSeriesModel.ofVariants_snoc, Function.update_self, cond_true]
  · have different : (some seriesId == some other) = false := by
      simpa using Ne.symm same
    simp only [seriesGroup, List.filter_append, List.filter_singleton, ofSeries, different,
      cond_false, List.append_nil, ne_eq, same, not_false_eq_true, Function.update_of_ne]

theorem seriesIds_snoc (variants : List TestStepVariant) (variant : TestStepVariant) :
    seriesIds (variants ++ [variant]) = seriesIds variants ++ variant.seriesId?.toList := by
  cases ofSeries : variant.seriesId? <;> simp [seriesIds, ofSeries]

/-- What one more artifact that belongs to no series changes in the model of its step. -/
def TestStepModel.add (step : TestStepModel) : TestStepVariant → TestStepModel
  | .testStepStart start => { step with start }
  | .testStepEnd stepEnd => { step with stepEnd }
  | .log log => { step with logs := step.logs ++ [log] }
  | .error error => { step with errors := step.errors ++ [error] }
  | .file file => { step with files := step.files ++ [file] }
  | .extension extension => { step with extensions := step.extensions ++ [extension] }
  | .measurement measurement => { step with measurements := step.measurements ++ [measurement] }
  | .diagnosis diagnosis => { step with diagnoses := step.diagnoses ++ [diagnosis] }
  | _ => step

theorem TestStepModel.ofVariants_plain (testStepId : String) (variants : List TestStepVariant)
    (variant : TestStepVariant) (plain : variant.seriesId? = none) :
    ofVariants testStepId (variants ++ [variant]) = (ofVariants testStepId variants).add variant := by
  have groups : seriesGroup (variants ++ [variant]) = seriesGroup variants := by
    funext seriesId
    simp [seriesGroup, plain]
  have ids : seriesIds (variants ++ [variant]) = seriesIds variants := by
    simp [seriesIds_snoc, plain]
  cases variant with
  | measurementSeriesStart start => cases plain
  | measurementSeriesElement element => cases plain
  | measurementSeriesEnd seriesEnd => cases plain
  | _ => simp [ofVariants, add, groups, ids, List.filterMap_append]

theorem TestStepModel.ofVariants_series (testStepId : String) (variants : List TestStepVariant)
    (variant : TestStepVariant) (seriesId : String)
    (ofSeries : variant.seriesId? = some seriesId) :
    ofVariants testStepId (variants ++ [variant]) =
      { ofVariants testStepId variants with
        measurementSeries := (seriesIds variants ++ [seriesId]).eraseDups.map
          (Function.update (seriesGroup variants) seriesId
            ((seriesGroup variants seriesId).add variant)) } := by
  have groups := seriesGroup_snoc variants variant seriesId ofSeries
  have ids : seriesIds (variants ++ [variant]) = seriesIds variants ++ [seriesId] := by
    simp [seriesIds_snoc, ofSeries]
  cases variant with
  | measurementSeriesStart start => simp [ofVariants, groups, ids, List.filterMap_append]
  | measurementSeriesElement element => simp [ofVariants, groups, ids, List.filterMap_append]
  | measurementSeriesEnd seriesEnd => simp [ofVariants, groups, ids, List.filterMap_append]
  | _ => cases ofSeries

theorem variantsOf_snoc (artifacts : List TestStepArtifact) (artifact : TestStepArtifact)
    (testStepId : String) :
    variantsOf (artifacts ++ [artifact]) testStepId =
      if artifact.testStepId = testStepId then variantsOf artifacts testStepId ++ [artifact.artifact]
      else variantsOf artifacts testStepId := by
  by_cases same : artifact.testStepId = testStepId <;> simp [variantsOf, same]

theorem stepGroup_snoc (artifacts : List TestStepArtifact) (artifact : TestStepArtifact) :
    stepGroup (artifacts ++ [artifact]) = Function.update (stepGroup artifacts) artifact.testStepId
      (.ofVariants artifact.testStepId
        (variantsOf artifacts artifact.testStepId ++ [artifact.artifact])) := by
  funext testStepId
  by_cases same : testStepId = artifact.testStepId
  · subst same
    simp only [stepGroup, variantsOf_snoc, ↓reduceIte, Function.update_self]
  · simp only [stepGroup, variantsOf_snoc, Ne.symm same, ↓reduceIte, ne_eq, same,
      not_false_eq_true, Function.update_of_ne]

theorem stepGroup_fresh (artifacts : List TestStepArtifact) (testStepId : String)
    (absent : testStepId ∉ artifacts.map (·.testStepId)) :
    stepGroup artifacts testStepId = { testStepId } := by
  have nothing : variantsOf artifacts testStepId = [] := by
    simp only [variantsOf, List.map_eq_nil_iff, List.filter_eq_nil_iff, beq_iff_eq]
    intro artifact member same
    exact absent (List.mem_map.mpr ⟨artifact, member, same⟩)
  simp only [stepGroup, nothing]
  rfl

theorem seriesGroup_fresh (variants : List TestStepVariant) (seriesId : String)
    (absent : seriesId ∉ seriesIds variants) : seriesGroup variants seriesId = {} := by
  have nothing : variants.filter (·.seriesId? == some seriesId) = [] := by
    simp only [List.filter_eq_nil_iff, beq_iff_eq]
    intro variant member same
    exact absent (List.mem_filterMap.mpr ⟨variant, member, same⟩)
  simp only [seriesGroup, nothing]
  rfl

theorem mem_seriesIds_variantsOf {artifacts : List TestStepArtifact} {testStepId seriesId : String}
    (member : seriesId ∈ seriesIds (variantsOf artifacts testStepId)) :
    ∃ artifact ∈ artifacts, artifact.testStepId = testStepId ∧
      artifact.artifact.seriesId? = some seriesId := by
  simp only [seriesIds, variantsOf, List.mem_filterMap, List.mem_map, List.mem_filter,
    beq_iff_eq] at member
  obtain ⟨_, ⟨artifact, ⟨isArtifact, same⟩, rfl⟩, ofSeries⟩ := member
  exact ⟨artifact, isArtifact, same, ofSeries⟩

namespace ModelBuilder

variable {builder : ModelBuilder} {ids : List String} {group : String → TestStepModel}

theorem getTestStepIdx_table (testStepId : String)
    (table : Table ids group (builder.testStepIdToIdx.lookup ·) builder.model.testSteps)
    (fresh : testStepId ∉ ids → group testStepId = { testStepId }) :
    ∃ idx next, builder.getTestStepIdx testStepId = (idx, next) ∧
      Table (ids ++ [testStepId]) group (next.testStepIdToIdx.lookup ·) next.model.testSteps ∧
      next.testStepIdToIdx.lookup testStepId = some idx ∧
      next.measurementSeriesIdToIdx = builder.measurementSeriesIdToIdx ∧
      next.model.testRun = builder.model.testRun ∧
      next.model.schemaVersion = builder.model.schemaVersion := by
  cases found : builder.testStepIdToIdx.lookup testStepId with
  | some idx =>
      refine ⟨idx, builder, by simp only [getTestStepIdx, found], ?_, found, rfl, rfl, rfl⟩
      exact table.again (table.found found).1
  | none =>
      have absent := table.absent testStepId found
      refine ⟨builder.model.testSteps.length, { builder with
        testStepIdToIdx := (testStepId, builder.model.testSteps.length) :: builder.testStepIdToIdx
        model := { builder.model with
          testSteps := builder.model.testSteps ++ [{ testStepId }] } },
        by simp only [getTestStepIdx, found], ?_, ?_, rfl, rfl, rfl⟩
      · rw [← fresh absent]
        exact table.add absent _ List.lookup_cons_self fun other different =>
          lookup_cons_of_ne different
      · simp

theorem updateTestStep_table (testStepId : String) (idx : Nat)
    (update : TestStepModel → TestStepModel)
    (table : Table ids group (builder.testStepIdToIdx.lookup ·) builder.model.testSteps)
    (found : builder.testStepIdToIdx.lookup testStepId = some idx) :
    builder.updateTestStep idx update = .ok { builder with
      model := { builder.model with
        testSteps := builder.model.testSteps.set idx (update (group testStepId)) } } := by
  simp only [updateTestStep, (table.found found).2]

/-- The index of a series is found under the step that has it. -/
theorem updateMeasurementSeries_table (testStepId seriesId : String) (idx : Nat)
    (update : MeasurementSeriesModel → MeasurementSeriesModel) (own : String → Bool)
    {series : List String} {ofSeries : String → MeasurementSeriesModel}
    (table : Table ids group (builder.testStepIdToIdx.lookup ·) builder.model.testSteps)
    (found : builder.testStepIdToIdx.lookup testStepId = some idx) (mine : own seriesId = true)
    (fresh : seriesId ∉ series → ofSeries seriesId = {})
    (inner : Table series ofSeries
      (fun key => if own key then builder.measurementSeriesIdToIdx.lookup key else none)
      (group testStepId).measurementSeries) :
    ∃ next, builder.updateMeasurementSeries idx seriesId update = .ok next ∧
      next.testStepIdToIdx = builder.testStepIdToIdx ∧
      next.model = { builder.model with
        testSteps := builder.model.testSteps.set idx { group testStepId with
          measurementSeries := (series ++ [seriesId]).eraseDups.map
            (Function.update ofSeries seriesId (update (ofSeries seriesId))) } } ∧
      (∀ key, own key = true → next.measurementSeriesIdToIdx.lookup key =
        (series ++ [seriesId]).eraseDups.idxOf? key) ∧
      ∀ key, own key = false → next.measurementSeriesIdToIdx.lookup key =
        builder.measurementSeriesIdToIdx.lookup key := by
  have here := (table.found found).2
  have known : ∀ key, own key = true →
      builder.measurementSeriesIdToIdx.lookup key = series.eraseDups.idxOf? key := by
    intro key isOwn
    rw [← inner.index, if_pos isOwn]
  cases located : builder.measurementSeriesIdToIdx.lookup seriesId with
  | some place =>
      have again := inner.again (inner.found (by rw [if_pos mine]; exact located)).1
      have entry := (again.found (by rw [if_pos mine]; exact located)).2
      have updated := again.set (by rw [if_pos mine]; exact located) (update (ofSeries seriesId))
      refine ⟨{ builder with
        model := { builder.model with
          testSteps := builder.model.testSteps.set idx { group testStepId with
            measurementSeries := (group testStepId).measurementSeries.set place
              (update (ofSeries seriesId)) } } }, ?_, rfl, ?_, ?_, fun key _ => rfl⟩
      · simp only [updateMeasurementSeries, getMeasurementSeriesIdx, located, Outcome.ok_bind, here,
          entry]
        exact updateTestStep_table testStepId idx _ table found
      · rw [← updated.entries]
      · intro key isOwn
        rw [← again.index, if_pos isOwn]
  | none =>
      have absent := inner.absent seriesId (by rw [if_pos mine]; exact located)
      have longer := inner.add absent
        (fun key => if own key then
          ((seriesId, (group testStepId).measurementSeries.length) ::
            builder.measurementSeriesIdToIdx).lookup key else none) ?_ ?_
      · have place : (fun key => if own key then
            ((seriesId, (group testStepId).measurementSeries.length) ::
              builder.measurementSeriesIdToIdx).lookup key else none) seriesId =
            some (group testStepId).measurementSeries.length := by
          simp only [mine, ↓reduceIte, List.lookup_cons_self]
        have updated := longer.set place (update (ofSeries seriesId))
        refine ⟨{ builder with
          measurementSeriesIdToIdx := (seriesId, (group testStepId).measurementSeries.length) ::
            builder.measurementSeriesIdToIdx
          model := { builder.model with
            testSteps := builder.model.testSteps.set idx { group testStepId with
              measurementSeries := ((group testStepId).measurementSeries ++ [ofSeries seriesId]).set
                (group testStepId).measurementSeries.length (update (ofSeries seriesId)) } } },
          ?_, rfl, ?_, ?_, ?_⟩
        · obtain ⟨below, _⟩ := List.getElem?_eq_some_iff.mp here
          simp only [updateMeasurementSeries, getMeasurementSeriesIdx, located, here,
            updateTestStep_table testStepId idx _ table found, Outcome.ok_bind,
            Outcome.pure_eq_ok]
          simp [updateTestStep, below, fresh absent]
        · rw [← updated.entries]
        · intro key isOwn
          rw [← longer.index, if_pos isOwn]
        · intro key foreign
          apply lookup_cons_of_ne
          rintro rfl
          rw [mine] at foreign
          cases foreign
      · simp only [mine, ↓reduceIte, List.lookup_cons_self]
      · intro other different
        rw [lookup_cons_of_ne different]

/-- The series that an artifact of a step is found under are those of its owner. -/
def Owned (owner : String → String) (artifact : TestStepArtifact) : Prop :=
  ∀ seriesId, artifact.artifact.seriesId? = some seriesId → artifact.testStepId = owner seriesId

/-- A build that has handled some artifacts of steps. -/
structure Builds (owner : String → String) (artifacts : List TestStepArtifact)
    (builder : ModelBuilder) : Prop where
  steps : Table (artifacts.map (·.testStepId)) (stepGroup artifacts)
    (builder.testStepIdToIdx.lookup ·) builder.model.testSteps
  series : ∀ seriesId, builder.measurementSeriesIdToIdx.lookup seriesId =
    (seriesIds (variantsOf artifacts (owner seriesId))).eraseDups.idxOf? seriesId
  owned : ∀ artifact ∈ artifacts, Owned owner artifact

theorem builds_fresh (owner : String → String) : Builds owner [] {} :=
  ⟨table_nil _ _ fun _ => rfl, fun _ => rfl, fun _ member => by cases member⟩

/-- The series of a step, as the map of the builder finds them. -/
theorem Builds.inner {owner : String → String} {artifacts : List TestStepArtifact}
    (builds : Builds owner artifacts builder) (testStepId : String) :
    Table (seriesIds (variantsOf artifacts testStepId))
      (seriesGroup (variantsOf artifacts testStepId))
      (fun key => if owner key == testStepId then builder.measurementSeriesIdToIdx.lookup key
        else none)
      (stepGroup artifacts testStepId).measurementSeries := by
  refine ⟨rfl, fun key => ?_⟩
  by_cases mine : owner key = testStepId
  · subst mine
    simp only [beq_self_eq_true, ↓reduceIte, builds.series]
  · have absent : key ∉ seriesIds (variantsOf artifacts testStepId) := by
      intro member
      obtain ⟨artifact, isArtifact, same, ofSeries⟩ := mem_seriesIds_variantsOf member
      exact mine ((builds.owned artifact isArtifact key ofSeries).symm.trans same)
    have missing : (seriesIds (variantsOf artifacts testStepId)).eraseDups.idxOf? key = none := by
      rwa [List.idxOf?_eq_none_iff, List.mem_eraseDups]
    simp only [missing, beq_iff_eq, mine, ↓reduceIte]

/-- The branches of HandleTestStepArtifact(), by whether the artifact belongs to a series. -/
theorem handleTestStepArtifact_eq (artifact : TestStepArtifact) {idx : Nat}
    {entered : ModelBuilder} (entry : builder.getTestStepIdx artifact.testStepId = (idx, entered)) :
    builder.handleTestStepArtifact artifact =
      match artifact.artifact.seriesId? with
      | none => entered.updateTestStep idx (·.add artifact.artifact)
      | some seriesId => entered.updateMeasurementSeries idx seriesId (·.add artifact.artifact) := by
  obtain ⟨variant, testStepId⟩ := artifact
  simp only [handleTestStepArtifact, entry]
  cases variant <;> rfl

theorem handleTestStepArtifact_builds {owner : String → String}
    {artifacts : List TestStepArtifact} (artifact : TestStepArtifact)
    (builds : Builds owner artifacts builder) (owned : Owned owner artifact) :
    ∃ next, builder.handleTestStepArtifact artifact = .ok next ∧
      Builds owner (artifacts ++ [artifact]) next ∧
      next.model.testRun = builder.model.testRun ∧
      next.model.schemaVersion = builder.model.schemaVersion := by
  obtain ⟨idx, entered, entry, table, found, seriesMap, run, version⟩ :=
    getTestStepIdx_table artifact.testStepId builds.steps
      (stepGroup_fresh artifacts artifact.testStepId)
  rw [handleTestStepArtifact_eq artifact entry]
  have allOwned : ∀ other ∈ artifacts ++ [artifact], Owned owner other := by
    intro other member
    rcases List.mem_append.mp member with before | last
    · exact builds.owned other before
    · exact List.mem_singleton.mp last ▸ owned
  have keys : (artifacts ++ [artifact]).map (·.testStepId) =
      artifacts.map (·.testStepId) ++ [artifact.testStepId] := by simp
  cases ofSeries : artifact.artifact.seriesId? with
  | none =>
      refine ⟨_, updateTestStep_table artifact.testStepId idx _ table found, ⟨?_, ?_, allOwned⟩,
        run, version⟩
      · rw [keys, stepGroup_snoc, TestStepModel.ofVariants_plain _ _ _ ofSeries]
        exact table.set found _
      · intro seriesId
        show entered.measurementSeriesIdToIdx.lookup seriesId = _
        rw [seriesMap, builds.series, variantsOf_snoc]
        split
        · rw [seriesIds_snoc, ofSeries, Option.toList_none, List.append_nil]
        · rfl
  | some seriesId =>
      have mine := owned seriesId ofSeries
      obtain ⟨next, updated, maps, model, ownKeys, otherKeys⟩ :=
        updateMeasurementSeries_table artifact.testStepId seriesId idx (·.add artifact.artifact)
          (fun key => owner key == artifact.testStepId) table found (by simp [mine])
          (seriesGroup_fresh _ seriesId)
          (by simpa only [seriesMap] using builds.inner artifact.testStepId)
      refine ⟨next, updated, ⟨?_, ?_, allOwned⟩, ?_, ?_⟩
      · rw [keys, stepGroup_snoc, TestStepModel.ofVariants_series _ _ _ _ ofSeries, maps, model]
        exact table.set found _
      · intro key
        rw [variantsOf_snoc]
        by_cases isOwn : artifact.testStepId = owner key
        · rw [if_pos isOwn, ownKeys key (by simp [isOwn]), seriesIds_snoc, ofSeries, isOwn]
          rfl
        · rw [if_neg isOwn, otherKeys key (by simpa using Ne.symm isOwn), seriesMap, builds.series]
      · rw [model, run]
      · rw [model, version]

/-- A build that has handled some artifacts of a stream. -/
structure BuildsStream (owner : String → String) (done : List OutputArtifact)
    (builder : ModelBuilder) : Prop where
  schemaVersion : builder.model.schemaVersion = (done.filterMap (·.schemaVersion?)).getLastD {}
  testRun : builder.model.testRun = .ofVariants (done.filterMap (·.runArtifact?))
  steps : Builds owner (done.filterMap (·.stepArtifact?)) builder

theorem BuildsStream.model_eq {owner : String → String} {done : List OutputArtifact}
    (builds : BuildsStream owner done builder) : builder.model = .ofStream done := by
  obtain ⟨⟨schemaVersion, testRun, testSteps⟩, testStepIdToIdx, seriesIdToIdx⟩ := builder
  have version := builds.schemaVersion
  have run := builds.testRun
  have steps := builds.steps.steps.entries
  simp only at version run steps
  simp only [OutputModel.ofStream, version, run, steps]

/-- The branches of HandleTestRunArtifact(). -/
theorem handleTestRunArtifact_testRun (artifact : TestRunArtifact) (done : List TestRunArtifact)
    (testRun : builder.model.testRun = .ofVariants done) :
    (builder.handleTestRunArtifact artifact).model.testRun = .ofVariants (done ++ [artifact]) := by
  simp only [handleTestRunArtifact, testRun]
  cases artifact <;> simp [TestRunModel.ofVariants, List.filterMap_append]

theorem handleOutputArtifact_builds {owner : String → String} {done : List OutputArtifact}
    (artifact : OutputArtifact) (builds : BuildsStream owner done builder)
    (owned : ∀ step, artifact.stepArtifact? = some step → Owned owner step) :
    ∃ next, builder.handleOutputArtifact artifact = .ok next ∧
      BuildsStream owner (done ++ [artifact]) next := by
  obtain ⟨variant, number, time⟩ := artifact
  cases variant with
  | schemaVersion version =>
      refine ⟨_, rfl, ?_, ?_, ?_⟩
      · simp [OutputArtifact.schemaVersion?, List.filterMap_append]
      · simpa [OutputArtifact.runArtifact?, List.filterMap_append] using builds.testRun
      · simpa [OutputArtifact.stepArtifact?, List.filterMap_append] using
          ⟨builds.steps.steps, builds.steps.series, builds.steps.owned⟩
  | testRunArtifact run =>
      refine ⟨builder.handleTestRunArtifact run, rfl, ?_, ?_, ?_⟩
      · show builder.model.schemaVersion = _
        simpa [OutputArtifact.schemaVersion?, List.filterMap_append] using builds.schemaVersion
      · simpa [OutputArtifact.runArtifact?, List.filterMap_append] using
          handleTestRunArtifact_testRun run _ builds.testRun
      · simpa [OutputArtifact.stepArtifact?, List.filterMap_append] using
          ⟨builds.steps.steps, builds.steps.series, builds.steps.owned⟩
  | testStepArtifact step =>
      obtain ⟨next, handled, steps, run, version⟩ :=
        handleTestStepArtifact_builds step builds.steps (owned step rfl)
      refine ⟨next, handled, ?_, ?_, ?_⟩
      · simpa [OutputArtifact.schemaVersion?, List.filterMap_append, version] using
          builds.schemaVersion
      · simpa [OutputArtifact.runArtifact?, List.filterMap_append, run] using builds.testRun
      · simpa [OutputArtifact.stepArtifact?, List.filterMap_append] using steps

/-- The container iterates over the artifacts. -/
def Iterates (protobuf : Protobuf) : List Pb.OutputArtifact → List OutputArtifact → Prop :=
  List.Forall₂ fun record artifact => OutputArtifact.protoToStruct protobuf record = .ok artifact

theorem handleRecords_builds (protobuf : Protobuf) {owner : String → String}
    {records : List Pb.OutputArtifact} {artifacts : List OutputArtifact}
    (iterated : Iterates protobuf records artifacts) (done : List OutputArtifact)
    (builder : ModelBuilder) (builds : BuildsStream owner done builder)
    (owned : ∀ step ∈ artifacts.filterMap (·.stepArtifact?), Owned owner step) :
    ∃ next, builder.handleRecords protobuf records = .ok next ∧
      BuildsStream owner (done ++ artifacts) next := by
  induction iterated generalizing done builder with
  | nil => exact ⟨builder, rfl, by simpa using builds⟩
  | cons converted rest ih =>
      rename_i record artifact records artifacts
      obtain ⟨middle, handled, built⟩ := handleOutputArtifact_builds artifact builds
        fun step isStep => owned step (List.mem_filterMap.mpr ⟨artifact, List.mem_cons_self, isStep⟩)
      obtain ⟨next, finished, all⟩ := ih (done ++ [artifact]) middle built fun step member => by
        obtain ⟨other, later, isStep⟩ := List.mem_filterMap.mp member
        exact owned step (List.mem_filterMap.mpr ⟨other, List.mem_cons_of_mem _ later, isStep⟩)
      refine ⟨next, ?_, by simpa using all⟩
      simp only [handleRecords, converted, Outcome.ok_bind, handled, finished]

end ModelBuilder

/-- The step that a series is first found under. -/
def ownerIn (artifacts : List TestStepArtifact) (seriesId : String) : String :=
  match artifacts.find? (·.artifact.seriesId? == some seriesId) with
  | some artifact => artifact.testStepId
  | none => ""

theorem owned_of_single {artifacts : List TestStepArtifact}
    (single : SeriesUnderOneStep artifacts) :
    ∀ artifact ∈ artifacts, ModelBuilder.Owned (ownerIn artifacts) artifact := by
  intro artifact member seriesId ofSeries
  unfold ownerIn
  cases found : artifacts.find? (·.artifact.seriesId? == some seriesId) with
  | some first =>
      have isFirst := List.find?_some found
      exact single artifact member first (List.mem_of_find?_eq_some found) seriesId ofSeries
        (by simpa using isFirst)
  | none =>
      have absent := List.find?_eq_none.mp found artifact member
      simp [ofSeries] at absent

/-- A new receiver builds the model that its file's stream stands for, and runs into neither an
invalid artifact nor an index out of range. -/
theorem OutputReceiver.buildModel_ofStream (protobuf : Protobuf)
    (container : List Pb.OutputArtifact) (artifacts : List OutputArtifact)
    (iterated : ModelBuilder.Iterates protobuf container artifacts)
    (single : SeriesUnderOneStep (artifacts.filterMap (·.stepArtifact?))) :
    (·.1) <$> buildModel protobuf { container, writerCreated := true } =
      .ok (.ofStream artifacts) := by
  obtain ⟨builder, handled, builds⟩ := ModelBuilder.handleRecords_builds protobuf iterated []
    {} ⟨rfl, rfl, ModelBuilder.builds_fresh _⟩ (owned_of_single single)
  rw [List.nil_append] at builds
  rw [← builds.model_eq]
  simp only [buildModel, getOutputContainer, check_true, Outcome.ok_bind, Outcome.pure_eq_ok,
    handled]
  rfl

/-- Two steps with a series each, in turn. -/
def sampleContainer : List Pb.OutputArtifact :=
  [⟨.schemaVersion ⟨2, 0⟩, 0, {}⟩,
    ⟨.testStepArtifact ⟨.testStepStart ⟨"fans"⟩, "0"⟩, 1, {}⟩,
    ⟨.testStepArtifact ⟨.testStepStart ⟨"disks"⟩, "1"⟩, 2, {}⟩,
    ⟨.testStepArtifact ⟨.measurementSeriesEnd ⟨"1", 4⟩, "1"⟩, 3, {}⟩,
    ⟨.testStepArtifact ⟨.measurementSeriesEnd ⟨"0", 7⟩, "0"⟩, 4, {}⟩,
    ⟨.testStepArtifact ⟨.testStepEnd ⟨.COMPLETE⟩, "0"⟩, 5, {}⟩]

def sampleStream : List OutputArtifact :=
  [⟨.schemaVersion ⟨2, 0⟩, 0, {}⟩,
    ⟨.testStepArtifact ⟨.testStepStart ⟨"fans"⟩, "0"⟩, 1, {}⟩,
    ⟨.testStepArtifact ⟨.testStepStart ⟨"disks"⟩, "1"⟩, 2, {}⟩,
    ⟨.testStepArtifact ⟨.measurementSeriesEnd ⟨"1", 4⟩, "1"⟩, 3, {}⟩,
    ⟨.testStepArtifact ⟨.measurementSeriesEnd ⟨"0", 7⟩, "0"⟩, 4, {}⟩,
    ⟨.testStepArtifact ⟨.testStepEnd ⟨.complete⟩, "0"⟩, 5, {}⟩]

theorem OutputReceiver.buildModel_ofStream_sampleStream :
    (·.1) <$> buildModel sampleProtobuf { container := sampleContainer, writerCreated := true } =
        .ok (.ofStream sampleStream) ∧
      OutputModel.ofStream sampleStream = {
        schemaVersion := ⟨2, 0⟩
        testSteps := [
          { testStepId := "0", start := ⟨"fans"⟩, stepEnd := ⟨.complete⟩,
            measurementSeries := [{ seriesEnd := ⟨"0", 7⟩ }] },
          { testStepId := "1", start := ⟨"disks"⟩,
            measurementSeries := [{ seriesEnd := ⟨"1", 4⟩ }] }] } := by
  refine ⟨buildModel_ofStream sampleProtobuf sampleContainer sampleStream ?_ ?_, by decide⟩
  · exact .cons rfl (.cons rfl (.cons rfl (.cons rfl (.cons rfl (.cons rfl .nil)))))
  · simp [SeriesUnderOneStep, sampleStream, OutputArtifact.stepArtifact?,
      TestStepVariant.seriesId?]

end OcpDiag.Results
