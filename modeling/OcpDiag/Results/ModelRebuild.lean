import OcpDiag.Results.OutputReceiver
import OcpDiag.Results.RoundTrip

set_option autoImplicit false

namespace OcpDiag.Results

/-- The series that an artifact of a step belongs to. -/
def TestStepVariant.seriesId? : TestStepVariant → Option String
  | .measurementSeriesStart start => some start.measurementSeriesId
  | .measurementSeriesElement element => some element.measurementSeriesId
  | .measurementSeriesEnd seriesEnd => some seriesEnd.measurementSeriesId
  | _ => none

/-- How many of the series were first seen under the step. -/
def ownSeries (seen : List (String × String)) (testStepId : String) : Nat :=
  seen.countP (·.2 == testStepId)

/-- The series seen so far, in order, each with the step that it was first seen under. -/
def noteSeries (seen : List (String × String)) (artifact : OutputArtifact) :
    List (String × String) :=
  match artifact.artifact with
  | .testStepArtifact step =>
      match step.artifact.seriesId? with
      | some seriesId =>
          if seriesId ∈ seen.map (·.1) then seen else seen ++ [(seriesId, step.testStepId)]
      | none => seen
  | _ => seen

/-- The series' place among the series of the step that it was first seen under is also a
place among those of the step it is now found under. -/
def InPlace (seen : List (String × String)) (testStepId seriesId : String) : Prop :=
  ∀ before owner after, seen = before ++ (seriesId, owner) :: after →
    ownSeries before owner < ownSeries seen testStepId

def ArtifactInPlace (seen : List (String × String)) (artifact : OutputArtifact) : Prop :=
  ∀ step seriesId, artifact.artifact = .testStepArtifact step →
    step.artifact.seriesId? = some seriesId → InPlace seen step.testStepId seriesId

def SeriesInPlace (seen : List (String × String)) : List OutputArtifact → Prop
  | [] => True
  | artifact :: rest => ArtifactInPlace seen artifact ∧ SeriesInPlace (noteSeries seen artifact) rest

/-- When every series belongs to one step, as in the streams of a TestRun, all are in place. -/
theorem seriesInPlace_of_owner (owner : String → String) (artifacts : List OutputArtifact)
    (seen : List (String × String)) (owned : ∀ pair ∈ seen, pair.2 = owner pair.1)
    (single : ∀ artifact ∈ artifacts, ∀ step seriesId,
      artifact.artifact = .testStepArtifact step → step.artifact.seriesId? = some seriesId →
      step.testStepId = owner seriesId) :
    SeriesInPlace seen artifacts := by
  induction artifacts generalizing seen with
  | nil => trivial
  | cons artifact rest ih =>
      refine ⟨?_, ih _ ?_ fun other member => single other (List.mem_cons_of_mem _ member)⟩
      · intro step seriesId same ofSeries before first after split
        have home := single artifact List.mem_cons_self step seriesId same ofSeries
        have first_eq : first = owner seriesId := owned (seriesId, first) (by simp [split])
        simp only [split, ownSeries, home, first_eq, List.countP_append, List.countP_cons,
          beq_self_eq_true, ↓reduceIte]
        omega
      · intro pair member
        unfold noteSeries at member
        split at member
        · rename_i step same
          split at member
          · rename_i seriesId ofSeries
            split at member
            · exact owned pair member
            · rcases List.mem_append.mp member with old | new
              · exact owned pair old
              · obtain rfl := List.mem_singleton.mp new
                exact single artifact List.mem_cons_self step seriesId same ofSeries
          · exact owned pair member
        · exact owned pair member

/-- The artifacts that the iterator yields before the first record it cannot convert. -/
def readable (protobuf : Protobuf) : List Pb.OutputArtifact → List OutputArtifact
  | [] => []
  | record :: rest =>
      match OutputArtifact.protoToStruct protobuf record with
      | .ok artifact => artifact :: readable protobuf rest
      | _ => []

namespace ModelBuilder

/-- Every index in the maps is the place of its id in the model. -/
structure Indexed (seen : List (String × String)) (builder : ModelBuilder) : Prop where
  steps : ∀ testStepId idx, builder.testStepIdToIdx.lookup testStepId = some idx ↔
    ∃ step, builder.model.testSteps[idx]? = some step ∧ step.testStepId = testStepId
  owned : ∀ step ∈ builder.model.testSteps,
    step.measurementSeries.length = ownSeries seen step.testStepId
  owners : ∀ pair ∈ seen, ∃ step ∈ builder.model.testSteps, step.testStepId = pair.2
  series : ∀ seriesId idx, builder.measurementSeriesIdToIdx.lookup seriesId = some idx ↔
    ∃ before owner after, seen = before ++ (seriesId, owner) :: after ∧
      idx = ownSeries before owner

theorem indexed_fresh : Indexed [] {} where
  steps := by simp
  owned := by simp
  owners := by simp
  series := by simp

theorem getTestStepIdx_spec (seen : List (String × String)) (builder : ModelBuilder)
    (testStepId : String) (indexed : Indexed seen builder) :
    Indexed seen (builder.getTestStepIdx testStepId).2 ∧
    ∃ step, (builder.getTestStepIdx testStepId).2.model.testSteps[
        (builder.getTestStepIdx testStepId).1]? = some step ∧ step.testStepId = testStepId := by
  unfold getTestStepIdx
  cases found : builder.testStepIdToIdx.lookup testStepId with
  | some idx => exact ⟨indexed, (indexed.steps testStepId idx).mp found⟩
  | none =>
      have absent : ∀ step ∈ builder.model.testSteps, step.testStepId ≠ testStepId := by
        intro step member same
        obtain ⟨idx, place⟩ := List.mem_iff_getElem?.mp member
        rw [(indexed.steps testStepId idx).mpr ⟨step, place, same⟩] at found
        cases found
      refine ⟨⟨?_, ?_, ?_, indexed.series⟩, { testStepId }, by simp, rfl⟩
      · intro other idx
        rw [List.lookup_cons]
        by_cases same : other = testStepId
        · subst same
          simp only [beq_self_eq_true, Option.some.injEq]
          constructor
          · rintro rfl
            exact ⟨{ testStepId := other }, by simp, rfl⟩
          · rintro ⟨step, place, same⟩
            rcases Nat.lt_trichotomy idx builder.model.testSteps.length with below | equal | above
            · rw [List.getElem?_append_left below] at place
              exact absurd same (absent step (List.mem_of_getElem? place))
            · exact equal.symm
            · rw [List.getElem?_eq_none (by simp; omega)] at place
              cases place
        · have different : (other == testStepId) = false := by simpa using same
          simp only [different, indexed.steps other idx]
          constructor
          · rintro ⟨step, place, named⟩
            obtain ⟨below, _⟩ := List.getElem?_eq_some_iff.mp place
            exact ⟨step, by rw [List.getElem?_append_left below]; exact place, named⟩
          · rintro ⟨step, place, named⟩
            by_cases below : idx < builder.model.testSteps.length
            · rw [List.getElem?_append_left below] at place
              exact ⟨step, place, named⟩
            · rw [List.getElem?_append_right (by omega)] at place
              obtain rfl := List.mem_singleton.mp (List.mem_of_getElem? place)
              exact absurd named (Ne.symm same)
      · intro step member
        rcases List.mem_append.mp member with old | new
        · exact indexed.owned step old
        · obtain rfl := List.mem_singleton.mp new
          symm
          simp only [ownSeries, List.length_nil, List.countP_eq_zero, beq_iff_eq]
          intro pair seenPair same
          obtain ⟨step, member, named⟩ := indexed.owners pair seenPair
          exact absent step member (named.trans same)
      · intro pair member
        obtain ⟨step, old, named⟩ := indexed.owners pair member
        exact ⟨step, List.mem_append_left _ old, named⟩

/-- A step keeps its id and gets as many series as the second list of series gives it. -/
theorem indexed_set (seen after : List (String × String)) (builder : ModelBuilder) (idx : Nat)
    (step next : TestStepModel) (seriesMap : List (String × Nat))
    (indexed : Indexed seen builder) (place : builder.model.testSteps[idx]? = some step)
    (named : next.testStepId = step.testStepId)
    (owned : next.measurementSeries.length = ownSeries after step.testStepId)
    (others : ∀ other, other ≠ step.testStepId → ownSeries after other = ownSeries seen other)
    (owners : ∀ pair ∈ after, pair ∈ seen ∨ pair.2 = step.testStepId)
    (series : ∀ seriesId idx, seriesMap.lookup seriesId = some idx ↔
      ∃ before owner rest, after = before ++ (seriesId, owner) :: rest ∧
        idx = ownSeries before owner) :
    Indexed after { builder with
      model := { builder.model with testSteps := builder.model.testSteps.set idx next }
      measurementSeriesIdToIdx := seriesMap } := by
  obtain ⟨below, at_idx⟩ := List.getElem?_eq_some_iff.mp place
  have unique : ∀ other position, builder.model.testSteps[position]? = some other →
      other.testStepId = step.testStepId → position = idx := by
    intro other position found same
    have first := (indexed.steps step.testStepId position).mpr ⟨other, found, same⟩
    have second := (indexed.steps step.testStepId idx).mpr ⟨step, place, rfl⟩
    exact Option.some.inj (first.symm.trans second)
  refine ⟨?_, ?_, ?_, series⟩
  · intro testStepId position
    simp only [indexed.steps testStepId position, List.getElem?_set]
    by_cases same : idx = position
    · subst same
      simp only [place, below, ↓reduceIte, Option.some.injEq, exists_eq_left', named]
    · simp only [same, ↓reduceIte]
  · intro other member
    obtain ⟨position, found⟩ := List.mem_iff_getElem?.mp member
    simp only [List.getElem?_set] at found
    by_cases same : idx = position
    · subst same
      simp only [below, ↓reduceIte, Option.some.injEq] at found
      subst found
      rw [owned, named]
    · simp only [same, ↓reduceIte] at found
      have old := indexed.owned other (List.mem_of_getElem? found)
      rw [old, others]
      intro equal
      exact same (unique other position found equal).symm
  · intro pair member
    rcases owners pair member with old | new
    · obtain ⟨other, present, same⟩ := indexed.owners pair old
      by_cases equal : other.testStepId = step.testStepId
      · exact ⟨next, List.mem_set below next, by rw [named, ← equal, same]⟩
      · obtain ⟨position, found⟩ := List.mem_iff_getElem?.mp present
        refine ⟨other, List.mem_iff_getElem?.mpr ⟨position, ?_⟩, same⟩
        rw [List.getElem?_set]
        by_cases overlap : idx = position
        · rw [← overlap, place] at found
          exact absurd (congrArg (·.testStepId) (Option.some.inj found)).symm equal
        · simp only [overlap, ↓reduceIte, found]
    · exact ⟨next, List.mem_set below next, by rw [named, new]⟩

theorem updateTestStep_spec (seen : List (String × String)) (builder : ModelBuilder) (idx : Nat)
    (step : TestStepModel) (update : TestStepModel → TestStepModel)
    (indexed : Indexed seen builder) (place : builder.model.testSteps[idx]? = some step)
    (named : (update step).testStepId = step.testStepId)
    (sameSeries : (update step).measurementSeries.length = step.measurementSeries.length) :
    ∃ next, builder.updateTestStep idx update = .ok next ∧ Indexed seen next := by
  refine ⟨_, by simp only [updateTestStep, place]; rfl, ?_⟩
  refine indexed_set seen seen builder idx step (update step) builder.measurementSeriesIdToIdx
    indexed place named ?_ (fun other _ => rfl) (fun pair member => Or.inl member) indexed.series
  rw [sameSeries, indexed.owned step (List.mem_of_getElem? place)]

/-- The index of a series, and the place it takes when it is seen for the first time. -/
theorem getMeasurementSeriesIdx_spec (seen : List (String × String)) (builder : ModelBuilder)
    (idx : Nat) (step : TestStepModel) (seriesId : String) (indexed : Indexed seen builder)
    (place : builder.model.testSteps[idx]? = some step) :
    ∃ seriesIdx next step', builder.getMeasurementSeriesIdx seriesId idx = .ok (seriesIdx, next) ∧
      Indexed (if seriesId ∈ seen.map (·.1) then seen else seen ++ [(seriesId, step.testStepId)])
        next ∧
      next.model.testSteps[idx]? = some step' ∧ step'.testStepId = step.testStepId ∧
      (seriesIdx < step'.measurementSeries.length ↔ InPlace seen step.testStepId seriesId) := by
  have owned := indexed.owned step (List.mem_of_getElem? place)
  obtain ⟨below, _⟩ := List.getElem?_eq_some_iff.mp place
  cases found : builder.measurementSeriesIdToIdx.lookup seriesId with
  | some seriesIdx =>
      obtain ⟨before, owner, after, split, index⟩ := (indexed.series seriesId seriesIdx).mp found
      have known : seriesId ∈ seen.map (·.1) := by simp [split]
      refine ⟨seriesIdx, builder, step, by simp only [getMeasurementSeriesIdx, found], ?_, place,
        rfl, ?_⟩
      · simpa only [known, ↓reduceIte] using indexed
      · rw [owned, index]
        constructor
        · intro fits before' owner' after' split'
          have again := (indexed.series seriesId _).mpr ⟨before', owner', after', split', rfl⟩
          rw [found] at again
          rw [← Option.some.inj again, index]
          exact fits
        · intro inPlace
          exact inPlace before owner after split
  | none =>
      have unseen : seriesId ∉ seen.map (·.1) := by
        intro known
        obtain ⟨⟨_, owner⟩, member, rfl⟩ := List.mem_map.mp known
        obtain ⟨before, after, split⟩ := List.append_of_mem member
        rw [(indexed.series _ _).mpr ⟨before, owner, after, split, rfl⟩] at found
        cases found
      refine ⟨step.measurementSeries.length, _,
        { step with measurementSeries := step.measurementSeries ++ [{}] }, by
          simp only [getMeasurementSeriesIdx, found, place, updateTestStep, Outcome.ok_bind,
            Outcome.pure_eq_ok]
          rfl, ?_, List.getElem?_set_self below, rfl, ?_⟩
      · simp only [unseen, ↓reduceIte]
        refine indexed_set seen _ builder idx step _ _ indexed place rfl ?_ ?_ ?_ ?_
        · simp [ownSeries, List.countP_append, owned]
        · intro other different
          simp [ownSeries, List.countP_append, Ne.symm different]
        · intro pair member
          rcases List.mem_append.mp member with old | new
          · exact Or.inl old
          · exact Or.inr (by rw [List.mem_singleton.mp new])
        · intro other position
          rw [List.lookup_cons]
          by_cases same : other = seriesId
          · subst same
            simp only [beq_self_eq_true, Option.some.injEq]
            constructor
            · rintro rfl
              exact ⟨seen, step.testStepId, [], rfl, owned⟩
            · rintro ⟨before, owner, after, split, rfl⟩
              rcases List.eq_nil_or_concat after with rfl | ⟨rest, last, rfl⟩
              · have halves := List.append_inj' split rfl
                simp only [List.cons.injEq, Prod.mk.injEq, and_true, true_and] at halves
                rw [owned, halves.1, halves.2]
              · rw [List.concat_eq_append, ← List.cons_append, ← List.append_assoc] at split
                exact absurd (by simp [(List.append_inj' split rfl).1]) unseen
          · have different : (other == seriesId) = false := by simpa using same
            simp only [different, indexed.series other position]
            constructor
            · rintro ⟨before, owner, after, rfl, index⟩
              exact ⟨before, owner, after ++ [(seriesId, step.testStepId)], by simp, index⟩
            · rintro ⟨before, owner, after, split, index⟩
              rcases List.eq_nil_or_concat after with rfl | ⟨rest, last, rfl⟩
              · have halves := List.append_inj' split rfl
                simp only [List.cons.injEq, Prod.mk.injEq, and_true] at halves
                exact absurd halves.2.1.symm same
              · rw [List.concat_eq_append, ← List.cons_append, ← List.append_assoc] at split
                exact ⟨before, owner, rest, (List.append_inj' split rfl).1, index⟩
      · constructor
        · intro _ before owner after split
          exact absurd (by simp [split]) unseen
        · intro _
          simp

theorem updateMeasurementSeries_spec (seen : List (String × String)) (builder : ModelBuilder)
    (idx : Nat) (step : TestStepModel) (seriesId : String)
    (update : MeasurementSeriesModel → MeasurementSeriesModel) (indexed : Indexed seen builder)
    (place : builder.model.testSteps[idx]? = some step) :
    (InPlace seen step.testStepId seriesId →
      ∃ next, builder.updateMeasurementSeries idx seriesId update = .ok next ∧
        Indexed (if seriesId ∈ seen.map (·.1) then seen
          else seen ++ [(seriesId, step.testStepId)]) next) ∧
    (¬ InPlace seen step.testStepId seriesId →
      builder.updateMeasurementSeries idx seriesId update = .undefined) := by
  obtain ⟨seriesIdx, middle, step', found, indexed', place', _, fits⟩ :=
    getMeasurementSeriesIdx_spec seen builder idx step seriesId indexed place
  constructor
  · intro inPlace
    obtain ⟨series, seriesPlace⟩ : ∃ series, step'.measurementSeries[seriesIdx]? = some series :=
      ⟨_, List.getElem?_eq_getElem (fits.mpr inPlace)⟩
    simp only [updateMeasurementSeries, found, Outcome.ok_bind, place', seriesPlace]
    exact updateTestStep_spec _ middle idx step' _ indexed' place' rfl (by simp)
  · intro outOfPlace
    have missing : step'.measurementSeries[seriesIdx]? = none :=
      List.getElem?_eq_none (by have := mt fits.mp outOfPlace; omega)
    simp only [updateMeasurementSeries, found, Outcome.ok_bind, place', missing]

/-- An artifact is handled exactly when its series is in place, and the maps stay right. -/
theorem handleTestStepArtifact_spec (seen : List (String × String)) (builder : ModelBuilder)
    (artifact : TestStepArtifact) (indexed : Indexed seen builder) :
    ((∀ seriesId, artifact.artifact.seriesId? = some seriesId →
        InPlace seen artifact.testStepId seriesId) →
      ∃ next, builder.handleTestStepArtifact artifact = .ok next ∧
        Indexed (match artifact.artifact.seriesId? with
          | some seriesId =>
              if seriesId ∈ seen.map (·.1) then seen else seen ++ [(seriesId, artifact.testStepId)]
          | none => seen) next) ∧
    ((∃ seriesId, artifact.artifact.seriesId? = some seriesId ∧
        ¬ InPlace seen artifact.testStepId seriesId) →
      builder.handleTestStepArtifact artifact = .undefined) := by
  obtain ⟨variant, testStepId⟩ := artifact
  obtain ⟨indexed, step, place, rfl⟩ := getTestStepIdx_spec seen builder testStepId indexed
  have plain := fun update named same => updateTestStep_spec seen _ _ step update indexed place
    named same
  have ofSeries := fun seriesId update => updateMeasurementSeries_spec seen _ _ step seriesId update
    indexed place
  cases variant with
  | measurementSeriesStart start =>
      exact ⟨fun all => (ofSeries _ _).1 (all _ rfl),
        fun ⟨seriesId, same, outOfPlace⟩ => (ofSeries _ _).2 (Option.some.inj same ▸ outOfPlace)⟩
  | measurementSeriesElement element =>
      exact ⟨fun all => (ofSeries _ _).1 (all _ rfl),
        fun ⟨seriesId, same, outOfPlace⟩ => (ofSeries _ _).2 (Option.some.inj same ▸ outOfPlace)⟩
  | measurementSeriesEnd seriesEnd =>
      exact ⟨fun all => (ofSeries _ _).1 (all _ rfl),
        fun ⟨seriesId, same, outOfPlace⟩ => (ofSeries _ _).2 (Option.some.inj same ▸ outOfPlace)⟩
  | _ =>
      exact ⟨fun _ => plain _ rfl rfl, fun ⟨_, named, _⟩ => by cases named⟩

theorem handleOutputArtifact_spec (seen : List (String × String)) (builder : ModelBuilder)
    (artifact : OutputArtifact) (indexed : Indexed seen builder) :
    (ArtifactInPlace seen artifact → ∃ next, builder.handleOutputArtifact artifact = .ok next ∧
      Indexed (noteSeries seen artifact) next) ∧
    (¬ ArtifactInPlace seen artifact → builder.handleOutputArtifact artifact = .undefined) := by
  obtain ⟨variant, number, time⟩ := artifact
  cases variant with
  | schemaVersion version =>
      refine ⟨fun _ => ⟨_, rfl, ⟨indexed.steps, indexed.owned, indexed.owners, indexed.series⟩⟩,
        fun outOfPlace => ?_⟩
      exact absurd (fun _ _ named => by cases named) outOfPlace
  | testRunArtifact run =>
      refine ⟨fun _ => ⟨_, rfl, ⟨indexed.steps, indexed.owned, indexed.owners, indexed.series⟩⟩,
        fun outOfPlace => ?_⟩
      exact absurd (fun _ _ named => by cases named) outOfPlace
  | testStepArtifact step =>
      obtain ⟨handled, undefined⟩ := handleTestStepArtifact_spec seen builder step indexed
      constructor
      · intro inPlace
        exact handled fun seriesId ofSeries => inPlace step seriesId rfl ofSeries
      · intro outOfPlace
        refine undefined (Classical.byContradiction fun all => ?_)
        refine outOfPlace fun step' seriesId same ofSeries => ?_
        obtain rfl := OutputVariant.testStepArtifact.inj same
        exact Classical.byContradiction fun missing => all ⟨seriesId, ofSeries, missing⟩

/-- A build from empty maps is undefined exactly when a series is out of place. -/
theorem handleRecords_undefined_iff (protobuf : Protobuf) (records : List Pb.OutputArtifact)
    (seen : List (String × String)) (builder : ModelBuilder) (indexed : Indexed seen builder) :
    builder.handleRecords protobuf records = .undefined ↔
      ¬ SeriesInPlace seen (readable protobuf records) := by
  induction records generalizing seen builder with
  | nil => simp [handleRecords, readable, SeriesInPlace]
  | cons record rest ih =>
      cases converted : OutputArtifact.protoToStruct protobuf record with
      | die message => simp [handleRecords, readable, converted, SeriesInPlace]
      | undefined => exact absurd converted (OutputArtifact.protoToStruct_ne_undefined _ _)
      | ok artifact =>
          obtain ⟨handled, undefined⟩ := handleOutputArtifact_spec seen builder artifact indexed
          simp only [handleRecords, readable, converted, Outcome.ok_bind, SeriesInPlace]
          by_cases inPlace : ArtifactInPlace seen artifact
          · obtain ⟨next, done, indexed'⟩ := handled inPlace
            simp only [done, Outcome.ok_bind, inPlace, true_and]
            exact ih _ next indexed'
          · simp only [undefined inPlace, Outcome.undefined_bind, inPlace, false_and,
              not_false_eq_true]

/-- The id of the first test step artifact. -/
def firstStepId : List OutputArtifact → Option String
  | [] => none
  | artifact :: rest =>
      match artifact.artifact with
      | .testStepArtifact step => some step.testStepId
      | _ => firstStepId rest

theorem updateTestStep_maps (builder next : ModelBuilder) (idx : Nat)
    (update : TestStepModel → TestStepModel) (done : builder.updateTestStep idx update = .ok next) :
    next.testStepIdToIdx = builder.testStepIdToIdx ∧
    next.measurementSeriesIdToIdx = builder.measurementSeriesIdToIdx := by
  unfold updateTestStep at done
  split at done
  · cases done
  · obtain rfl := Outcome.ok.inj done
    exact ⟨rfl, rfl⟩

theorem updateMeasurementSeries_testSteps (builder next : ModelBuilder) (idx : Nat)
    (seriesId : String) (update : MeasurementSeriesModel → MeasurementSeriesModel)
    (done : builder.updateMeasurementSeries idx seriesId update = .ok next) :
    next.testStepIdToIdx = builder.testStepIdToIdx := by
  simp only [updateMeasurementSeries, Outcome.bind_eq_ok] at done
  obtain ⟨⟨seriesIdx, middle⟩, found, done⟩ := done
  have first : middle.testStepIdToIdx = builder.testStepIdToIdx := by
    unfold getMeasurementSeriesIdx at found
    split at found
    · obtain ⟨_, rfl⟩ := Prod.mk.inj (Outcome.ok.inj found)
      rfl
    · split at found
      · cases found
      · simp only [Outcome.bind_eq_ok] at found
        obtain ⟨updated, appended, found⟩ := found
        obtain ⟨_, rfl⟩ := Prod.mk.inj (Outcome.ok.inj found)
        exact (updateTestStep_maps _ _ _ _ appended).1
  split at done
  · cases done
  · split at done
    · cases done
    · rw [(updateTestStep_maps _ _ _ _ done).1, first]

theorem handleTestStepArtifact_testSteps (builder next : ModelBuilder)
    (artifact : TestStepArtifact) (handled : builder.handleTestStepArtifact artifact = .ok next) :
    next.testStepIdToIdx = (builder.getTestStepIdx artifact.testStepId).2.testStepIdToIdx := by
  obtain ⟨variant, testStepId⟩ := artifact
  cases variant with
  | measurementSeriesStart start => exact updateMeasurementSeries_testSteps _ _ _ _ _ handled
  | measurementSeriesElement element => exact updateMeasurementSeries_testSteps _ _ _ _ _ handled
  | measurementSeriesEnd seriesEnd => exact updateMeasurementSeries_testSteps _ _ _ _ _ handled
  | _ => exact (updateTestStep_maps _ _ _ _ handled).1

/-- An id that has an index keeps one, and the id of an artifact that is handled gets one. -/
theorem getTestStepIdx_isSome (builder : ModelBuilder) (testStepId id : String)
    (known : id = testStepId ∨ (builder.testStepIdToIdx.lookup id).isSome) :
    ((builder.getTestStepIdx testStepId).2.testStepIdToIdx.lookup id).isSome := by
  unfold getTestStepIdx
  cases found : builder.testStepIdToIdx.lookup testStepId with
  | some idx =>
      rcases known with rfl | known
      · simp only [found, Option.isSome_some]
      · exact known
  | none =>
      rw [List.lookup_cons]
      rcases known with rfl | known
      · simp
      · split
        · rfl
        · exact known

/-- A build that returns has an index for the first test step, if there is a test step, and
has left the maps alone if there is none. -/
theorem handleRecords_maps (protobuf : Protobuf) (records : List Pb.OutputArtifact)
    (builder next : ModelBuilder) (done : builder.handleRecords protobuf records = .ok next) :
    (∀ id, firstStepId (readable protobuf records) = some id ∨
        (builder.testStepIdToIdx.lookup id).isSome → (next.testStepIdToIdx.lookup id).isSome) ∧
    (firstStepId (readable protobuf records) = none →
      next.testStepIdToIdx = builder.testStepIdToIdx ∧
      next.measurementSeriesIdToIdx = builder.measurementSeriesIdToIdx) := by
  induction records generalizing builder with
  | nil =>
      obtain rfl := Outcome.ok.inj done
      exact ⟨fun id known => known.resolve_left (by simp [readable, firstStepId]),
        fun _ => ⟨rfl, rfl⟩⟩
  | cons record rest ih =>
      simp only [handleRecords, Outcome.bind_eq_ok] at done
      obtain ⟨⟨variant, number, time⟩, converted, middle, handled, done⟩ := done
      obtain ⟨known, unchanged⟩ := ih middle done
      cases variant with
      | testStepArtifact step =>
          have maps := handleTestStepArtifact_testSteps builder middle step handled
          simp only [readable, converted, firstStepId, Option.some.injEq, reduceCtorEq,
            false_implies, and_true]
          intro stepId first
          refine known stepId (Or.inr ?_)
          rw [maps]
          exact getTestStepIdx_isSome builder step.testStepId stepId (first.imp Eq.symm id)
      | testRunArtifact run =>
          obtain rfl := Outcome.ok.inj handled
          simp only [readable, converted, firstStepId]
          exact ⟨known, unchanged⟩
      | schemaVersion version =>
          obtain rfl := Outcome.ok.inj handled
          simp only [readable, converted, firstStepId]
          exact ⟨known, unchanged⟩

/-- An index left over from an earlier build is out of range in the empty model. -/
theorem handleRecords_stale (protobuf : Protobuf) (records : List Pb.OutputArtifact)
    (builder : ModelBuilder) (id : String) (empty : builder.model.testSteps = [])
    (first : firstStepId (readable protobuf records) = some id)
    (stale : (builder.testStepIdToIdx.lookup id).isSome) :
    builder.handleRecords protobuf records = .undefined := by
  induction records generalizing builder with
  | nil => simp [readable, firstStepId] at first
  | cons record rest ih =>
      cases converted : OutputArtifact.protoToStruct protobuf record with
      | die message => simp [readable, converted, firstStepId] at first
      | undefined => exact absurd converted (OutputArtifact.protoToStruct_ne_undefined _ _)
      | ok artifact =>
          obtain ⟨variant, number, time⟩ := artifact
          simp only [readable, converted, firstStepId] at first
          simp only [handleRecords, converted, Outcome.ok_bind]
          cases variant with
          | testRunArtifact run =>
              exact ih (builder.handleTestRunArtifact run) empty first stale
          | schemaVersion version => exact ih _ empty first stale
          | testStepArtifact step =>
              obtain ⟨variant, testStepId⟩ := step
              obtain rfl := Option.some.inj first
              obtain ⟨idx, found⟩ := Option.isSome_iff_exists.mp stale
              have undefined : builder.handleTestStepArtifact ⟨variant, testStepId⟩ = .undefined := by
                have series : ∀ seriesId update,
                    builder.updateMeasurementSeries idx seriesId update = .undefined := by
                  intro seriesId update
                  simp only [updateMeasurementSeries, getMeasurementSeriesIdx, empty,
                    List.getElem?_nil]
                  split <;> simp [empty]
                have plain : ∀ update, builder.updateTestStep idx update = .undefined := by
                  intro update
                  simp only [updateTestStep, empty, List.getElem?_nil]
                simp only [handleTestStepArtifact, getTestStepIdx, found]
                cases variant with
                | measurementSeriesStart start => exact series _ _
                | measurementSeriesElement element => exact series _ _
                | measurementSeriesEnd seriesEnd => exact series _ _
                | _ => exact plain _
              simp only [handleOutputArtifact, undefined, Outcome.undefined_bind]

theorem firstStepId_readable_append (protobuf : Protobuf) (records : List Pb.OutputArtifact)
    (record : Pb.OutputArtifact) (id : String)
    (first : firstStepId (readable protobuf records) = some id) :
    firstStepId (readable protobuf (records ++ [record])) = some id := by
  induction records with
  | nil => simp [readable, firstStepId] at first
  | cons head rest ih =>
      simp only [List.cons_append, readable] at first ⊢
      cases converted : OutputArtifact.protoToStruct protobuf head with
      | die message => simp [converted, firstStepId] at first
      | undefined => simp [converted, firstStepId] at first
      | ok artifact =>
          obtain ⟨variant, number, time⟩ := artifact
          simp only [converted] at first ⊢
          cases variant with
          | testStepArtifact step => exact first
          | testRunArtifact run => exact ih first
          | schemaVersion version => exact ih first

end ModelBuilder

namespace OutputReceiver

/-- The maps are empty, or know the first test step of the file. -/
def MapsFromFile (protobuf : Protobuf) (receiver : OutputReceiver) : Prop :=
  (receiver.testStepIdToIdx = [] ∧ receiver.measurementSeriesIdToIdx = []) ∨
  ∃ id, ModelBuilder.firstStepId (readable protobuf receiver.container) = some id ∧
    (receiver.testStepIdToIdx.lookup id).isSome

theorem buildModel_eq_ok (protobuf : Protobuf) (receiver next : OutputReceiver)
    (model : OutputModel) (built : receiver.buildModel protobuf = .ok (model, next)) :
    ∃ builder, ModelBuilder.handleRecords protobuf
        ⟨{}, receiver.testStepIdToIdx, receiver.measurementSeriesIdToIdx⟩ receiver.container =
          .ok builder ∧
      next = { receiver with
        model := some builder.model
        testStepIdToIdx := builder.testStepIdToIdx
        measurementSeriesIdToIdx := builder.measurementSeriesIdToIdx } := by
  simp only [buildModel, getOutputContainer, Outcome.bind_eq_ok] at built
  obtain ⟨_, ⟨_, _, returned⟩, builder, handled, built⟩ := built
  obtain rfl := Outcome.ok.inj returned
  exact ⟨builder, handled, (Prod.mk.inj (Outcome.ok.inj built)).2.symm⟩

/-- A model that is kept is returned, and else one is built. -/
theorem step_getOutputModel {protobuf : Protobuf} {receiver next : OutputReceiver}
    (stepped : step protobuf receiver .getOutputModel = some next) :
    next = receiver ∨ ∃ builder, ModelBuilder.handleRecords protobuf
        ⟨{}, receiver.testStepIdToIdx, receiver.measurementSeriesIdToIdx⟩ receiver.container =
          .ok builder ∧
      next = { receiver with
        model := some builder.model
        testStepIdToIdx := builder.testStepIdToIdx
        measurementSeriesIdToIdx := builder.measurementSeriesIdToIdx } := by
  simp only [step, Outcome.toOption_eq_some, Outcome.map_eq_ok, Prod.exists] at stepped
  obtain ⟨model, after, got, rfl⟩ := stepped
  cases cached : receiver.model with
  | some model =>
      simp only [getOutputModel, cached, Outcome.ok.injEq, Prod.mk.injEq] at got
      exact .inl got.2.symm
  | none =>
      simp only [getOutputModel, cached] at got
      exact .inr (buildModel_eq_ok protobuf receiver _ model got)

theorem step_mapsFromFile (protobuf : Protobuf) (receiver : OutputReceiver)
    (operation : Operation) (next : OutputReceiver) (inv : MapsFromFile protobuf receiver)
    (stepped : step protobuf receiver operation = some next) : MapsFromFile protobuf next := by
  cases operation with
  | makeArtifactWriter =>
      simp only [step, Outcome.toOption_eq_some, makeArtifactWriter, Outcome.bind_eq_ok] at stepped
      obtain ⟨_, _, done⟩ := stepped
      obtain rfl := Outcome.ok.inj done
      exact inv
  | write record =>
      simp only [step, Option.ite_none_right_eq_some, Option.some.injEq] at stepped
      obtain ⟨_, rfl⟩ := stepped
      rcases inv with empty | ⟨id, first, known⟩
      · exact Or.inl empty
      · exact Or.inr ⟨id, ModelBuilder.firstStepId_readable_append _ _ _ _ first, known⟩
  | resetModel =>
      obtain rfl := Option.some.inj stepped
      exact inv
  | getOutputModel =>
      rcases step_getOutputModel stepped with rfl | ⟨builder, handled, rfl⟩
      · exact inv
      · rcases inv with ⟨noSteps, noSeries⟩ | ⟨id, first, known⟩
        · obtain ⟨known, unchanged⟩ := ModelBuilder.handleRecords_maps _ _ _ _ handled
          cases first : ModelBuilder.firstStepId (readable protobuf receiver.container) with
          | none =>
              obtain ⟨sameSteps, sameSeries⟩ := unchanged first
              exact Or.inl ⟨sameSteps.trans noSteps, sameSeries.trans noSeries⟩
          | some id => exact Or.inr ⟨id, first, known id (Or.inl first)⟩
        · rw [ModelBuilder.handleRecords_stale _ _ _ id rfl first known] at handled
          cases handled

/-- What GetOutputModel() returns. -/
def returnedModel (protobuf : Protobuf) (receiver : OutputReceiver) : Outcome OutputModel :=
  (·.1) <$> receiver.getOutputModel protobuf

/-- A newly created receiver on the same file. -/
def fresh (receiver : OutputReceiver) : OutputReceiver where
  container := receiver.container
  writerCreated := receiver.writerCreated

/-- Nothing is in the file before there is a writer. -/
theorem container_of_no_writer (protobuf : Protobuf) (operations : List Operation)
    (receiver : OutputReceiver)
    (reached : Runs.run (step protobuf) {} operations = some receiver) :
    receiver.writerCreated = false → receiver.container = [] := by
  refine Runs.run_preserves (step protobuf)
    (fun receiver => receiver.writerCreated = false → receiver.container = []) ?_ {} receiver
    operations (fun _ => rfl) reached
  intro receiver operation next inv stepped
  cases operation with
  | makeArtifactWriter =>
      simp only [step, Outcome.toOption_eq_some, makeArtifactWriter, Outcome.bind_eq_ok] at stepped
      obtain ⟨_, _, done⟩ := stepped
      obtain rfl := Outcome.ok.inj done
      simp
  | write record =>
      simp only [step, Option.ite_none_right_eq_some, Option.some.injEq] at stepped
      obtain ⟨created, rfl⟩ := stepped
      simp [created]
  | resetModel =>
      obtain rfl := Option.some.inj stepped
      exact inv
  | getOutputModel =>
      rcases step_getOutputModel stepped with rfl | ⟨builder, -, rfl⟩
      · exact inv
      · exact inv

theorem returnedModel_unbuilt (protobuf : Protobuf) (receiver : OutputReceiver)
    (unbuilt : receiver.model = none) (created : receiver.writerCreated = true) :
    receiver.returnedModel protobuf = (·.model) <$> ModelBuilder.handleRecords protobuf
      ⟨{}, receiver.testStepIdToIdx, receiver.measurementSeriesIdToIdx⟩ receiver.container := by
  simp only [returnedModel, getOutputModel, unbuilt, buildModel, getOutputContainer, created,
    check_true, Outcome.ok_bind, Outcome.pure_eq_ok]
  cases ModelBuilder.handleRecords protobuf
    ⟨{}, receiver.testStepIdToIdx, receiver.measurementSeriesIdToIdx⟩ receiver.container <;> rfl

/-- Whenever a receiver builds its model, it builds the same as a new receiver, without an
index out of range, exactly when no earlier build has left an id in its maps and every
series in the file is in place. -/
theorem rebuild_fresh_iff (protobuf : Protobuf) (operations : List Operation)
    (receiver : OutputReceiver)
    (reached : Runs.run (step protobuf) {} operations = some receiver)
    (unbuilt : receiver.model = none) :
    (receiver.returnedModel protobuf = receiver.fresh.returnedModel protobuf ∧
      receiver.returnedModel protobuf ≠ .undefined) ↔
    (receiver.testStepIdToIdx = [] ∧
      SeriesInPlace [] (readable protobuf receiver.container)) := by
  have inv := Runs.run_preserves (step protobuf) (MapsFromFile protobuf)
    (step_mapsFromFile protobuf) {} receiver operations (Or.inl ⟨rfl, rfl⟩) reached
  cases created : receiver.writerCreated with
  | false =>
      have nothing := container_of_no_writer protobuf operations receiver reached created
      have noSteps : receiver.testStepIdToIdx = [] := by
        rcases inv with ⟨noSteps, _⟩ | ⟨id, first, _⟩
        · exact noSteps
        · simp [nothing, readable, ModelBuilder.firstStepId] at first
      simp [returnedModel, getOutputModel, unbuilt, fresh, buildModel, getOutputContainer, created,
        check, noSteps, nothing, readable, SeriesInPlace, Functor.map, Outcome.bind]
  | true =>
      rw [returnedModel_unbuilt protobuf receiver unbuilt created,
        returnedModel_unbuilt protobuf receiver.fresh rfl created]
      rcases inv with ⟨noSteps, noSeries⟩ | ⟨id, first, stale⟩
      · rw [noSteps, noSeries]
        simp only [fresh, true_and, ne_eq, Outcome.map_eq_undefined]
        rw [ModelBuilder.handleRecords_undefined_iff protobuf receiver.container [] _
          ModelBuilder.indexed_fresh, Classical.not_not]
      · rw [ModelBuilder.handleRecords_stale protobuf receiver.container _ id rfl first stale]
        constructor
        · rintro ⟨_, defined⟩
          exact absurd rfl defined
        · rintro ⟨noSteps, _⟩
          simp [noSteps] at stale

/-- A receiver whose file holds the start of a step, after one build and a reset. -/
theorem rebuild_after_step_undefined :
    ∃ receiver, Runs.run (step sampleProtobuf) {}
        [.makeArtifactWriter, .write ⟨.testStepArtifact ⟨.testStepStart ⟨"boot"⟩, "0"⟩, 0, {}⟩,
          .getOutputModel, .resetModel] = some receiver ∧
      receiver.model = none ∧
      receiver.fresh.returnedModel sampleProtobuf =
        .ok { testSteps := [{ testStepId := "0", start := ⟨"boot"⟩ }] } ∧
      receiver.returnedModel sampleProtobuf = .undefined :=
  ⟨_, rfl, rfl, rfl, rfl⟩

/-- The build before the reset has read no step. -/
def sampleOperations : List Operation :=
  [.makeArtifactWriter, .write ⟨.schemaVersion ⟨2, 0⟩, 0, {}⟩, .getOutputModel,
    .write ⟨.testStepArtifact ⟨.testStepStart ⟨"boot"⟩, "0"⟩, 1, {}⟩, .resetModel]

theorem rebuild_fresh_iff_sampleOperations :
    ∃ receiver, Runs.run (step sampleProtobuf) {} sampleOperations = some receiver ∧
      ((receiver.returnedModel sampleProtobuf = receiver.fresh.returnedModel sampleProtobuf ∧
        receiver.returnedModel sampleProtobuf ≠ .undefined) ↔
      (receiver.testStepIdToIdx = [] ∧
        SeriesInPlace [] (readable sampleProtobuf receiver.container))) :=
  ⟨_, rfl, rebuild_fresh_iff sampleProtobuf sampleOperations _ rfl rfl⟩

end OutputReceiver

end OcpDiag.Results
