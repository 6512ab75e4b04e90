import OcpDiag.Results.RoundTrip
import OcpDiag.Results.SeriesFraming

set_option autoImplicit false

/- The alternative that a series settles on. The first of the validators and elements sets
`type_index_`, and each later one is compared with it before its artifact is written. -/
namespace OcpDiag.Results

open ThreadPool

namespace Pb

/-- The alternative of the Variant that a value stands for. -/
def Value.alternative : Value → Option Int
  | .stringValue _ => some 0
  | .numberValue _ => some 1
  | .boolValue _ => some 2
  | _ => none

/-- The values of a validator, which are encoded as a list unless there is one. -/
def Validator.values (validator : Validator) : List Value :=
  match validator.value with
  | .notSet => []
  | .listValue values => values
  | value => [value]

/-- Every value of the artifact holds the alternative. -/
def TestStepVariant.Holds (index : Int) : TestStepVariant → Prop
  | .measurementSeriesStart proto =>
      ∀ validator ∈ proto.validators, ∀ value ∈ validator.values, value.alternative = some index
  | .measurementSeriesElement proto => proto.value.alternative = some index
  | _ => True

theorem Value.alternative_ne_unset (value : Value) : value.alternative ≠ some (-1) := by
  cases value <;> simp [alternative]

/-- What holds the alternative of a series without one holds nothing. -/
theorem TestStepVariant.Holds.of_unset {variant : TestStepVariant} (holds : variant.Holds (-1))
    (index : Int) : variant.Holds index := by
  cases variant with
  | measurementSeriesStart proto =>
      intro validator member value isValue
      exact absurd (holds validator member value isValue) value.alternative_ne_unset
  | measurementSeriesElement proto => exact absurd holds proto.value.alternative_ne_unset
  | _ => trivial

end Pb

@[simp] theorem alternative_variantToProto (value : Variant) :
    (variantToProto value).alternative = some value.index := by
  cases value <;> rfl

theorem Variant.index_ne_unset (value : Variant) : value.index ≠ -1 := by
  cases value <;> simp [index]

theorem Validator.values_structToProto (validator : Validator) :
    validator.structToProto.values = validator.value.map variantToProto := by
  obtain ⟨type, value, name⟩ := validator
  cases value with
  | nil => rfl
  | cons first rest =>
      cases rest with
      | nil => cases first <;> rfl
      | cons second rest => rfl

/-- The validators of a valid start agree with the first value of the first of them. -/
theorem MeasurementSeriesStart.same_type {start : MeasurementSeriesStart} {validator : Validator}
    {rest : List Validator} {first : Variant} (valid : start.validateStructOrDie = .ok ())
    (validators : start.validators = validator :: rest)
    (isFirst : firstValue validator.value = .ok first) :
    ∀ other ∈ start.validators, ∀ value ∈ other.value, value.index = first.index := by
  have wellFormed := start.validateStructOrDie_eq_ok.mp valid
  intro other member value isValue
  cases values : validator.value with
  | nil =>
      rw [values] at isFirst
      cases isFirst
  | cons head others =>
      rw [values] at isFirst
      obtain rfl := Outcome.ok.inj isFirst
      exact wellFormed.sameType other member value isValue validator (by simp [validators]) head
        (by simp [values])

namespace MeasurementSeries

variable {protobuf : Protobuf} {series next : MeasurementSeries} {ref : SeriesRef}

/-- The start that the constructor writes holds the alternative that it has set. -/
theorem construct_holds {start : MeasurementSeriesStart} {proto : Pb.MeasurementSeriesStart}
    (built : series.construct protobuf ref start = .ok (next, proto)) :
    (Pb.TestStepVariant.measurementSeriesStart proto).Holds next.typeIndex ∧
    (series.typeIndex = -1 ∨ next.typeIndex = series.typeIndex) := by
  obtain ⟨converted, conversion, rfl⟩ := construct_proto built
  simp only [MeasurementSeriesStart.structToProto, Outcome.bind_eq_ok, Outcome.pure_eq_ok,
    Outcome.ok.injEq] at conversion
  obtain ⟨_, _, rfl⟩ := conversion
  simp only [construct, Outcome.bind_eq_ok] at built
  obtain ⟨_, valid, built⟩ := built
  cases validators : start.validators with
  | nil =>
      simp only [validators, Outcome.pure_eq_ok, Outcome.ok_bind, Outcome.bind_eq_ok,
        Outcome.ok.injEq, Prod.mk.injEq] at built
      obtain ⟨_, _, rfl, _⟩ := built
      refine ⟨?_, Or.inr rfl⟩
      intro validator member
      cases member
  | cons validator rest =>
      simp only [validators, Outcome.bind_eq_ok, Outcome.pure_eq_ok, Outcome.ok.injEq,
        Prod.mk.injEq] at built
      obtain ⟨first, isFirst, _, checked, _, _, rfl, _⟩ := built
      obtain ⟨rfl, access⟩ := setAndCheckSeriesType_eq_ok checked
      refine ⟨?_, access.imp id Eq.symm⟩
      intro other member value isValue
      rw [← validators] at member
      obtain ⟨original, isOriginal, rfl⟩ := List.mem_map.mp member
      rw [Validator.values_structToProto] at isValue
      obtain ⟨source, isSource, rfl⟩ := List.mem_map.mp isValue
      rw [alternative_variantToProto,
        MeasurementSeriesStart.same_type valid validators isFirst original isOriginal source isSource]

theorem drawElement_value {element : MeasurementSeriesElement} {now : Pb.Timestamp}
    {proto : Pb.MeasurementSeriesElement}
    (drawn : series.drawElement protobuf ref element now = .ok (next, proto)) :
    proto.value.alternative = some element.value.index := by
  simp only [drawElement, MeasurementSeriesElement.structToProto, Outcome.bind_eq_ok, Prod.exists,
    Outcome.pure_eq_ok, Outcome.ok.injEq, Prod.mk.injEq] at drawn
  obtain ⟨_, ⟨_, _, rfl⟩, _, _, _, _, rfl⟩ := drawn
  rw [← alternative_variantToProto]
  split <;> rfl

/-- The artifacts of a series hold its alternative. -/
structure Typed (series : MeasurementSeries) (trace : List Pb.TestStepVariant) : Prop where
  unborn : series.lifetime = .unborn → series.typeIndex = -1
  holds : ∀ variant ∈ trace, variant.Holds series.typeIndex

/-- What a thread knows of the alternative once it has compared its element with it. -/
def Frame.Types (series : MeasurementSeries) (seriesId : String) : Frame → Prop
  | .drawIndex element _ => element.value.index = series.typeIndex
  | .lockElement element | .checkElement element | .emitElement element =>
      element.measurementSeriesId = seriesId ∧
        element.value.alternative = some series.typeIndex
  | _ => True

variable {thread : ThreadId} {stepMutex : Option ThreadId} {stepEnded : Bool} {frame : Frame}
  {request : Request} {rest : Continue Frame} {trace : List Pb.TestStepVariant}

theorem Frame.Types.carries {seriesId : String} (types : frame.Types series seriesId)
    (element : Pb.MeasurementSeriesElement) (emits : frame = .emitElement element) :
    element.measurementSeriesId = seriesId := by
  subst emits
  exact types.1

theorem Frame.Types.of_same {seriesId : String} (types : frame.Types series seriesId)
    (same : series.typeIndex = -1 ∨ next.typeIndex = series.typeIndex) :
    frame.Types next seriesId := by
  have settled : ∀ index, some index = some series.typeIndex → index ≠ -1 →
      next.typeIndex = series.typeIndex := by
    intro index isType known
    rcases same with unset | same
    · exact absurd ((Option.some.inj isType).trans unset) known
    · exact same
  cases frame with
  | drawIndex element now =>
      exact types.trans (settled _ (congrArg some types) element.value.index_ne_unset).symm
  | lockElement element | checkElement element | emitElement element =>
      refine ⟨types.1, types.2.trans (congrArg some (settled _ rfl fun unset => ?_).symm)⟩
      exact element.value.alternative_ne_unset (unset ▸ types.2)
  | _ => trivial

/-- The artifacts hold what the series settles on, when it settles. -/
theorem Typed.settle (typed : series.Typed trace)
    (unborn : next.lifetime = .unborn → series.lifetime = .unborn ∧
      next.typeIndex = series.typeIndex)
    (same : series.typeIndex = -1 ∨ next.typeIndex = series.typeIndex) : next.Typed trace := by
  refine ⟨fun isUnborn => ?_, fun variant member => ?_⟩
  · rw [(unborn isUnborn).2]
    exact typed.unborn (unborn isUnborn).1
  · have holds := typed.holds variant member
    rcases same with unset | same
    · rw [unset] at holds
      exact holds.of_unset _
    · rwa [same]

theorem Typed.snoc {variant : Pb.TestStepVariant} (typed : series.Typed trace)
    (holds : variant.Holds series.typeIndex) : series.Typed (trace ++ [variant]) := by
  refine ⟨typed.unborn, fun other member => ?_⟩
  rcases List.mem_append.mp member with before | last
  · exact typed.holds other before
  · obtain rfl := List.mem_singleton.mp last
    exact holds

/-- The alternative is set once. -/
theorem advances_typeIndex
    (advances : Advances protobuf series ref thread stepMutex stepEnded frame next request rest) :
    series.typeIndex = -1 ∨ next.typeIndex = series.typeIndex := by
  cases advances with
  | emitStart start built proto constructs => exact (construct_holds constructs).2
  | checkType element now _ free checked =>
      obtain ⟨rfl, access⟩ := setAndCheckSeriesType_eq_ok checked
      exact access.imp id Eq.symm
  | drawIndex element now _ proto drawn =>
      obtain ⟨rfl, _⟩ := drawElement_eq_ok drawn
      exact Or.inr rfl
  | endAgain destroy => cases destroy <;> exact Or.inr rfl
  | emitEnd totalCount destroy => cases destroy <;> exact Or.inr rfl
  | _ => exact Or.inr rfl

theorem advances_typed (placed : frame.Placed series thread) (typed : series.Typed trace)
    (types : frame.Types series (strCat ref))
    (advances : Advances protobuf series ref thread stepMutex stepEnded frame next request rest) :
    next.Typed (trace ++ request.toSeries (strCat ref)) := by
  have born : next.lifetime = .unborn → series.lifetime = .unborn ∧
      next.typeIndex = series.typeIndex := by
    intro unborn
    have keeps := (advances_keeps placed advances).lifetime
    cases constructs : frame.constructs with
    | false =>
        have constructed := keeps.constructed (placed.constructed constructs)
        rw [unborn] at constructed
        cases constructed
    | true =>
        have mine := placed.constructing constructs
        cases advances with
        | emitStart => cases unborn
        | _ => first | (rw [mine] at unborn; cases unborn) | cases constructs
  have settled := typed.settle born (advances_typeIndex advances)
  cases advances with
  | emitStart start built proto constructs =>
      have carries : (Pb.TestStepVariant.measurementSeriesStart proto).seriesId = some (strCat ref) :=
        congrArg some (construct_eq_ok constructs).2
      rw [toSeries_artifact _ _ _ carries]
      exact settled.snoc (construct_holds constructs).1
  | emitElement element =>
      have carries : (Pb.TestStepVariant.measurementSeriesElement element).seriesId =
          some (strCat ref) := congrArg some types.1
      rw [toSeries_artifact _ _ _ carries]
      exact settled.snoc types.2
  | emitEnd totalCount destroy =>
      rw [toSeries_artifact _ _ _ rfl]
      exact settled.snoc trivial
  | _ =>
      simp only [Request.toSeries, Request.written, List.filterMap_nil, List.append_nil]
      exact settled

theorem advances_types {after : Frame} (types : frame.Types series (strCat ref))
    (advances : Advances protobuf series ref thread stepMutex stepEnded frame next request
      (.next after)) : after.Types next (strCat ref) := by
  cases advances with
  | checkType element now _ free checked =>
      obtain ⟨rfl, _⟩ := setAndCheckSeriesType_eq_ok checked
      exact rfl
  | drawIndex element now _ proto drawn =>
      obtain ⟨same, _, carries⟩ := drawElement_eq_ok drawn
      refine ⟨carries, (drawElement_value drawn).trans (congrArg some ?_)⟩
      rw [same]
      exact types
  | lockElement element => exact types
  | checkElement element => exact types
  | _ => trivial

end MeasurementSeries

namespace Process

def SeriesTyped (process : Process) : Prop :=
  ∀ ref, (process.series ref).Typed (process.seriesArtifacts (strCat ref))

def TypeKnown (process : Process) : Frame → Prop
  | .series ref frame => frame.Types (process.series ref) (strCat ref)
  | _ => True

/-- A series that has settled on an alternative stays with it. -/
def KeepsType (_thread : ThreadId) (before after : Process) : Prop :=
  ∀ ref, ref < before.run.measurementSeriesId.count →
    (before.series ref).typeIndex = -1 ∨ (after.series ref).typeIndex = (before.series ref).typeIndex

section

variable {settings : Settings} {thread : ThreadId} {process next : Process} {label : Label}

theorem seriesTyped_of_same (typed : process.SeriesTyped)
    (artifacts : ∀ seriesId, next.seriesArtifacts seriesId = process.seriesArtifacts seriesId)
    (series : next.series = process.series) : next.SeriesTyped := by
  intro ref
  rw [artifacts, series]
  exact typed ref

theorem keepsType_of_same (thread : ThreadId) (series : next.series = process.series) :
    KeepsType thread process next := by
  intro ref _
  rw [series]
  exact Or.inr rfl

theorem begins_seriesTyped {now : Pb.Timestamp} {call : Call} {frame : Frame}
    (allocated : process.Allocated) (typed : process.SeriesTyped)
    (begins : Begins settings thread now process call next frame) :
    next.SeriesTyped ∧ next.TypeKnown frame ∧ KeepsType thread process next := by
  have artifacts : ∀ seriesId,
      next.seriesArtifacts seriesId = process.seriesArtifacts seriesId := by
    intro seriesId
    simp only [seriesArtifacts, Process.artifacts, (begins_sameRecord _ _ _ _ _ _ _ begins).stream]
  cases begins with
  | newMeasurementSeries testStep start live =>
      have unborn : (process.series process.run.measurementSeriesId.count).lifetime = .unborn := by
        by_contra born
        exact Nat.lt_irrefl _ (allocated.series _ born)
      refine ⟨fun ref => ?_, trivial, fun ref below => Or.inr ?_⟩
      · rw [artifacts]
        by_cases new : ref = process.run.measurementSeriesId.count
        · subst new
          refine (typed process.run.measurementSeriesId.count).settle ?_
            (Or.inl ((typed _).unborn unborn))
          simp only [setSeries, Function.update_self, reduceCtorEq, false_implies]
        · simp only [setSeries, ne_eq, new, not_false_eq_true, Function.update_of_ne]
          exact typed ref
      · simp only [setSeries, ne_eq, Nat.ne_of_lt below, not_false_eq_true, Function.update_of_ne]
  | deleteMeasurementSeries ref live =>
      refine ⟨fun other => ?_, trivial, fun other below => Or.inr ?_⟩
      · rw [artifacts]
        by_cases self : other = ref
        · subst self
          refine (typed other).settle ?_ (Or.inr ?_)
          · simp only [setSeries, Function.update_self, reduceCtorEq, false_implies]
          · simp only [setSeries, Function.update_self]
        · simp only [setSeries, ne_eq, self, not_false_eq_true, Function.update_of_ne]
          exact typed other
      · by_cases self : other = ref
        · subst self
          simp only [setSeries, Function.update_self]
        · simp only [setSeries, ne_eq, self, not_false_eq_true, Function.update_of_ne]
  | onSeries call ref entered entry live =>
      refine ⟨typed, ?_, keepsType_of_same thread rfl⟩
      cases call with
      | _ =>
          cases entry
          all_goals trivial
  | _ =>
      exact ⟨seriesTyped_of_same typed artifacts rfl, trivial, keepsType_of_same thread rfl⟩

theorem series_seriesTyped {ref : SeriesRef} {frame : MeasurementSeries.Frame}
    {series : MeasurementSeries} {request : Request} {rest : Continue MeasurementSeries.Frame}
    (placed : process.Placed thread (.series ref frame)) (typed : process.SeriesTyped)
    (known : process.TypeKnown (.series ref frame))
    (advances : (process.series ref).Advances settings.protobuf ref thread
      (process.steps (process.series ref).testStep).mutex
      (process.steps (process.series ref).testStep).ended frame series request rest)
    (performed : process.perform settings .series label.now request = .ok next) :
    (next.setSeries ref series).SeriesTyped ∧
    (next.setSeries ref series).TypeKnown (rest.toFrame (.series ref)) ∧
    KeepsType thread process (next.setSeries ref series) := by
  have same := (perform_spec _ _ _ _ _ _ performed).1
  have artifacts := seriesArtifacts_perform performed
  refine ⟨fun other => ?_, ?_, fun other _ => ?_⟩
  · show ((next.setSeries ref series).series other).Typed (next.seriesArtifacts (strCat other))
    rw [artifacts]
    by_cases self : other = ref
    · subst self
      simpa only [setSeries, Function.update_self] using
        MeasurementSeries.advances_typed placed.2 (typed other) known advances
    · have different : strCat ref ≠ strCat other := fun same => self (strCat_injective same).symm
      simp only [setSeries, ne_eq, self, not_false_eq_true, Function.update_of_ne, same.series,
        MeasurementSeries.toSeries_other (MeasurementSeries.Frame.Types.carries known) _ different
          advances, List.append_nil]
      exact typed other
  · cases rest with
    | next after =>
        show after.Types ((next.setSeries ref series).series ref) (strCat ref)
        simpa only [setSeries, Function.update_self] using
          MeasurementSeries.advances_types known advances
    | _ => trivial
  · by_cases self : other = ref
    · subst self
      simpa only [setSeries, Function.update_self] using
        MeasurementSeries.advances_typeIndex advances
    · simp only [setSeries, ne_eq, self, not_false_eq_true, Function.update_of_ne, same.series]
      exact Or.inr trivial

theorem moves_seriesTyped {frame after : Frame} (allocated : process.Allocated)
    (placed : process.Placed thread frame) (typed : process.SeriesTyped)
    (known : process.TypeKnown frame)
    (moves : Moves settings thread process label frame next after) :
    next.SeriesTyped ∧ next.TypeKnown after ∧ KeepsType thread process next := by
  cases moves with
  | log _ severity message _ delivered =>
      have same := deliver_same delivered
      refine ⟨seriesTyped_of_same typed (seriesArtifacts_deliver delivered) same.series, ?_,
        keepsType_of_same thread same.series⟩
      cases frame with
      | series ref frame => simpa only [TypeKnown, same.series] using known
      | _ => trivial
  | call call _ _ _ begins => exact begins_seriesTyped allocated typed begins
  | run frame run request rest performed _ _ advances perform =>
      have same := (perform_spec _ _ _ _ _ _ perform).1
      refine ⟨seriesTyped_of_same typed (fun seriesId => ?_) same.series, ?_,
        keepsType_of_same thread same.series⟩
      · have added := seriesArtifacts_perform perform seriesId
        rwa [TestRun.toSeries_nil _ advances, List.append_nil] at added
      · cases rest <;> trivial
  | step ref frame step request rest performed _ _ advances perform =>
      have same := (perform_spec _ _ _ _ _ _ perform).1
      refine ⟨seriesTyped_of_same typed (fun seriesId => ?_) same.series, ?_,
        keepsType_of_same thread same.series⟩
      · have added := seriesArtifacts_perform perform seriesId
        rwa [TestStep.toSeries_nil _ advances, List.append_nil] at added
      · cases rest <;> trivial
  | series ref frame series request rest performed _ _ _ advances perform =>
      exact series_seriesTyped placed typed known advances perform
  | dying message _ delivered =>
      have same := deliver_same delivered
      exact ⟨seriesTyped_of_same typed (seriesArtifacts_deliver delivered) same.series, trivial,
        keepsType_of_same thread same.series⟩
  | aborting =>
      exact ⟨seriesTyped_of_same typed (fun _ => rfl) rfl, trivial, keepsType_of_same thread rfl⟩
  | _ => exact ⟨typed, trivial, keepsType_of_same thread rfl⟩

end

/-- The alternatives of the series, in every state. -/
structure TypesSound (pool : Pool Process Frame) : Prop where
  held : MutexesHeld pool
  outline : Outline SeriesTyped (fun process _ frame => process.TypeKnown frame) pool

theorem typesSound_initial (testRunStart : TestRunStart) :
    TypesSound (initialPool testRunStart) := by
  refine ⟨mutexesHeld_initial testRunStart, fun ref => ⟨fun _ => rfl, fun variant member => ?_⟩,
    fun _ => trivial⟩
  cases member

theorem typesSound_step (settings : Settings) (pool : Pool Process Frame)
    (label : ThreadId × Label) (final : Pool Process Frame) (sound : TypesSound pool)
    (stepped : systemStep settings pool label = some final) : TypesSound final := by
  refine ⟨mutexesHeld_step settings pool final label sound.held stepped, ?_⟩
  refine outline_of_moves KeepsType sound.held sound.outline stepped ?_ ?_
  · intro next after moves
    exact moves_seriesTyped sound.held.shared (sound.held.threads label.1) sound.outline.shared
      (sound.outline.threads label.1) moves
  · intro next thread different kept types placed known
    cases here : pool.frames thread with
    | series ref frame =>
        rw [here] at placed known
        exact MeasurementSeries.Frame.Types.of_same known (types ref placed.1)
    | _ => trivial

end Process

/-- In every run, the elements of a series and the values of its validators hold one
alternative. -/
theorem series_homogeneous (settings : Settings) (testRunStart : TestRunStart)
    (labels : List (ThreadId × Label)) (final : Pool Process Frame)
    (reached : Runs.run (systemStep settings) (initialPool testRunStart) labels = some final)
    (ref : SeriesRef) :
    ∃ alternative,
      (∀ element, .measurementSeriesElement element ∈ final.shared.seriesArtifacts (strCat ref) →
        element.value.alternative = some alternative) ∧
      (∀ start, .measurementSeriesStart start ∈ final.shared.seriesArtifacts (strCat ref) →
        ∀ validator ∈ start.validators, ∀ value ∈ validator.values,
          value.alternative = some alternative) := by
  have sound := Runs.run_preserves (systemStep settings) Process.TypesSound
    (Process.typesSound_step settings) _ final labels (Process.typesSound_initial testRunStart)
    reached
  have typed := sound.outline.shared ref
  exact ⟨(final.shared.series ref).typeIndex, fun element member => typed.holds _ member,
    fun start member => typed.holds _ member⟩

/-- Thread 0 adds an element of another alternative than thread 1, and dies. -/
def twoTypes : List (ThreadId × Label) :=
  sampleStart ++ callLabels 0 (.newTestStep "fans") 2 ++
    callLabels 0 (.newMeasurementSeries 0
      { name := "spinning", validators := [{ type := .equal, value := [.bool true] }] }) 2 ++
    callLabels 1 (.addElement 0 { value := .bool true }) 1 ++
    callLabels 0 (.addElement 0 { value := .string "fast" }) 0 ++
    List.replicate 4 (1, { action := .advance }) ++ [(0, { action := .advance })]

theorem series_homogeneous_twoTypes :
    ∃ final, Runs.run (systemStep sampleSettings) (initialPool sampleTestRunStart) twoTypes =
        some final ∧
      final.shared.seriesArtifacts "0" = [
        .measurementSeriesStart {
          measurementSeriesId := "0"
          name := "spinning"
          validators := [{ type := .EQUAL, value := .boolValue true }] },
        .measurementSeriesElement { measurementSeriesId := "0", value := .boolValue true }] ∧
      ∃ alternative,
        (∀ element, .measurementSeriesElement element ∈ final.shared.seriesArtifacts "0" →
          element.value.alternative = some alternative) ∧
        (∀ start, .measurementSeriesStart start ∈ final.shared.seriesArtifacts "0" →
          ∀ validator ∈ start.validators, ∀ value ∈ validator.values,
            value.alternative = some alternative) :=
  ⟨_, rfl, rfl, series_homogeneous sampleSettings sampleTestRunStart twoTypes _ rfl 0⟩

end OcpDiag.Results
