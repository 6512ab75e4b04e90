import OcpDiag.Lib.Tickets
import OcpDiag.Results.Mutexes

set_option autoImplicit false

/- The artifacts of one series. AddElement() draws the index of an element before it has the
series' mutex, and End() draws the total count from the same counter. -/
namespace OcpDiag.Results

open ThreadPool

namespace Pb

def TestStepVariant.seriesId : TestStepVariant → Option String
  | .measurementSeriesStart proto => some proto.measurementSeriesId
  | .measurementSeriesElement proto => some proto.measurementSeriesId
  | .measurementSeriesEnd proto => some proto.measurementSeriesId
  | _ => none

/-- The content of an artifact that carries the series id. -/
def OutputVariant.ofSeries (seriesId : String) : OutputVariant → Option TestStepVariant
  | .testStepArtifact proto =>
      if proto.artifact.seriesId = some seriesId then some proto.artifact else none
  | _ => none

end Pb

/-- The indices are 0, 1, 2 and so on. -/
def Counting (elements : List Pb.MeasurementSeriesElement) : Prop :=
  elements.map (·.index) = (List.range elements.length).map fun position : Nat => (position : Int)

/-- A prefix of a start, elements that count from 0, and an end with their number. -/
def Framed (seriesId : String) (trace : List Pb.TestStepVariant) : Prop :=
  ∃ start elements, Counting elements ∧
    trace <+: .measurementSeriesStart start :: elements.map .measurementSeriesElement ++
      [.measurementSeriesEnd ⟨seriesId, elements.length⟩]

/-- A start and the elements 0 to `count - 1`. -/
def Body (trace : List Pb.TestStepVariant) (count : Nat) : Prop :=
  ∃ start elements, trace = .measurementSeriesStart start :: elements.map .measurementSeriesElement ∧
    elements.length = count ∧ Counting elements

theorem framed_nil (seriesId : String) : Framed seriesId [] :=
  ⟨{}, [], rfl, List.nil_prefix⟩

theorem Body.framed {trace : List Pb.TestStepVariant} {count : Nat} (body : Body trace count)
    (seriesId : String) : Framed seriesId trace := by
  obtain ⟨start, elements, rfl, _, counting⟩ := body
  exact ⟨start, elements, counting, List.prefix_append _ _⟩

theorem Body.framed_end {trace : List Pb.TestStepVariant} {count : Nat} (body : Body trace count)
    (seriesId : String) : Framed seriesId (trace ++ [.measurementSeriesEnd ⟨seriesId, count⟩]) := by
  obtain ⟨start, elements, rfl, rfl, counting⟩ := body
  exact ⟨start, elements, counting, List.prefix_refl _⟩

theorem body_start (start : Pb.MeasurementSeriesStart) : Body ([] ++ [.measurementSeriesStart start]) 0 :=
  ⟨start, [], rfl, rfl, rfl⟩

theorem counting_snoc (elements : List Pb.MeasurementSeriesElement)
    (element : Pb.MeasurementSeriesElement) :
    Counting (elements ++ [element]) ↔ Counting elements ∧ element.index = elements.length := by
  simp only [Counting, List.map_append, List.map_cons, List.map_nil, List.length_append,
    List.length_cons, List.length_nil, Nat.zero_add, List.range_succ]
  constructor
  · intro same
    obtain ⟨init, last⟩ := List.append_inj' same rfl
    exact ⟨init, List.head_eq_of_cons_eq last⟩
  · rintro ⟨init, last⟩
    rw [init, last]

theorem Body.snoc {trace : List Pb.TestStepVariant} {count : Nat} (body : Body trace count)
    (element : Pb.MeasurementSeriesElement) (next : element.index = count) :
    Body (trace ++ [.measurementSeriesElement element]) (count + 1) := by
  obtain ⟨start, elements, rfl, rfl, counting⟩ := body
  exact ⟨start, elements ++ [element], by simp, by simp,
    (counting_snoc _ _).mpr ⟨counting, next⟩⟩

/-- What the last artifact of a body is. -/
theorem Body.last {trace : List Pb.TestStepVariant} {variant : Pb.TestStepVariant} {count : Nat}
    (body : Body (trace ++ [variant]) count) :
    (trace = [] ∧ count = 0) ∨ ∃ element earlier, variant = .measurementSeriesElement element ∧
      count = earlier + 1 ∧ Body trace earlier ∧ element.index = earlier := by
  obtain ⟨start, elements, same, rfl, counting⟩ := body
  rcases List.eq_nil_or_concat elements with rfl | ⟨rest, element, rfl⟩
  · refine Or.inl ⟨?_, rfl⟩
    have length := congrArg List.length same
    simpa using length
  · refine Or.inr ⟨element, rest.length, ?_⟩
    rw [List.concat_eq_append] at same counting ⊢
    rw [List.map_append, ← List.cons_append] at same
    obtain ⟨init, last⟩ := List.append_inj' same rfl
    obtain ⟨earlier, index⟩ := (counting_snoc _ _).mp counting
    exact ⟨List.head_eq_of_cons_eq last, by simp, ⟨start, rest, init, rfl, earlier⟩, index⟩

/-- A trace has one number of elements. -/
theorem Body.unique {trace : List Pb.TestStepVariant} {first second : Nat}
    (one : Body trace first) (two : Body trace second) : first = second := by
  obtain ⟨_, elements, rfl, rfl, _⟩ := one
  obtain ⟨_, others, same, rfl, _⟩ := two
  have length := congrArg List.length same
  simpa using length

/-- What a request adds to the artifacts of a series. -/
def Request.toSeries (seriesId : String) (request : Request) : List Pb.TestStepVariant :=
  request.written.filterMap (·.ofSeries seriesId)

namespace MeasurementSeries

/-- The index that a thread has drawn and not written yet. -/
def Frame.drawn : Frame → Option Nat
  | .lockElement element | .checkElement element | .emitElement element =>
      some element.index.toNat
  | _ => none

/-- The element carries the id of the series and an index from its counter. -/
def Fits (seriesId : String) (element : Pb.MeasurementSeriesElement) : Prop :=
  element.measurementSeriesId = seriesId ∧ ∃ index : Nat, element.index = index

structure Ordered (series : MeasurementSeries) (seriesId : String)
    (trace : List Pb.TestStepVariant) : Prop where
  fresh : series.lifetime.constructed = false → trace = [] ∧ series.elementCount.count = 0
  running : series.lifetime.constructed = true → series.ended = false → ∃ count, Body trace count
  framed : Framed seriesId trace

def Frame.Knows (series : MeasurementSeries) (seriesId : String)
    (trace : List Pb.TestStepVariant) : Frame → Prop
  | .lockElement element | .checkElement element => Fits seriesId element
  | .emitElement element => Fits seriesId element ∧ series.ended = false
  | .checkStepEnded _ => series.ended = false
  | .drawTotalCount _ => series.ended = true ∧ ∃ count, Body trace count
  | .emitEnd totalCount _ => series.ended = true ∧ Body trace totalCount
  | _ => True

theorem Frame.Knows.of_same {series next : MeasurementSeries} {seriesId : String}
    {trace : List Pb.TestStepVariant} {frame : Frame} (knows : frame.Knows series seriesId trace)
    (ended : next.ended = series.ended) : frame.Knows next seriesId trace := by
  cases frame with
  | emitElement element => exact ⟨knows.1, ended.trans knows.2⟩
  | checkStepEnded destroy => exact ended.trans knows
  | drawTotalCount destroy => exact ⟨ended.trans knows.1, knows.2⟩
  | emitEnd totalCount destroy => exact ⟨ended.trans knows.1, knows.2⟩
  | _ => exact knows

theorem Frame.Knows.carries {series : MeasurementSeries} {seriesId : String}
    {trace : List Pb.TestStepVariant} {frame : Frame} (knows : frame.Knows series seriesId trace)
    (element : Pb.MeasurementSeriesElement) (emits : frame = .emitElement element) :
    element.measurementSeriesId = seriesId := by
  subst emits
  exact knows.1.1

theorem Ordered.of_same {series next : MeasurementSeries} {seriesId : String}
    {trace : List Pb.TestStepVariant} (ordered : series.Ordered seriesId trace)
    (constructed : next.lifetime.constructed = series.lifetime.constructed)
    (count : next.lifetime.constructed = false →
      next.elementCount.count = series.elementCount.count)
    (ended : next.ended = false → series.ended = false) : next.Ordered seriesId trace := by
  refine ⟨fun isFresh => ?_, fun isConstructed running => ?_, ordered.framed⟩
  · rw [count isFresh]
    exact ordered.fresh (constructed ▸ isFresh)
  · exact ordered.running (constructed ▸ isConstructed) (ended running)

theorem afterEnd_ended (series : MeasurementSeries) (destroy : Bool) :
    (series.afterEnd destroy).ended = series.ended := by
  cases destroy <;> rfl

theorem afterEnd_constructed (series : MeasurementSeries) (destroy : Bool)
    (constructed : series.lifetime.constructed = true) :
    (series.afterEnd destroy).lifetime.constructed = true := by
  cases destroy
  · exact constructed
  · rfl

theorem toSeries_artifact (series : MeasurementSeries) (seriesId : String)
    (variant : Pb.TestStepVariant) (mine : variant.seriesId = some seriesId) :
    Request.toSeries seriesId (.write (series.artifact variant)) = [variant] := by
  simp [Request.toSeries, Request.written, artifact, Pb.OutputVariant.ofSeries, mine]

variable {protobuf : Protobuf} {series next : MeasurementSeries} {ref : SeriesRef}
  {thread : ThreadId} {stepMutex : Option ThreadId} {stepEnded : Bool} {frame : Frame}
  {request : Request} {rest : Continue Frame} {trace : List Pb.TestStepVariant}

/-- One step of a call, when an element that is written is the next one and the total count is
the number of elements. -/
theorem advances_ordered (placed : frame.Placed series thread)
    (ordered : series.Ordered (strCat ref) trace) (knows : frame.Knows series (strCat ref) trace)
    (turn : ∀ element, frame = .emitElement element → ∀ count, Body trace count →
      element.index = count)
    (total : ∀ destroy, frame = .drawTotalCount destroy → ∀ count, Body trace count →
      count = series.elementCount.count)
    (advances : Advances protobuf series ref thread stepMutex stepEnded frame next request rest) :
    next.Ordered (strCat ref) (trace ++ request.toSeries (strCat ref)) ∧
    ∀ after, rest = .next after →
      after.Knows next (strCat ref) (trace ++ request.toSeries (strCat ref)) := by
  cases advances with
  | emitStart start built proto constructs =>
      obtain ⟨⟨typeIndex, rfl⟩, carries⟩ := construct_eq_ok constructs
      obtain ⟨rfl, _⟩ := ordered.fresh (by rw [placed.constructing rfl]; rfl)
      rw [toSeries_artifact _ _ (.measurementSeriesStart proto) (congrArg some carries)]
      refine ⟨⟨fun isFresh => ?_, fun _ _ => ⟨0, body_start proto⟩, (body_start proto).framed _⟩,
        fun _ same => by cases same⟩
      cases isFresh
  | checkType element now _ free checked =>
      obtain ⟨rfl, _⟩ := setAndCheckSeriesType_eq_ok checked
      simp only [Request.toSeries, Request.written, List.filterMap_nil, List.append_nil]
      refine ⟨ordered.of_same rfl (fun _ => rfl) id, ?_⟩
      rintro after ⟨⟩
      trivial
  | drawIndex element now _ proto drawn =>
      obtain ⟨rfl, index, carries⟩ := drawElement_eq_ok drawn
      simp only [Request.toSeries, Request.written, List.filterMap_nil, List.append_nil]
      have constructed : series.lifetime.constructed = true := placed.constructed rfl
      refine ⟨ordered.of_same rfl (fun isFresh => ?_) id, ?_⟩
      · rw [constructed] at isFresh
        cases isFresh
      · rintro after ⟨⟩
        exact ⟨carries, series.elementCount.count, index⟩
  | lockElement element free =>
      simp only [Request.toSeries, Request.written, List.filterMap_nil, List.append_nil]
      refine ⟨ordered.of_same rfl (fun _ => rfl) id, ?_⟩
      rintro after ⟨⟩
      exact knows
  | checkElement element free active running =>
      simp only [Request.toSeries, Request.written, List.filterMap_nil, List.append_nil]
      refine ⟨ordered.of_same rfl (fun _ => rfl) id, ?_⟩
      rintro after ⟨⟩
      exact ⟨knows, running⟩
  | emitElement element =>
      obtain ⟨⟨carries, _⟩, running⟩ := knows
      obtain ⟨count, body⟩ := ordered.running (placed.constructed rfl) running
      have longer := body.snoc element (turn element rfl count body)
      rw [toSeries_artifact _ _ (.measurementSeriesElement element) (congrArg some carries)]
      refine ⟨⟨fun isFresh => ?_, fun _ _ => ⟨count + 1, longer⟩, longer.framed _⟩,
        fun _ same => by cases same⟩
      have constructed : series.lifetime.constructed = true := placed.constructed rfl
      rw [constructed] at isFresh
      cases isFresh
  | endAgain destroy free ended =>
      simp only [Request.toSeries, Request.written, List.filterMap_nil, List.append_nil]
      have constructed : series.lifetime.constructed = true := placed.constructed rfl
      have still := afterEnd_constructed series destroy constructed
      refine ⟨ordered.of_same (still.trans constructed.symm) (fun isFresh => ?_) ?_,
        fun _ same => by cases same⟩
      · rw [still] at isFresh
        cases isFresh
      · rw [afterEnd_ended]
        exact id
  | lockEnd destroy free running =>
      simp only [Request.toSeries, Request.written, List.filterMap_nil, List.append_nil]
      refine ⟨ordered.of_same rfl (fun _ => rfl) id, ?_⟩
      rintro after ⟨⟩
      exact running
  | checkStepEnded destroy =>
      simp only [Request.toSeries, Request.written, List.filterMap_nil, List.append_nil]
      refine ⟨ordered.of_same rfl (fun _ => rfl) (fun ended => by cases ended), ?_⟩
      rintro after ⟨⟩
      exact ⟨rfl, ordered.running (placed.constructed rfl) knows⟩
  | drawTotalCount destroy =>
      simp only [Request.toSeries, Request.written, List.filterMap_nil, List.append_nil]
      have constructed : series.lifetime.constructed = true := placed.constructed rfl
      refine ⟨ordered.of_same rfl (fun isFresh => ?_) id, ?_⟩
      · rw [constructed] at isFresh
        cases isFresh
      · rintro after ⟨⟩
        obtain ⟨ended, count, body⟩ := knows
        exact ⟨ended, total destroy rfl count body ▸ body⟩
  | emitEnd totalCount destroy =>
      rw [toSeries_artifact _ _ _ rfl]
      have still := afterEnd_constructed { series with mutex := none } destroy
        (placed.constructed rfl)
      refine ⟨⟨fun isFresh => ?_, fun _ running => ?_, knows.2.framed_end _⟩,
        fun _ same => by cases same⟩
      · rw [still] at isFresh
        cases isFresh
      · rw [afterEnd_ended] at running
        have ended : series.ended = true := knows.1
        rw [ended] at running
        cases running
  | _ =>
      simp only [Request.toSeries, Request.written, List.filterMap_nil, List.append_nil]
      refine ⟨ordered.of_same rfl (fun _ => rfl) id, ?_⟩
      rintro after ⟨⟩
      all_goals trivial

theorem toSeries_other
    (carries : ∀ element, frame = .emitElement element → element.measurementSeriesId = strCat ref)
    (seriesId : String) (other : strCat ref ≠ seriesId)
    (advances : Advances protobuf series ref thread stepMutex stepEnded frame next request rest) :
    request.toSeries seriesId = [] := by
  have foreign : ∀ (writer : MeasurementSeries) (variant : Pb.TestStepVariant),
      variant.seriesId = some (strCat ref) →
      Request.toSeries seriesId (.write (writer.artifact variant)) = [] := by
    intro writer variant mine
    simp [Request.toSeries, Request.written, artifact, Pb.OutputVariant.ofSeries, mine, other]
  cases advances with
  | emitStart start built proto constructs =>
      exact foreign _ _ (congrArg some (construct_eq_ok constructs).2)
  | emitElement element => exact foreign _ _ (congrArg some (carries element rfl))
  | emitEnd totalCount destroy => exact foreign _ _ rfl
  | _ => rfl

/-- What is written is written with the series' mutex or in its constructor. -/
theorem toSeries_keeps (placed : frame.Placed series thread) {seriesId : String}
    (advances : Advances protobuf series ref thread stepMutex stepEnded frame next request rest) :
    trace ++ request.toSeries seriesId = trace ∨ series.mutex = some thread ∨
      series.lifetime = .constructing thread := by
  cases advances with
  | emitStart start => exact Or.inr (Or.inr (placed.constructing rfl))
  | emitElement element => exact Or.inr (Or.inl (placed.held rfl))
  | emitEnd totalCount destroy => exact Or.inr (Or.inl (placed.held rfl))
  | _ => exact Or.inl (List.append_nil _)

/-- Where the calls of a series start. -/
def Frame.entry : Frame → Bool
  | .checkStep _ | .checkType _ _ | .lockEnd _ => true
  | _ => false

/-- What is so of every frame that a call starts at. -/
theorem of_entry {motive : Frame → Prop} (checkStep : ∀ start, motive (.checkStep start))
    (checkType : ∀ element now, motive (.checkType element now))
    (lockEnd : ∀ destroy, motive (.lockEnd destroy)) {frame : Frame} (entry : frame.entry = true) :
    motive frame := by
  cases frame with
  | checkStep start => exact checkStep start
  | checkType element now => exact checkType element now
  | lockEnd destroy => exact lockEnd destroy
  | _ => cases entry

theorem drawn_of_entry {frame : Frame} (entry : frame.entry = true) : frame.drawn = none :=
  of_entry (motive := (·.drawn = none)) (fun _ => rfl) (fun _ _ => rfl) (fun _ => rfl) entry

theorem holds_of_entry {frame : Frame} (entry : frame.entry = true) : frame.holds = false :=
  of_entry (motive := (·.holds = false)) (fun _ => rfl) (fun _ _ => rfl) (fun _ => rfl) entry

end MeasurementSeries

theorem TestStep.toSeries_nil {step next : TestStep} {ref : StepRef} {thread : ThreadId}
    {runMutex : Option ThreadId} {runStarted : Bool} {frame : TestStep.Frame} {request : Request}
    {rest : Continue TestStep.Frame} (seriesId : String)
    (advances : TestStep.Advances step ref thread runMutex runStarted frame next request rest) :
    request.toSeries seriesId = [] := by
  have plain : ∀ added : AddedArtifact, added.variant.seriesId = none := by
    rintro ⟨variant, addable⟩
    cases variant with
    | measurementSeriesStart proto => cases addable
    | measurementSeriesElement proto => cases addable
    | measurementSeriesEnd proto => cases addable
    | _ => rfl
  cases advances with
  | assignIdAndEmit added =>
      simp [Request.toSeries, Request.written, TestStep.artifact, Pb.OutputVariant.ofSeries,
        plain added]
  | assignIdAndEmitFatal added message =>
      simp [Request.toSeries, Request.written, TestStep.artifact, Pb.OutputVariant.ofSeries,
        plain added]
  | _ => rfl

theorem ofSteps_ofSeries (seriesId : String) : Process.OfSteps (·.ofSeries seriesId) := by
  intro artifact other
  cases artifact with
  | testStepArtifact proto => exact absurd rfl (other proto)
  | _ => rfl

theorem TestRun.toSeries_nil {protobuf : Protobuf} {run next : TestRun} {thread : ThreadId}
    {calculator : TestResultCalculator} {dutInfos : DutRef → DutInfo} {frame : TestRun.Frame}
    {request : Request} {rest : Continue TestRun.Frame} (seriesId : String)
    (advances : TestRun.Advances protobuf run thread calculator dutInfos frame next request rest) :
    request.toSeries seriesId = [] :=
  Process.selected_run _ (ofSteps_ofSeries seriesId) advances

namespace Process

/-- The artifacts of the stream that carry the series id. -/
def seriesArtifacts (process : Process) (seriesId : String) : List Pb.TestStepVariant :=
  process.artifacts.filterMap (·.ofSeries seriesId)

structure SeriesOrdered (process : Process) : Prop where
  ordered : ∀ ref, (process.series ref).Ordered (strCat ref) (process.seriesArtifacts (strCat ref))
  foreign : ∀ seriesId, (∀ ref, strCat ref ≠ seriesId) → process.seriesArtifacts seriesId = []

/-- What is known of a series where a thread is in a call of it. -/
def SeriesKnown (process : Process) : Frame → Prop
  | .series ref frame =>
      frame.Knows (process.series ref) (strCat ref) (process.seriesArtifacts (strCat ref))
  | _ => True

/-- The index that a thread has drawn from the series' counter and not written yet. -/
def drawnFor (ref : SeriesRef) : Frame → Option Nat
  | .series other frame => if other = ref then frame.drawn else none
  | _ => none

/-- The thread is in no call of the series, or has only begun one. -/
def Outside (ref : SeriesRef) (frame : Frame) : Prop :=
  ∀ inner, frame = .series ref inner → inner.entry = true

/-- A step of the program as one series sees it. -/
inductive SeriesMove (settings : Settings) (ref : SeriesRef) (thread : ThreadId)
    (label : Label) (before : Process) (frame : Frame) (after : Process) (next : Frame) : Prop
  | elsewhere : (after.series ref).mutex = (before.series ref).mutex →
      (after.series ref).ended = (before.series ref).ended →
      (after.series ref).elementCount = (before.series ref).elementCount →
      (after.series ref).lifetime.constructed = (before.series ref).lifetime.constructed →
      after.seriesArtifacts (strCat ref) = before.seriesArtifacts (strCat ref) →
      next = frame ∨ Outside ref frame ∧ Outside ref next →
      SeriesMove settings ref thread label before frame after next
  | born : (before.series ref).lifetime = .unborn →
      (after.series ref).lifetime = .constructing thread →
      (after.series ref).elementCount = {} →
      after.seriesArtifacts (strCat ref) = before.seriesArtifacts (strCat ref) →
      Outside ref frame → Outside ref next →
      SeriesMove settings ref thread label before frame after next
  | here (inner : MeasurementSeries.Frame) (request : Request)
      (rest : Continue MeasurementSeries.Frame) (stepMutex : Option ThreadId)
      (stepEnded : Bool) : frame = .series ref inner → label.action = .advance →
      (before.series ref).Advances settings.protobuf ref thread stepMutex stepEnded inner
        (after.series ref) request rest →
      after.seriesArtifacts (strCat ref) =
        before.seriesArtifacts (strCat ref) ++ request.toSeries (strCat ref) →
      next = rest.toFrame (.series ref) →
      SeriesMove settings ref thread label before frame after next

theorem seriesArtifacts_perform {settings : Settings} {process next : Process} {origin : Origin}
    {now : Pb.Timestamp} {request : Request}
    (performed : process.perform settings origin now request = .ok next) (seriesId : String) :
    next.seriesArtifacts seriesId =
      process.seriesArtifacts seriesId ++ request.toSeries seriesId :=
  selected_perform _ performed

theorem seriesArtifacts_deliver {process next : Process} {severity : AbslSeverity}
    {message : String} {now : Pb.Timestamp}
    (delivered : process.deliver severity message now = .ok next) (seriesId : String) :
    next.seriesArtifacts seriesId = process.seriesArtifacts seriesId :=
  selected_deliver _ (ofSteps_ofSeries seriesId) delivered

theorem outside_of_ne {ref : SeriesRef} {frame : Frame}
    (different : ∀ inner, frame ≠ .series ref inner) : Outside ref frame :=
  fun inner same => absurd same (different inner)

section

variable {settings : Settings} {ref : SeriesRef} {thread : ThreadId} {label : Label}
  {process after : Process} {frame next : Frame}

/-- A step that does not reach the series. -/
theorem SeriesMove.of_same (series : after.series ref = process.series ref)
    (artifacts : after.seriesArtifacts (strCat ref) = process.seriesArtifacts (strCat ref))
    (frames : next = frame ∨ Outside ref frame ∧ Outside ref next) :
    SeriesMove settings ref thread label process frame after next :=
  .elsewhere (by rw [series]) (by rw [series]) (by rw [series]) (by rw [series]) artifacts frames

theorem begins_seriesMove {now : Pb.Timestamp} {call : Call} (allocated : process.Allocated)
    (begins : Begins settings thread now process call after next) :
    SeriesMove settings ref thread label process .idle after next := by
  have artifacts : after.seriesArtifacts (strCat ref) = process.seriesArtifacts (strCat ref) := by
    simp only [seriesArtifacts, Process.artifacts, (begins_sameRecord _ _ _ _ _ _ _ begins).stream]
  have idle : Outside ref .idle := outside_of_ne (by simp)
  cases begins with
  | newMeasurementSeries testStep start live =>
      have entering : Outside ref (.series process.run.measurementSeriesId.count (.checkStep start)) := by
        rintro inner ⟨⟩
        rfl
      by_cases new : ref = process.run.measurementSeriesId.count
      · subst new
        refine .born ?_ ?_ ?_ artifacts idle entering
        · by_contra born
          exact Nat.lt_irrefl _ (allocated.series _ born)
        · simp only [setSeries, Function.update_self]
        · simp only [setSeries, Function.update_self]
      · refine .of_same ?_ artifacts (Or.inr ⟨idle, entering⟩)
        simp only [setSeries, ne_eq, new, not_false_eq_true, Function.update_of_ne]
  | onSeries call other entered entry live =>
      refine .of_same rfl artifacts (Or.inr ⟨idle, ?_⟩)
      rintro inner ⟨⟩
      cases call with
      | _ =>
          cases entry
          all_goals rfl
  | deleteMeasurementSeries other live =>
      have entering : Outside ref (.series other (.lockEnd true)) := by
        rintro inner ⟨⟩
        rfl
      by_cases self : ref = other
      · subst self
        refine .elsewhere ?_ ?_ ?_ ?_ artifacts (Or.inr ⟨idle, entering⟩)
        · simp only [setSeries, Function.update_self]
        · simp only [setSeries, Function.update_self]
        · simp only [setSeries, Function.update_self]
        · simp only [setSeries, Function.update_self, live, Lifetime.constructed]
      · refine .of_same ?_ artifacts (Or.inr ⟨idle, entering⟩)
        simp only [setSeries, ne_eq, self, not_false_eq_true, Function.update_of_ne]
  | _ => exact .of_same rfl artifacts (Or.inr ⟨idle, outside_of_ne (by simp)⟩)

theorem moves_seriesMove (allocated : process.Allocated) (known : process.SeriesKnown frame)
    (moves : Moves settings thread process label frame after next) (ref : SeriesRef) :
    SeriesMove settings ref thread label process frame after next := by
  cases moves with
  | log _ severity message _ delivered =>
      exact .of_same (by rw [(deliver_same delivered).series])
        (seriesArtifacts_deliver delivered _) (Or.inl rfl)
  | call call _ _ _ begins => exact begins_seriesMove allocated begins
  | run frame run request rest performed _ _ advances perform =>
      have same := (perform_spec _ _ _ _ _ _ perform).1
      have artifacts := seriesArtifacts_perform perform (strCat ref)
      rw [TestRun.toSeries_nil _ advances, List.append_nil] at artifacts
      refine .of_same ?_ artifacts (Or.inr ⟨outside_of_ne (by simp), outside_of_ne ?_⟩)
      · exact congrFun same.series ref
      · cases rest <;> simp [Continue.toFrame]
  | step other frame step request rest performed _ _ advances perform =>
      have same := (perform_spec _ _ _ _ _ _ perform).1
      have artifacts := seriesArtifacts_perform perform (strCat ref)
      rw [TestStep.toSeries_nil _ advances, List.append_nil] at artifacts
      refine .of_same ?_ artifacts (Or.inr ⟨outside_of_ne (by simp), outside_of_ne ?_⟩)
      · exact congrFun same.series ref
      · cases rest <;> simp [Continue.toFrame]
  | series other frame series request rest performed advance _ _ advances perform =>
      have same := (perform_spec _ _ _ _ _ _ perform).1
      have artifacts := seriesArtifacts_perform perform (strCat ref)
      by_cases self : ref = other
      · subst self
        refine .here frame request rest (process.steps (process.series ref).testStep).mutex
          (process.steps (process.series ref).testStep).ended rfl advance ?_ artifacts rfl
        simpa only [setSeries, Function.update_self] using advances
      · have different : strCat other ≠ strCat ref := fun same => self (strCat_injective same).symm
        have carries := MeasurementSeries.Frame.Knows.carries known
        rw [MeasurementSeries.toSeries_other carries _ different advances,
          List.append_nil] at artifacts
        refine .of_same ?_ artifacts (Or.inr ⟨outside_of_ne ?_, outside_of_ne ?_⟩)
        · simp only [setSeries, ne_eq, self, not_false_eq_true, Function.update_of_ne, same.series]
        · simp [eq_comm, self]
        · cases rest <;> simp [Continue.toFrame, eq_comm, self]
  | dying message _ delivered =>
      exact .of_same (by rw [(deliver_same delivered).series])
        (seriesArtifacts_deliver delivered _)
        (Or.inr ⟨outside_of_ne (by simp), outside_of_ne (by simp)⟩)
  | aborting => exact .of_same rfl rfl (Or.inl rfl)
  | _ => exact .of_same rfl rfl (Or.inr ⟨outside_of_ne (by simp), outside_of_ne (by simp)⟩)

/-- Only a series writes under its id. -/
theorem moves_foreign (known : process.SeriesKnown frame)
    (moves : Moves settings thread process label frame after next) (seriesId : String)
    (foreign : ∀ ref, strCat ref ≠ seriesId) :
    after.seriesArtifacts seriesId = process.seriesArtifacts seriesId := by
  cases moves with
  | log _ severity message _ delivered => exact seriesArtifacts_deliver delivered _
  | call call _ _ _ begins =>
      simp only [seriesArtifacts, Process.artifacts, (begins_sameRecord _ _ _ _ _ _ _ begins).stream]
  | run frame run request rest performed _ _ advances perform =>
      have added := seriesArtifacts_perform perform seriesId
      rwa [TestRun.toSeries_nil _ advances, List.append_nil] at added
  | step other frame step request rest performed _ _ advances perform =>
      have added := seriesArtifacts_perform perform seriesId
      rwa [TestStep.toSeries_nil _ advances, List.append_nil] at added
  | series other frame series request rest performed _ _ _ advances perform =>
      have added := seriesArtifacts_perform perform seriesId
      have carries := MeasurementSeries.Frame.Knows.carries known
      rwa [MeasurementSeries.toSeries_other carries _ (foreign other) advances,
        List.append_nil] at added
  | dying message _ delivered => exact seriesArtifacts_deliver delivered _
  | _ => rfl

/-- A thread changes the artifacts of a series only with the series' mutex or in its
constructor. -/
def KeepsArtifacts (thread : ThreadId) (before after : Process) : Prop :=
  ∀ ref, after.seriesArtifacts (strCat ref) = before.seriesArtifacts (strCat ref) ∨
    (before.series ref).mutex = some thread ∨
    (before.series ref).lifetime = .constructing thread

theorem knows_of_entry {inner : MeasurementSeries.Frame} (entry : inner.entry = true)
    (series : MeasurementSeries) (seriesId : String) (trace : List Pb.TestStepVariant) :
    inner.Knows series seriesId trace :=
  MeasurementSeries.of_entry (fun _ => trivial) (fun _ _ => trivial) (fun _ => trivial) entry

theorem SeriesMove.ordered (placed : process.Placed thread frame)
    (ordered : (process.series ref).Ordered (strCat ref) (process.seriesArtifacts (strCat ref)))
    (known : process.SeriesKnown frame)
    (turn : label.action = .advance → ∀ element, frame = .series ref (.emitElement element) →
      ∀ count, Body (process.seriesArtifacts (strCat ref)) count → element.index = count)
    (total : label.action = .advance → ∀ destroy, frame = .series ref (.drawTotalCount destroy) →
      ∀ count, Body (process.seriesArtifacts (strCat ref)) count →
        count = (process.series ref).elementCount.count)
    (move : SeriesMove settings ref thread label process frame after next) :
    (after.series ref).Ordered (strCat ref) (after.seriesArtifacts (strCat ref)) ∧
    (∀ inner, next = .series ref inner →
      inner.Knows (after.series ref) (strCat ref) (after.seriesArtifacts (strCat ref))) ∧
    (after.seriesArtifacts (strCat ref) = process.seriesArtifacts (strCat ref) ∨
      (process.series ref).mutex = some thread ∨
      (process.series ref).lifetime = .constructing thread) := by
  cases move with
  | elsewhere mutex ended count constructed artifacts frames =>
      rw [artifacts]
      refine ⟨ordered.of_same constructed (fun _ => by rw [count]) (fun running => ended ▸ running),
        fun inner here => ?_, Or.inl rfl⟩
      rcases frames with same | ⟨_, outside⟩
      · subst here
        rw [← same] at known
        exact known.of_same ended
      · exact knows_of_entry (outside inner here) _ _ _
  | born unborn constructing fresh artifacts _ outside =>
      obtain ⟨empty, _⟩ := ordered.fresh (by rw [unborn]; rfl)
      rw [artifacts, empty]
      refine ⟨⟨fun _ => ⟨rfl, by rw [fresh]⟩, fun constructed => ?_, framed_nil _⟩,
        fun inner here => knows_of_entry (outside inner here) _ _ _, Or.inl rfl⟩
      rw [constructing] at constructed
      cases constructed
  | here inner request rest stepMutex stepEnded same advance advances artifacts continues =>
      subst same continues
      rw [artifacts]
      obtain ⟨kept, knows⟩ := MeasurementSeries.advances_ordered placed.2 ordered known
        (fun element here => turn advance element (congrArg _ here))
        (fun destroy here => total advance destroy (congrArg _ here)) advances
      refine ⟨kept, ?_, MeasurementSeries.toSeries_keeps placed.2 advances⟩
      cases rest with
      | next after =>
          rintro inner ⟨⟩
          exact knows after rfl
      | done => rintro inner ⟨⟩
      | die message => rintro inner ⟨⟩

end

/-- Elements can still be written: the series has not ended and its mutex is free or with a
thread that goes on, or its total count has not been drawn yet. -/
def Open (series : MeasurementSeries) (ref : SeriesRef) (frames : ThreadId → Frame) : Prop :=
  (series.ended = false ∧ ∀ thread, series.mutex = some thread →
    ∃ inner, frames thread = .series ref inner ∧ inner.holds = true) ∨
  ∃ thread destroy, frames thread = .series ref (.drawTotalCount destroy)

/-- The indices that have been drawn and not written yet follow those in the stream. -/
def InTurn (series : MeasurementSeries) (ref : SeriesRef) (trace : List Pb.TestStepVariant)
    (frames : ThreadId → Frame) : Prop :=
  Open series ref frames → ∀ count, Body trace count →
    Tickets.InOrder count series.elementCount.count fun thread => drawnFor ref (frames thread)

theorem drawnFor_self (ref : SeriesRef) (inner : MeasurementSeries.Frame) :
    drawnFor ref (.series ref inner) = inner.drawn := if_pos rfl

theorem drawnFor_eq_some {ref : SeriesRef} {frame : Frame} {index : Nat}
    (drawn : drawnFor ref frame = some index) :
    ∃ inner, frame = .series ref inner ∧ inner.drawn = some index := by
  cases frame with
  | series other inner =>
      simp only [drawnFor, Option.ite_none_right_eq_some] at drawn
      obtain ⟨rfl, drawn⟩ := drawn
      exact ⟨inner, rfl, drawn⟩
  | _ => cases drawn

theorem drawnFor_outside {ref : SeriesRef} {frame : Frame} (outside : Outside ref frame) :
    drawnFor ref frame = none := by
  cases drawn : drawnFor ref frame with
  | none => rfl
  | some index =>
      obtain ⟨inner, rfl, has⟩ := drawnFor_eq_some drawn
      rw [MeasurementSeries.drawn_of_entry (outside inner rfl)] at has
      cases has

theorem drawnFor_update (ref : SeriesRef) (frames : ThreadId → Frame) (thread : ThreadId)
    (next : Frame) :
    (fun other => drawnFor ref (Function.update frames thread next other)) =
      Function.update (fun other => drawnFor ref (frames other)) thread (drawnFor ref next) :=
  Function.comp_update (drawnFor ref) frames thread next

section

variable {series after : MeasurementSeries} {ref : SeriesRef} {trace : List Pb.TestStepVariant}
  {frames : ThreadId → Frame} {thread : ThreadId} {next : Frame}

/-- A step of the acting thread with the mutex as it was. -/
theorem Open.of_update (mutex : after.mutex = series.mutex) (ended : after.ended = series.ended)
    (goesOn : ∀ inner, next = .series ref inner → inner.holds = true →
      ∃ outer, frames thread = .series ref outer ∧ outer.holds = true)
    (draws : ∀ destroy, next ≠ .series ref (.drawTotalCount destroy))
    (isOpen : Open after ref (Function.update frames thread next)) : Open series ref frames := by
  rcases isOpen with ⟨running, holders⟩ | ⟨other, destroy, here⟩
  · refine Or.inl ⟨ended ▸ running, fun other theirs => ?_⟩
    obtain ⟨inner, here, holds⟩ := holders other (mutex.trans theirs)
    by_cases same : other = thread
    · subst same
      rw [Function.update_self] at here
      exact goesOn inner here holds
    · rw [Function.update_of_ne same] at here
      exact ⟨inner, here, holds⟩
  · by_cases same : other = thread
    · subst same
      rw [Function.update_self] at here
      exact absurd here (draws destroy)
    · rw [Function.update_of_ne same] at here
      exact Or.inr ⟨other, destroy, here⟩

/-- A step that leaves the indices and the artifacts, and opens nothing. -/
theorem InTurn.of_same (inTurn : InTurn series ref trace frames)
    (opens : Open after ref (Function.update frames thread next) → Open series ref frames)
    (count : after.elementCount = series.elementCount)
    (drawn : drawnFor ref next = drawnFor ref (frames thread)) :
    InTurn after ref trace (Function.update frames thread next) := by
  intro isOpen number body
  rw [count, drawnFor_update, drawn, Function.update_eq_self_iff.mpr rfl]
  exact inTurn (opens isOpen) number body

/-- Nobody else draws the total count while the thread has access to the mutex. -/
theorem drawsTotal_eq
    (placed : ∀ other inner, frames other = .series ref inner → inner.Placed series other)
    (access : series.mutex = none ∨ series.mutex = some thread)
    {other : ThreadId} {destroy : Bool}
    (draws : Function.update frames thread next other = .series ref (.drawTotalCount destroy)) :
    next = .series ref (.drawTotalCount destroy) := by
  by_cases same : other = thread
  · subst same
    rwa [Function.update_self] at draws
  · rw [Function.update_of_ne same] at draws
    exact absurd ((placed other _ draws).held rfl) (not_held_by_other access same)

/-- A step after which the series is closed. -/
theorem InTurn.of_closed
    (placed : ∀ other inner, frames other = .series ref inner → inner.Placed series other)
    (access : series.mutex = none ∨ series.mutex = some thread)
    (closed : after.ended = true ∨ (after.mutex = some thread ∧ ∀ inner, next ≠ .series ref inner))
    (draws : ∀ destroy, next ≠ .series ref (.drawTotalCount destroy)) :
    InTurn after ref trace (Function.update frames thread next) := by
  rintro (⟨running, goesOn⟩ | ⟨other, destroy, here⟩)
  · rcases closed with ended | ⟨mutex, gone⟩
    · rw [running] at ended
      cases ended
    · obtain ⟨inner, here, _⟩ := goesOn thread mutex
      rw [Function.update_self] at here
      exact absurd here (gone inner)
  · exact absurd (drawsTotal_eq placed access here) (draws destroy)

theorem not_body_nil {count : Nat} : ¬ Body [] count := by
  rintro ⟨start, elements, same, _⟩
  cases same

/-- Nobody has drawn an index before the series is constructed. -/
theorem drawnFor_unconstructed
    (placed : ∀ other inner, frames other = .series ref inner → inner.Placed series other)
    (constructing : series.lifetime.constructed = false) (other : ThreadId) :
    drawnFor ref (frames other) = none := by
  cases drawn : drawnFor ref (frames other) with
  | none => rfl
  | some index =>
      obtain ⟨inner, here, has⟩ := drawnFor_eq_some drawn
      have constructed : inner.constructs = false := by
        cases inner <;> first | rfl | cases has
      rw [(placed other inner here).constructed constructed] at constructing
      cases constructing

/-- One step of a call, as the indices see it. -/
theorem advances_inTurn {protobuf : Protobuf} {stepMutex : Option ThreadId} {stepEnded : Bool}
    {inner : MeasurementSeries.Frame} {request : Request} {rest : Continue MeasurementSeries.Frame}
    (placed : ∀ other frame, frames other = .series ref frame → frame.Placed series other)
    (ordered : series.Ordered (strCat ref) trace) (here : frames thread = .series ref inner)
    (knows : inner.Knows series (strCat ref) trace) (inTurn : InTurn series ref trace frames)
    (advances : series.Advances protobuf ref thread stepMutex stepEnded inner after request rest) :
    InTurn after ref (trace ++ request.toSeries (strCat ref))
      (Function.update frames thread (rest.toFrame (.series ref))) := by
  have mine := placed thread inner here
  have drawn := congrArg (drawnFor ref) here
  rw [drawnFor_self] at drawn
  have quiet : ∀ frame, InTurn after ref trace frame → InTurn after ref (trace ++ []) frame := by
    intro frame
    rw [List.append_nil]
    exact id
  cases advances with
  | checkStep start =>
      intro _ count body
      rw [(ordered.fresh (by rw [mine.constructing rfl]; rfl)).1] at body
      exact absurd body not_body_nil
  | checkStepDies start message =>
      intro _ count body
      rw [(ordered.fresh (by rw [mine.constructing rfl]; rfl)).1] at body
      exact absurd body not_body_nil
  | emitStartDies start message =>
      intro _ count body
      rw [(ordered.fresh (by rw [mine.constructing rfl]; rfl)).1] at body
      exact absurd body not_body_nil
  | emitStart start built proto constructs =>
      obtain ⟨⟨typeIndex, rfl⟩, carries⟩ := MeasurementSeries.construct_eq_ok constructs
      have constructing : series.lifetime.constructed = false := by rw [mine.constructing rfl]; rfl
      obtain ⟨rfl, fresh⟩ := ordered.fresh constructing
      intro _ count body
      rw [MeasurementSeries.toSeries_artifact _ _ (.measurementSeriesStart proto)
        (congrArg some carries)] at body
      obtain rfl := body.unique (body_start proto)
      rw [drawnFor_update]
      refine fresh.symm ▸ Tickets.inOrder_fresh 0 _ fun other => ?_
      by_cases same : other = thread
      · rw [same, Function.update_self]
        rfl
      · rw [Function.update_of_ne same]
        exact drawnFor_unconstructed placed constructing other
  | checkType element now _ free checked =>
      obtain ⟨rfl, _⟩ := MeasurementSeries.setAndCheckSeriesType_eq_ok checked
      refine quiet _ (inTurn.of_same (Open.of_update rfl rfl ?_ (by rintro _ ⟨⟩)) rfl ?_)
      · rintro _ ⟨⟩ ⟨⟩
      · rw [drawn]
        exact drawnFor_self _ _
  | checkTypeDies element now message free =>
      exact quiet _ (.of_closed placed (Or.inl free) (Or.inr ⟨rfl, by rintro _ ⟨⟩⟩) (by rintro _ ⟨⟩))
  | drawIndex element now _ proto draws =>
      obtain ⟨rfl, index, _⟩ := MeasurementSeries.drawElement_eq_ok draws
      refine quiet _ fun isOpen count body => ?_
      have wasOpen : Open series ref frames :=
        isOpen.of_update rfl rfl (by rintro _ ⟨⟩ ⟨⟩) (by rintro _ ⟨⟩)
      have order := (inTurn wasOpen count body).draw thread drawn
      rw [drawnFor_update]
      have number : drawnFor ref (.series ref (.lockElement proto)) =
          some series.elementCount.count := by
        rw [drawnFor_self, MeasurementSeries.Frame.drawn, index, Int.toNat_natCast]
      exact number ▸ order
  | drawIndexDies element now message =>
      refine quiet _ (inTurn.of_same (Open.of_update rfl rfl (by rintro _ ⟨⟩) (by rintro _ ⟨⟩)) rfl ?_)
      exact drawn.symm
  | lockElement element free =>
      refine quiet _ (inTurn.of_same ?_ rfl ?_)
      · rintro (⟨running, _⟩ | ⟨other, destroy, draws⟩)
        · refine Or.inl ⟨running, fun other theirs => ?_⟩
          rw [free] at theirs
          cases theirs
        · cases drawsTotal_eq placed (Or.inl free) draws
      · rw [drawn]
        exact drawnFor_self _ _
  | checkElement element free active running =>
      refine quiet _ (inTurn.of_same (Open.of_update rfl rfl ?_ (by rintro _ ⟨⟩)) rfl ?_)
      · intro _ _ _
        exact ⟨_, here, rfl⟩
      · rw [drawn]
        exact drawnFor_self _ _
  | checkElementDies element message =>
      exact quiet _ (.of_closed placed (Or.inr (mine.held rfl))
        (Or.inr ⟨mine.held rfl, by rintro _ ⟨⟩⟩) (by rintro _ ⟨⟩))
  | emitElement element =>
      obtain ⟨⟨carries, index, same⟩, running⟩ := knows
      have wasOpen : Open series ref frames := by
        refine Or.inl ⟨running, fun other theirs => ?_⟩
        rw [mine.held rfl] at theirs
        obtain rfl := Option.some.inj theirs
        exact ⟨_, here, rfl⟩
      intro _ count body
      rw [MeasurementSeries.toSeries_artifact _ _ (.measurementSeriesElement element)
        (congrArg some carries)] at body
      rcases body.last with ⟨rfl, _⟩ | ⟨last, earlier, sameLast, rfl, before, position⟩
      · obtain ⟨_, nothing⟩ := ordered.running (mine.constructed rfl) running
        exact absurd nothing not_body_nil
      · cases sameLast
        have order := (inTurn wasOpen earlier before).serve thread (by
          rw [drawn, MeasurementSeries.Frame.drawn, position, Int.toNat_natCast])
        rw [drawnFor_update]
        exact order
  | endAgain destroy free ended =>
      refine quiet _ (.of_closed placed (Or.inl free) (Or.inl ?_) (by rintro _ ⟨⟩))
      rw [MeasurementSeries.afterEnd_ended]
      exact ended
  | lockEnd destroy free running =>
      refine quiet _ (inTurn.of_same (fun _ => Or.inl ⟨running, fun other theirs => ?_⟩) rfl ?_)
      · rw [free] at theirs
        cases theirs
      · rw [drawn]
        exact drawnFor_self _ _
  | checkStepEnded destroy =>
      refine quiet _ (inTurn.of_same (fun _ => Or.inl ⟨knows, fun other theirs => ?_⟩) rfl ?_)
      · rw [mine.held rfl] at theirs
        obtain rfl := Option.some.inj theirs
        exact ⟨_, here, rfl⟩
      · rw [drawn]
        exact drawnFor_self _ _
  | drawTotalCount destroy =>
      exact quiet _ (.of_closed placed (Or.inr (mine.held rfl)) (Or.inl knows.1) (by rintro _ ⟨⟩))
  | emitEnd totalCount destroy =>
      refine .of_closed placed (Or.inr (mine.held rfl)) (Or.inl ?_) (by rintro _ ⟨⟩)
      rw [MeasurementSeries.afterEnd_ended]
      exact knows.1

/-- One step of the program, as the indices of one series see it. -/
theorem SeriesMove.inTurn {settings : Settings} {label : Label} {process next : Process}
    {after : Frame}
    (placed : ∀ other, process.Placed other (frames other))
    (ordered : (process.series ref).Ordered (strCat ref) (process.seriesArtifacts (strCat ref)))
    (known : process.SeriesKnown (frames thread))
    (inTurn : InTurn (process.series ref) ref (process.seriesArtifacts (strCat ref)) frames)
    (move : SeriesMove settings ref thread label process (frames thread) next after) :
    InTurn (next.series ref) ref (next.seriesArtifacts (strCat ref))
      (Function.update frames thread after) := by
  cases move with
  | elsewhere mutex ended count constructed artifacts continues =>
      rw [artifacts]
      rcases continues with rfl | ⟨before, outside⟩
      · refine inTurn.of_same (fun isOpen => ?_) count rfl
        rw [Function.update_eq_self_iff.mpr rfl] at isOpen
        simpa only [Open, mutex, ended] using isOpen
      · refine inTurn.of_same (Open.of_update mutex ended ?_ ?_) count ?_
        · intro inner here holds
          rw [MeasurementSeries.holds_of_entry (outside inner here)] at holds
          cases holds
        · intro destroy here
          cases outside _ here
        · rw [drawnFor_outside before, drawnFor_outside outside]
  | born unborn constructing fresh artifacts _ _ =>
      intro _ count body
      rw [artifacts, (ordered.fresh (by rw [unborn]; rfl)).1] at body
      exact absurd body not_body_nil
  | here inner request rest stepMutex stepEnded same advance advances artifacts continues =>
      rw [artifacts, continues]
      rw [same] at known
      refine advances_inTurn (fun other frame there => ?_) ordered same known inTurn advances
      have theirs := placed other
      rw [there] at theirs
      exact theirs.2

end

/-- The calls leave the indices in turn: AddElement() writes an element only when no other
thread has a smaller index of the series in flight, and End() draws the total count when no
thread has one. -/
def ElementsInTurn (pool : Pool Process Frame) (label : ThreadId × Label) : Prop :=
  label.2.action = .advance → ∀ ref,
    (∀ element, pool.frames label.1 = .series ref (.emitElement element) →
      ∀ thread index, thread ≠ label.1 → drawnFor ref (pool.frames thread) = some index →
        element.index.toNat ≤ index) ∧
    ∀ destroy, pool.frames label.1 = .series ref (.drawTotalCount destroy) →
      ∀ thread, drawnFor ref (pool.frames thread) = none

/-- The artifacts of the series, in every state. -/
structure SeriesSound (pool : Pool Process Frame) : Prop where
  held : MutexesHeld pool
  outline : Outline SeriesOrdered (fun process _ frame => process.SeriesKnown frame) pool
  inTurn : ∀ ref, InTurn (pool.shared.series ref) ref (pool.shared.seriesArtifacts (strCat ref))
    pool.frames

theorem seriesSound_initial (testRunStart : TestRunStart) :
    SeriesSound (initialPool testRunStart) := by
  refine ⟨mutexesHeld_initial testRunStart, ⟨⟨fun ref => ⟨fun _ => ⟨rfl, rfl⟩, fun constructed => ?_,
    framed_nil _⟩, fun _ _ => rfl⟩, fun _ => trivial⟩, fun ref _ count body => ?_⟩
  · cases constructed
  · exact absurd body not_body_nil

/-- The index that is written is the number of elements in the stream. -/
theorem turn_of_inTurn {pool : Pool Process Frame} {thread : ThreadId} {ref : SeriesRef}
    {element : Pb.MeasurementSeriesElement} (sound : SeriesSound pool)
    (here : pool.frames thread = .series ref (.emitElement element))
    (smallest : ∀ other index, other ≠ thread → drawnFor ref (pool.frames other) = some index →
      element.index.toNat ≤ index)
    (count : Nat) (body : Body (pool.shared.seriesArtifacts (strCat ref)) count) :
    element.index = count := by
  have known := sound.outline.threads thread
  have placed := sound.held.threads thread
  rw [here] at known placed
  obtain ⟨⟨_, index, same⟩, running⟩ := known
  have isOpen : Open (pool.shared.series ref) ref pool.frames := by
    refine Or.inl ⟨running, fun other theirs => ?_⟩
    rw [placed.2.held rfl] at theirs
    obtain rfl := Option.some.inj theirs
    exact ⟨_, here, rfl⟩
  have first := (sound.inTurn ref isOpen count body).first thread
    (congrArg (drawnFor ref) here |>.trans (drawnFor_self _ _)) smallest
  rw [same, Int.toNat_natCast] at first
  rw [same, first]

theorem seriesSound_step (settings : Settings) (pool : Pool Process Frame)
    (label : ThreadId × Label) (final : Pool Process Frame) (inTurn : ElementsInTurn pool label)
    (sound : SeriesSound pool) (stepped : systemStep settings pool label = some final) :
    SeriesSound final := by
  have moved : ∀ next after,
      Moves settings label.1 pool.shared label.2 (pool.frames label.1) next after → ∀ ref,
      SeriesMove settings ref label.1 label.2 pool.shared (pool.frames label.1) next after :=
    fun next after moves ref =>
      moves_seriesMove sound.held.shared (sound.outline.threads label.1) moves ref
  refine ⟨mutexesHeld_step settings pool final label sound.held stepped, ?_, fun ref => ?_⟩
  · refine outline_of_moves KeepsArtifacts sound.held sound.outline stepped ?_ ?_
    · intro next after moves
      have kept := fun ref => SeriesMove.ordered (sound.held.threads label.1)
        (sound.outline.shared.ordered ref) (sound.outline.threads label.1)
        (fun advance element here => turn_of_inTurn sound here ((inTurn advance ref).1 element here))
        (fun advance destroy here count body =>
          (sound.inTurn ref (Or.inr ⟨_, destroy, here⟩) count body).all
            ((inTurn advance ref).2 destroy here))
        (moved next after moves ref)
      refine ⟨⟨fun ref => (kept ref).1, fun seriesId foreign => ?_⟩, ?_, fun ref => (kept ref).2.2⟩
      · rw [moves_foreign (sound.outline.threads label.1) moves seriesId foreign]
        exact sound.outline.shared.foreign seriesId foreign
      · cases after with
        | series ref inner => exact (kept ref).2.1 inner rfl
        | _ => trivial
    · intro next thread different kept artifacts placed known
      cases here : pool.frames thread with
      | series ref frame =>
          rw [here] at placed known
          have keeps := kept.series ref placed.1
          have same : frame.holds = true → next.seriesArtifacts (strCat ref) =
              pool.shared.seriesArtifacts (strCat ref) := by
            intro holds
            rcases artifacts ref with same | theirs | theirs
            · exact same
            · rw [placed.2.held holds] at theirs
              exact absurd (Option.some.inj theirs) different
            · have constructed : frame.constructs = false := by
                cases frame <;> first | rfl | cases holds
              have live := placed.2.constructed constructed
              rw [theirs] at live
              cases live
          cases frame with
          | emitElement element =>
              exact ⟨known.1, (keeps.guarded thread different (placed.2.held rfl)).2.1.trans known.2⟩
          | checkStepEnded destroy =>
              exact (keeps.guarded thread different (placed.2.held rfl)).2.1.trans known
          | drawTotalCount destroy => exact ⟨keeps.ended known.1, (same rfl).symm ▸ known.2⟩
          | emitEnd totalCount destroy => exact ⟨keeps.ended known.1, (same rfl).symm ▸ known.2⟩
          | _ => exact known
      | _ => trivial
  · obtain ⟨next, after, taken, rfl⟩ := (poolStep_eq_some _ pool final label).mp stepped
    exact SeriesMove.inTurn sound.held.threads (sound.outline.shared.ordered ref)
      (sound.outline.threads label.1) (sound.inTurn ref)
      (moved next after (moves_of_exec _ _ _ _ _ _ _ taken) ref)

end Process

/-- While the indices stay in turn, the artifacts of every series are framed. -/
theorem series_framing (settings : Settings) (testRunStart : TestRunStart)
    (labels : List (ThreadId × Label)) (final : Pool Process Frame)
    (inTurn : Runs.Meets (systemStep settings) Process.ElementsInTurn (initialPool testRunStart)
      labels)
    (reached : Runs.run (systemStep settings) (initialPool testRunStart) labels = some final)
    (seriesId : String) : Framed seriesId (final.shared.seriesArtifacts seriesId) := by
  have sound := Runs.run_preserves_of_meets _ Process.ElementsInTurn Process.SeriesSound
    (Process.seriesSound_step settings) _ final labels inTurn
    (Process.seriesSound_initial testRunStart) reached
  by_cases drawn : ∃ ref, strCat ref = seriesId
  · obtain ⟨ref, rfl⟩ := drawn
    exact (sound.outline.shared.ordered ref).framed
  · rw [sound.outline.shared.foreign seriesId fun ref same => drawn ⟨ref, same⟩]
    exact framed_nil seriesId

/-- Two threads add an element each to the series of `sampleSeries`, and both draw their index
before either writes. -/
def twoElements (first second : ThreadId) : List (ThreadId × Label) :=
  sampleSeries ++ callLabels 0 (.addElement 0 { value := .bool false }) 2 ++
    callLabels 1 (.addElement 0 { value := .bool true }) 2 ++
    List.replicate 3 (first, { action := .advance }) ++
    List.replicate 3 (second, { action := .advance })

theorem twoElements_inTurn : Runs.Meets (systemStep sampleSettings) Process.ElementsInTurn
    (initialPool sampleTestRunStart)
    (twoElements 0 1 ++ callLabels 1 (.endMeasurementSeries 0) 4) := by
  refine Runs.meets_of_checkAll _ _
    (fun pool label => match pool.frames label.1 with
      | .series ref (.emitElement element) => [0, 1].all fun thread =>
          thread == label.1 || (Process.drawnFor ref (pool.frames thread)).all fun index =>
            decide (element.index.toNat ≤ index)
      | .series ref (.drawTotalCount _) => [0, 1].all fun thread =>
          (Process.drawnFor ref (pool.frames thread)).isNone
      | _ => true)
    (IdleOutside [0, 1] .idle) (fun label => label.1 ∈ [0, 1]) ?_ ?_ _ _ (fun _ _ => rfl) ?_ rfl
  · rintro pool label acting idle passes _ ref
    refine ⟨fun element here thread index different drawn => ?_, fun destroy here thread => ?_⟩
    · by_cases active : thread ∈ [0, 1]
      · simp only [here, List.all_eq_true] at passes
        simpa only [Bool.or_eq_true, beq_iff_eq, different, false_or, drawn, Option.all_some,
          decide_eq_true_eq] using passes thread active
      · rw [idle thread active] at drawn
        cases drawn
    · by_cases active : thread ∈ [0, 1]
      · simp only [here, List.all_eq_true, Option.isNone_iff_eq_none] at passes
        exact passes thread active
      · rw [idle thread active]
        rfl
  · intro pool label next acting idle stepped
    exact idleOutside_step _ [0, 1] .idle pool next label acting idle stepped
  · decide

theorem series_framing_twoElements :
    ∃ final, Runs.run (systemStep sampleSettings) (initialPool sampleTestRunStart)
        (twoElements 0 1 ++ callLabels 1 (.endMeasurementSeries 0) 4) = some final ∧
      (final.shared.seriesArtifacts "0").length = 5 ∧
      Framed "0" (final.shared.seriesArtifacts "0") :=
  ⟨_, rfl, rfl, series_framing sampleSettings sampleTestRunStart _ _ twoElements_inTurn rfl "0"⟩

/-- The thread that has drawn the larger index writes first. -/
theorem series_framing_fails_of_overtaking :
    ∃ final, Runs.run (systemStep sampleSettings) (initialPool sampleTestRunStart)
        (twoElements 1 0) = some final ∧
      ¬ Framed "0" (final.shared.seriesArtifacts "0") := by
  refine ⟨_, rfl, ?_⟩
  rintro ⟨start, elements, counting, rest, whole⟩
  have second : (.measurementSeriesStart start :: elements.map .measurementSeriesElement ++
      [.measurementSeriesEnd ⟨"0", elements.length⟩] : List Pb.TestStepVariant)[2]? =
      some (.measurementSeriesElement
        { index := 2, measurementSeriesId := "0", value := .boolValue true }) :=
    congrArg (·[2]?) whole.symm
  rcases elements with _ | ⟨first, _ | ⟨next, others⟩⟩
  · cases second
  · cases second
  · have index : next.index = 1 := by
      have counts := congrArg (·[1]?) counting
      simpa [List.getElem?_range] using counts
    cases second
    cases index

end OcpDiag.Results
