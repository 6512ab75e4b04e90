import OcpDiag.Results.Delivery
import OcpDiag.Results.SeriesFraming

set_option autoImplicit false

/- The numbers of a series' counter. Whoever overtakes whom, each is drawn by one call and written
at most once, and a call that returns has written its own. -/
namespace OcpDiag.Results

open ThreadPool

/-- A start and some elements, in any order, with numbers from a counter. -/
structure Opened (trace : List Pb.TestStepVariant) (elements : List Pb.MeasurementSeriesElement) :
    Prop where
  trace : ∃ start, trace = .measurementSeriesStart start :: elements.map .measurementSeriesElement
  numbered : ∀ element ∈ elements, ∃ index : Nat, element.index = index

def Below (total : Nat) (elements : List Pb.MeasurementSeriesElement) : Prop :=
  ∀ element ∈ elements, element.index < total

theorem opened_start (start : Pb.MeasurementSeriesStart) :
    Opened ([] ++ [.measurementSeriesStart start]) [] :=
  ⟨⟨start, rfl⟩, fun _ nothing => absurd nothing List.not_mem_nil⟩

theorem Opened.snoc {trace : List Pb.TestStepVariant} {elements : List Pb.MeasurementSeriesElement}
    (opened : Opened trace elements) {element : Pb.MeasurementSeriesElement}
    (numbered : ∃ index : Nat, element.index = index) :
    Opened (trace ++ [.measurementSeriesElement element]) (elements ++ [element]) := by
  obtain ⟨⟨start, rfl⟩, earlier⟩ := opened
  refine ⟨⟨start, by simp⟩, fun other member => ?_⟩
  rcases List.mem_append.mp member with before | last
  · exact earlier other before
  · obtain rfl := List.mem_singleton.mp last
    exact numbered

/-- The number of the counter that an artifact carries. -/
def Pb.TestStepVariant.ticket? : Pb.TestStepVariant → Option Nat
  | .measurementSeriesElement element => some element.index.toNat
  | .measurementSeriesEnd seriesEnd => some seriesEnd.totalCount.toNat
  | _ => none

def tickets (trace : List Pb.TestStepVariant) : List Nat := trace.filterMap (·.ticket?)

theorem Opened.tickets_eq {trace : List Pb.TestStepVariant}
    {elements : List Pb.MeasurementSeriesElement} (opened : Opened trace elements) :
    tickets trace = elements.map (·.index.toNat) := by
  obtain ⟨⟨start, rfl⟩, _⟩ := opened
  rw [tickets, List.filterMap_cons_none rfl, List.filterMap_map, ← List.filterMap_eq_map]
  rfl

theorem Opened.below {trace : List Pb.TestStepVariant}
    {elements : List Pb.MeasurementSeriesElement} (opened : Opened trace elements) {total : Nat}
    (bound : ∀ ticket ∈ tickets trace, ticket < total) : Below total elements := by
  intro element member
  obtain ⟨index, same⟩ := opened.numbered element member
  have low := bound element.index.toNat (by
    rw [opened.tickets_eq]
    exact List.mem_map_of_mem member)
  omega

namespace MeasurementSeries

/-- The number of the counter that a thread carries. -/
def Frame.ticket? : Frame → Option Nat
  | .lockElement element | .checkElement element | .emitElement element =>
      some element.index.toNat
  | .emitEnd totalCount _ => some totalCount
  | _ => none

/-- What the artifacts of a series look like in every state. -/
structure Whole (series : MeasurementSeries) (seriesId : String)
    (trace : List Pb.TestStepVariant) : Prop where
  fresh : series.lifetime.constructed = false → trace = [] ∧ series.elementCount.count = 0
  running : series.lifetime.constructed = true → series.ended = false →
    ∃ elements, Opened trace elements
  shape : trace = [] ∨ (∃ elements, Opened trace elements) ∨
    ∃ earlier elements total, trace = earlier ++ [.measurementSeriesEnd ⟨seriesId, total⟩] ∧
      Opened earlier elements ∧ Below total elements

/-- What a thread knows of the artifacts where it is in a call. -/
def Frame.Recalls (series : MeasurementSeries) (seriesId : String)
    (trace : List Pb.TestStepVariant) : Frame → Prop
  | .lockElement element | .checkElement element => Fits seriesId element
  | .emitElement element => Fits seriesId element ∧ series.ended = false
  | .checkStepEnded _ => series.ended = false
  | .drawTotalCount _ => series.ended = true ∧ ∃ elements, Opened trace elements
  | .emitEnd totalCount _ =>
      series.ended = true ∧ ∃ elements, Opened trace elements ∧ Below totalCount elements
  | _ => True

variable {protobuf : Protobuf} {series next : MeasurementSeries} {ref : SeriesRef}
  {thread : ThreadId} {stepMutex : Option ThreadId} {stepEnded : Bool} {frame : Frame}
  {request : Request} {rest : Continue Frame} {seriesId : String}
  {trace : List Pb.TestStepVariant}

theorem Whole.of_same (whole : series.Whole seriesId trace)
    (constructed : next.lifetime.constructed = series.lifetime.constructed)
    (count : next.lifetime.constructed = false →
      next.elementCount.count = series.elementCount.count)
    (ended : next.ended = false → series.ended = false) : next.Whole seriesId trace := by
  refine ⟨fun isFresh => ?_, fun isConstructed running => ?_, whole.shape⟩
  · rw [count isFresh]
    exact whole.fresh (constructed ▸ isFresh)
  · exact whole.running (constructed ▸ isConstructed) (ended running)

theorem Frame.Recalls.of_same (recalls : frame.Recalls series seriesId trace)
    (ended : next.ended = series.ended) : frame.Recalls next seriesId trace := by
  cases frame with
  | emitElement element => exact ⟨recalls.1, ended.trans recalls.2⟩
  | checkStepEnded destroy => exact ended.trans recalls
  | drawTotalCount destroy | emitEnd totalCount destroy =>
      exact ⟨ended.trans recalls.1, recalls.2⟩
  | _ => exact recalls

/-- One step of a call. The total count is above the numbers of all elements, as it is drawn after
them. -/
theorem advances_whole (placed : frame.Placed series thread)
    (whole : series.Whole (strCat ref) trace) (recalls : frame.Recalls series (strCat ref) trace)
    (bound : ∀ ticket ∈ tickets trace, ticket < series.elementCount.count)
    (advances : Advances protobuf series ref thread stepMutex stepEnded frame next request rest) :
    next.Whole (strCat ref) (trace ++ request.toSeries (strCat ref)) ∧
    ∀ after, rest = .next after →
      after.Recalls next (strCat ref) (trace ++ request.toSeries (strCat ref)) := by
  have quiet : request.toSeries (strCat ref) = [] →
      trace ++ request.toSeries (strCat ref) = trace := fun nothing => by
    rw [nothing, List.append_nil]
  cases advances with
  | emitStart start built proto constructs =>
      obtain ⟨⟨typeIndex, rfl⟩, carries⟩ := construct_eq_ok constructs
      obtain ⟨rfl, _⟩ := whole.fresh (by rw [placed.constructing rfl]; rfl)
      rw [toSeries_artifact _ _ (.measurementSeriesStart proto) (congrArg some carries)]
      refine ⟨⟨fun isFresh => ?_, fun _ _ => ⟨[], opened_start proto⟩,
        Or.inr (Or.inl ⟨[], opened_start proto⟩)⟩, fun _ same => by cases same⟩
      cases isFresh
  | checkType element now _ free checked =>
      obtain ⟨rfl, _⟩ := setAndCheckSeriesType_eq_ok checked
      rw [quiet rfl]
      refine ⟨whole.of_same rfl (fun _ => rfl) id, ?_⟩
      rintro after ⟨⟩
      trivial
  | drawIndex element now _ proto drawn =>
      obtain ⟨rfl, index, carries⟩ := drawElement_eq_ok drawn
      rw [quiet rfl]
      have constructed : series.lifetime.constructed = true := placed.constructed rfl
      refine ⟨whole.of_same rfl (fun isFresh => ?_) id, ?_⟩
      · rw [constructed] at isFresh
        cases isFresh
      · rintro after ⟨⟩
        exact ⟨carries, series.elementCount.count, index⟩
  | lockElement element free =>
      rw [quiet rfl]
      refine ⟨whole.of_same rfl (fun _ => rfl) id, ?_⟩
      rintro after ⟨⟩
      exact recalls
  | checkElement element free active running =>
      rw [quiet rfl]
      refine ⟨whole.of_same rfl (fun _ => rfl) id, ?_⟩
      rintro after ⟨⟩
      exact ⟨recalls, running⟩
  | emitElement element =>
      obtain ⟨⟨carries, numbered⟩, running⟩ := recalls
      obtain ⟨elements, opened⟩ := whole.running (placed.constructed rfl) running
      have longer := opened.snoc numbered
      rw [toSeries_artifact _ _ (.measurementSeriesElement element) (congrArg some carries)]
      refine ⟨⟨fun isFresh => ?_, fun _ _ => ⟨_, longer⟩, Or.inr (Or.inl ⟨_, longer⟩)⟩,
        fun _ same => by cases same⟩
      have constructed : series.lifetime.constructed = true := placed.constructed rfl
      rw [constructed] at isFresh
      cases isFresh
  | endAgain destroy free ended =>
      rw [quiet rfl]
      have constructed : series.lifetime.constructed = true := placed.constructed rfl
      have still := afterEnd_constructed series destroy constructed
      refine ⟨whole.of_same (still.trans constructed.symm) (fun isFresh => ?_) ?_,
        fun _ same => by cases same⟩
      · rw [still] at isFresh
        cases isFresh
      · rw [afterEnd_ended]
        exact id
  | lockEnd destroy free running =>
      rw [quiet rfl]
      refine ⟨whole.of_same rfl (fun _ => rfl) id, ?_⟩
      rintro after ⟨⟩
      exact running
  | checkStepEnded destroy =>
      rw [quiet rfl]
      refine ⟨whole.of_same rfl (fun _ => rfl) (fun ended => by cases ended), ?_⟩
      rintro after ⟨⟩
      exact ⟨rfl, whole.running (placed.constructed rfl) recalls⟩
  | drawTotalCount destroy =>
      rw [quiet rfl]
      have constructed : series.lifetime.constructed = true := placed.constructed rfl
      refine ⟨whole.of_same rfl (fun isFresh => ?_) id, ?_⟩
      · rw [constructed] at isFresh
        cases isFresh
      · rintro after ⟨⟩
        obtain ⟨ended, elements, opened⟩ := recalls
        exact ⟨ended, elements, opened, opened.below bound⟩
  | emitEnd totalCount destroy =>
      rw [toSeries_artifact _ _ _ rfl]
      have still := afterEnd_constructed { series with mutex := none } destroy
        (placed.constructed rfl)
      obtain ⟨ended, elements, opened, below⟩ := recalls
      refine ⟨⟨fun isFresh => ?_, fun _ running => ?_,
        Or.inr (Or.inr ⟨trace, elements, totalCount, rfl, opened, below⟩)⟩,
        fun _ same => by cases same⟩
      · rw [still] at isFresh
        cases isFresh
      · rw [afterEnd_ended] at running
        rw [show series.ended = false from running] at ended
        cases ended
  | _ =>
      rw [quiet rfl]
      refine ⟨whole.of_same rfl (fun _ => rfl) id, ?_⟩
      rintro after ⟨⟩
      all_goals trivial

def restTicket? : Continue Frame → Option Nat
  | .next frame => frame.ticket?
  | _ => none

/-- A step hands on or writes the number that its thread carries and the one that it draws, and
only a step that fails its check drops one. -/
theorem advances_tickets (recalls : frame.Recalls series (strCat ref) trace)
    (advances : Advances protobuf series ref thread stepMutex stepEnded frame next request rest) :
    ∃ taken : List Nat,
      Multiset.range next.elementCount.count =
        Multiset.range series.elementCount.count + ↑taken ∧
      (tickets (request.toSeries (strCat ref)) ++ (restTicket? rest).toList =
          frame.ticket?.toList ++ taken ∨
        (∃ message, rest = .die message) ∧ tickets (request.toSeries (strCat ref)) = [] ∧
          taken = []) := by
  have drawn : Multiset.range (series.elementCount.count + 1) =
      Multiset.range series.elementCount.count + ↑[series.elementCount.count] := by
    rw [Multiset.range_succ, Multiset.coe_singleton, add_comm]
    rfl
  cases advances with
  | emitStart start built proto constructs =>
      obtain ⟨⟨typeIndex, rfl⟩, carries⟩ := construct_eq_ok constructs
      rw [toSeries_artifact _ _ (.measurementSeriesStart proto) (congrArg some carries)]
      exact ⟨[], (add_zero _).symm, Or.inl rfl⟩
  | checkType element now _ free checked =>
      obtain ⟨rfl, _⟩ := setAndCheckSeriesType_eq_ok checked
      exact ⟨[], (add_zero _).symm, Or.inl rfl⟩
  | drawIndex element now _ proto draws =>
      obtain ⟨rfl, index, _⟩ := drawElement_eq_ok draws
      refine ⟨[series.elementCount.count], drawn, Or.inl ?_⟩
      rw [restTicket?, Frame.ticket?, index, Int.toNat_natCast]
      rfl
  | emitElement element =>
      rw [toSeries_artifact _ _ (.measurementSeriesElement element) (congrArg some recalls.1.1)]
      exact ⟨[], (add_zero _).symm, Or.inl rfl⟩
  | endAgain destroy free ended =>
      refine ⟨[], ?_, Or.inl rfl⟩
      cases destroy <;> exact (add_zero _).symm
  | drawTotalCount destroy => exact ⟨[series.elementCount.count], drawn, Or.inl rfl⟩
  | emitEnd totalCount destroy =>
      rw [toSeries_artifact _ _ _ rfl]
      refine ⟨[], ?_, Or.inl rfl⟩
      cases destroy <;> exact (add_zero _).symm
  | checkStepDies start message | emitStartDies start message
  | checkTypeDies element now message free | drawIndexDies element now message
  | checkElementDies element message =>
      exact ⟨[], (add_zero _).symm, Or.inr ⟨⟨message, rfl⟩, rfl, rfl⟩⟩
  | _ => exact ⟨[], (add_zero _).symm, Or.inl rfl⟩

end MeasurementSeries

theorem tickets_append (earlier later : List Pb.TestStepVariant) :
    tickets (earlier ++ later) = tickets earlier ++ tickets later := List.filterMap_append

namespace Process

structure SeriesWhole (process : Process) : Prop where
  whole : ∀ ref, (process.series ref).Whole (strCat ref) (process.seriesArtifacts (strCat ref))
  foreign : ∀ seriesId, (∀ ref, strCat ref ≠ seriesId) → process.seriesArtifacts seriesId = []

def SeriesRecalled (process : Process) : Frame → Prop
  | .series ref frame =>
      frame.Recalls (process.series ref) (strCat ref) (process.seriesArtifacts (strCat ref))
  | _ => True

/-- The number of a series' counter that a thread carries. -/
def ticketFor (ref : SeriesRef) : Frame → Option Nat
  | .series other frame => if other = ref then frame.ticket? else none
  | _ => none

theorem ticketFor_outside {ref : SeriesRef} {frame : Frame} (outside : Outside ref frame) :
    ticketFor ref frame = none := by
  cases frame with
  | series other inner =>
      by_cases here : other = ref
      · subst here
        have entry := outside inner rfl
        rw [ticketFor, if_pos rfl]
        cases inner <;> first | rfl | cases entry
      · exact if_neg here
  | _ => rfl

theorem ticketFor_toFrame (ref : SeriesRef) (rest : Continue MeasurementSeries.Frame) :
    ticketFor ref (rest.toFrame (.series ref)) = MeasurementSeries.restTicket? rest := by
  cases rest with
  | next frame => exact if_pos rfl
  | done => rfl
  | die message => rfl

section

variable {settings : Settings} {ref : SeriesRef} {thread : ThreadId} {label : Label}
  {process after : Process} {frame next : Frame}

theorem carries_of_recalled {other : SeriesRef} {inner : MeasurementSeries.Frame}
    (recalled : process.SeriesRecalled (.series other inner)) :
    ∀ element, inner = .emitElement element → element.measurementSeriesId = strCat other := by
  rintro element rfl
  exact recalled.1.1

theorem seriesMove_of_recalled (allocated : process.Allocated)
    (recalled : process.SeriesRecalled frame)
    (moves : Moves settings thread process label frame after next) (ref : SeriesRef) :
    SeriesMove settings ref thread label process frame after next := by
  cases frame with
  | series other inner =>
      cases moves with
      | log _ severity message _ delivered =>
          exact .of_same (by rw [(deliver_same delivered).series])
            (seriesArtifacts_deliver delivered _) (Or.inl rfl)
      | series _ _ series request rest performed advance _ _ advances perform =>
          have same := (perform_spec _ _ _ _ _ _ perform).1
          have artifacts := seriesArtifacts_perform perform (strCat ref)
          by_cases self : ref = other
          · subst self
            refine .here inner request rest (process.steps (process.series ref).testStep).mutex
              (process.steps (process.series ref).testStep).ended rfl advance ?_ artifacts rfl
            simpa only [setSeries, Function.update_self] using advances
          · have different : strCat other ≠ strCat ref :=
              fun same => self (strCat_injective same).symm
            rw [MeasurementSeries.toSeries_other (carries_of_recalled recalled) _ different
                advances,
              List.append_nil] at artifacts
            refine .of_same ?_ artifacts (Or.inr ⟨outside_of_ne ?_, outside_of_ne ?_⟩)
            · simp only [setSeries, ne_eq, self, not_false_eq_true, Function.update_of_ne,
                same.series]
            · simp [eq_comm, self]
            · cases rest <;> simp [Continue.toFrame, eq_comm, self]
  | _ => exact moves_seriesMove allocated (by exact trivial) moves ref

theorem foreign_of_recalled (recalled : process.SeriesRecalled frame)
    (moves : Moves settings thread process label frame after next) (seriesId : String)
    (foreign : ∀ ref, strCat ref ≠ seriesId) :
    after.seriesArtifacts seriesId = process.seriesArtifacts seriesId := by
  cases frame with
  | series other inner =>
      cases moves with
      | log _ severity message _ delivered => exact seriesArtifacts_deliver delivered _
      | series _ _ series request rest performed _ _ _ advances perform =>
          have added := seriesArtifacts_perform perform seriesId
          rwa [MeasurementSeries.toSeries_other (carries_of_recalled recalled) _ (foreign other)
            advances, List.append_nil] at added
  | _ => exact moves_foreign (by exact trivial) moves seriesId foreign

theorem recalls_of_entry {inner : MeasurementSeries.Frame} (entry : inner.entry = true)
    (series : MeasurementSeries) (seriesId : String) (trace : List Pb.TestStepVariant) :
    inner.Recalls series seriesId trace :=
  MeasurementSeries.of_entry (fun _ => trivial) (fun _ _ => trivial) (fun _ => trivial) entry

theorem SeriesMove.whole (placed : process.Placed thread frame)
    (whole : (process.series ref).Whole (strCat ref) (process.seriesArtifacts (strCat ref)))
    (recalled : process.SeriesRecalled frame)
    (bound : ∀ ticket ∈ tickets (process.seriesArtifacts (strCat ref)),
      ticket < (process.series ref).elementCount.count)
    (move : SeriesMove settings ref thread label process frame after next) :
    (after.series ref).Whole (strCat ref) (after.seriesArtifacts (strCat ref)) ∧
    (∀ inner, next = .series ref inner →
      inner.Recalls (after.series ref) (strCat ref) (after.seriesArtifacts (strCat ref))) ∧
    (after.seriesArtifacts (strCat ref) = process.seriesArtifacts (strCat ref) ∨
      (process.series ref).mutex = some thread ∨
      (process.series ref).lifetime = .constructing thread) := by
  cases move with
  | elsewhere mutex ended count constructed artifacts frames =>
      rw [artifacts]
      refine ⟨whole.of_same constructed (fun _ => by rw [count]) (fun running => ended ▸ running),
        fun inner here => ?_, Or.inl rfl⟩
      rcases frames with same | ⟨_, outside⟩
      · subst here
        rw [← same] at recalled
        exact recalled.of_same ended
      · exact recalls_of_entry (outside inner here) _ _ _
  | born unborn constructing fresh artifacts _ outside =>
      obtain ⟨empty, _⟩ := whole.fresh (by rw [unborn]; rfl)
      rw [artifacts, empty]
      refine ⟨⟨fun _ => ⟨rfl, by rw [fresh]⟩, fun constructed => ?_, Or.inl rfl⟩,
        fun inner here => recalls_of_entry (outside inner here) _ _ _, Or.inl rfl⟩
      rw [constructing] at constructed
      cases constructed
  | here inner request rest stepMutex stepEnded same advance advances artifacts continues =>
      subst same continues
      rw [artifacts]
      obtain ⟨kept, recalls⟩ :=
        MeasurementSeries.advances_whole placed.2 whole recalled bound advances
      refine ⟨kept, ?_, MeasurementSeries.toSeries_keeps placed.2 advances⟩
      cases rest with
      | next after =>
          rintro inner ⟨⟩
          exact recalls after rfl
      | done => rintro inner ⟨⟩
      | die message => rintro inner ⟨⟩

/-- What a step of the program draws from the counter of a series, and what becomes of it. -/
theorem SeriesMove.tickets
    (whole : (process.series ref).Whole (strCat ref) (process.seriesArtifacts (strCat ref)))
    (recalled : process.SeriesRecalled frame)
    (move : SeriesMove settings ref thread label process frame after next) :
    ∃ taken : List Nat,
      Multiset.range (after.series ref).elementCount.count =
        Multiset.range (process.series ref).elementCount.count + ↑taken ∧
      (Results.tickets (after.seriesArtifacts (strCat ref)) ++ (ticketFor ref next).toList =
          Results.tickets (process.seriesArtifacts (strCat ref)) ++
            ((ticketFor ref frame).toList ++ taken) ∨
        next.dead ∧ taken = [] ∧ ticketFor ref next = none ∧
          Results.tickets (after.seriesArtifacts (strCat ref)) =
            Results.tickets (process.seriesArtifacts (strCat ref))) := by
  cases move with
  | elsewhere mutex ended count constructed artifacts frames =>
      refine ⟨[], by rw [count]; exact (add_zero _).symm, Or.inl ?_⟩
      rw [artifacts, List.append_nil]
      rcases frames with rfl | ⟨before, outside⟩
      · rfl
      · rw [ticketFor_outside before, ticketFor_outside outside]
  | born unborn constructing fresh artifacts before outside =>
      obtain ⟨_, zero⟩ := whole.fresh (by rw [unborn]; rfl)
      refine ⟨[], by rw [fresh, zero]; rfl, Or.inl ?_⟩
      rw [artifacts, ticketFor_outside before, ticketFor_outside outside]
      rfl
  | here inner request rest stepMutex stepEnded same advance advances artifacts continues =>
      subst same continues
      obtain ⟨taken, drawn, hands⟩ := MeasurementSeries.advances_tickets recalled advances
      refine ⟨taken, drawn, ?_⟩
      rw [artifacts, tickets_append, ticketFor_toFrame, ticketFor, if_pos rfl]
      rcases hands with moved | ⟨⟨message, rfl⟩, nothing, rfl⟩
      · rw [List.append_assoc, moved]
        exact Or.inl rfl
      · rw [nothing, List.append_nil]
        exact Or.inr ⟨trivial, rfl, rfl, rfl⟩

end

/-- What a thread carries of a series' counter, as a bag. -/
def ticketBag (ref : SeriesRef) (frame : Frame) : Multiset Nat := ↑(ticketFor ref frame).toList

def writtenTickets (ref : SeriesRef) (process : Process) : Multiset Nat :=
  ↑(Results.tickets (process.seriesArtifacts (strCat ref)))

/-- The numbers of every counter, in every state. -/
structure SeriesCounted (threads : Finset ThreadId) (pool : Pool Process Frame) : Prop where
  held : MutexesHeld pool
  outline : Outline SeriesWhole (fun process _ frame => process.SeriesRecalled frame) pool
  delivers : ∀ ref, Delivers (ticketBag ref) Frame.dead (writtenTickets ref) threads
    (Multiset.range (pool.shared.series ref).elementCount.count) pool

theorem SeriesCounted.written_le {threads : Finset ThreadId} {pool : Pool Process Frame}
    (counted : SeriesCounted threads pool) (ref : SeriesRef) :
    writtenTickets ref pool.shared ≤
      Multiset.range (pool.shared.series ref).elementCount.count :=
  le_trans (Multiset.le_add_right _ _) (counted.delivers ref).sound

theorem SeriesCounted.bound {threads : Finset ThreadId} {pool : Pool Process Frame}
    (counted : SeriesCounted threads pool) (ref : SeriesRef) :
    ∀ ticket ∈ Results.tickets (pool.shared.seriesArtifacts (strCat ref)),
      ticket < (pool.shared.series ref).elementCount.count := fun _ member =>
  Multiset.mem_range.mp (Multiset.mem_of_le (counted.written_le ref) (Multiset.mem_coe.mpr member))

theorem seriesCounted_initial (threads : Finset ThreadId) (testRunStart : TestRunStart) :
    SeriesCounted threads (initialPool testRunStart) := by
  refine ⟨mutexesHeld_initial testRunStart, ⟨⟨fun ref => ⟨fun _ => ⟨rfl, rfl⟩,
    fun constructed => ?_, Or.inl rfl⟩, fun _ _ => rfl⟩, fun _ => trivial⟩, fun ref => ?_⟩
  · cases constructed
  · have idle : inFlight (ticketBag ref) threads (initialPool testRunStart) = 0 :=
      Finset.sum_eq_zero fun _ _ => rfl
    refine ⟨?_, fun _ => ?_⟩
    · rw [idle]
      exact le_refl _
    · rw [idle]
      rfl

theorem seriesCounted_step (settings : Settings) (threads : Finset ThreadId)
    (pool : Pool Process Frame) (label : ThreadId × Label) (final : Pool Process Frame)
    (member : label.1 ∈ threads) (counted : SeriesCounted threads pool)
    (stepped : systemStep settings pool label = some final) : SeriesCounted threads final := by
  have moved : ∀ next after,
      Moves settings label.1 pool.shared label.2 (pool.frames label.1) next after → ∀ ref,
      SeriesMove settings ref label.1 label.2 pool.shared (pool.frames label.1) next after :=
    fun next after moves ref =>
      seriesMove_of_recalled counted.held.shared (counted.outline.threads label.1) moves ref
  refine ⟨mutexesHeld_step settings pool final label counted.held stepped, ?_, fun ref => ?_⟩
  · refine outline_of_moves KeepsArtifacts counted.held counted.outline stepped ?_ ?_
    · intro next after moves
      have kept := fun ref => SeriesMove.whole (counted.held.threads label.1)
        (counted.outline.shared.whole ref) (counted.outline.threads label.1) (counted.bound ref)
        (moved next after moves ref)
      refine ⟨⟨fun ref => (kept ref).1, fun seriesId foreign => ?_⟩, ?_, fun ref => (kept ref).2.2⟩
      · rw [foreign_of_recalled (counted.outline.threads label.1) moves seriesId foreign]
        exact counted.outline.shared.foreign seriesId foreign
      · cases after with
        | series ref inner => exact (kept ref).2.1 inner rfl
        | _ => trivial
    · intro next thread different kept artifacts placed recalled
      cases here : pool.frames thread with
      | series ref frame =>
          rw [here] at placed recalled
          have keeps := kept.series ref placed.1
          have same : frame.holds = true → next.seriesArtifacts (strCat ref) =
              pool.shared.seriesArtifacts (strCat ref) := by
            intro holds
            rcases artifacts ref with same | theirs | theirs
            · exact same
            · rw [placed.2.held holds] at theirs
              exact absurd (Option.some.inj theirs) different
            · have constructed : frame.constructs = false := by
                cases frame <;> first | rfl | cases holds
              have live := placed.2.constructed constructed
              rw [theirs] at live
              cases live
          cases frame with
          | emitElement element =>
              exact ⟨recalled.1,
                (keeps.guarded thread different (placed.2.held rfl)).2.1.trans recalled.2⟩
          | checkStepEnded destroy =>
              exact (keeps.guarded thread different (placed.2.held rfl)).2.1.trans recalled
          | drawTotalCount destroy | emitEnd totalCount destroy =>
              exact ⟨keeps.ended recalled.1, (same rfl).symm ▸ recalled.2⟩
          | _ => exact recalled
      | _ => trivial
  · obtain ⟨next, after, taken, rfl⟩ := (poolStep_eq_some _ pool final label).mp stepped
    have move := moved next after (moves_of_exec _ _ _ _ _ _ _ taken) ref
    obtain ⟨drawn, range, hands⟩ :=
      move.tickets (counted.outline.shared.whole ref) (counted.outline.threads label.1)
    rw [range]
    refine delivers_step _ (counted.delivers ref) member stepped fun shared frame again => ?_
    obtain ⟨rfl, rfl⟩ : next = shared ∧ after = frame :=
      Prod.mk.inj (Option.some.inj (taken.symm.trans again))
    obtain ⟨_, _, stays, _⟩ := exec_hands taken
    simp only [ticketBag, writtenTickets, Multiset.coe_add, List.append_assoc]
    rcases hands with same | ⟨dead, rfl, nothing, written⟩
    · rw [same]
      exact ⟨stays, le_refl _, fun _ => rfl⟩
    · refine ⟨stays, ?_, fun alive => absurd dead alive⟩
      rw [nothing, written, Option.toList_none, List.append_nil, ← Multiset.coe_add]
      exact Multiset.le_add_right _ _

end Process

/-- A prefix of a start, elements with different numbers and an end with a total above them. -/
def Numbered (seriesId : String) (trace : List Pb.TestStepVariant) : Prop :=
  ∃ start, ∃ elements : List Pb.MeasurementSeriesElement, ∃ total : Nat,
    (elements.map (·.index)).Nodup ∧
    (∀ element ∈ elements, 0 ≤ element.index ∧ element.index < total) ∧
    trace <+: .measurementSeriesStart start :: elements.map .measurementSeriesElement ++
      [.measurementSeriesEnd ⟨seriesId, total⟩]

/-- A start and elements that have the numbers 0, 1, 2 and so on, in some order, and their total if
the series has ended. -/
def Complete (seriesId : String) (trace : List Pb.TestStepVariant) : Prop :=
  ∃ start, ∃ elements : List Pb.MeasurementSeriesElement,
    (elements.map (·.index)).Perm ((List.range elements.length).map fun position : Nat =>
      (position : Int)) ∧
    (trace = .measurementSeriesStart start :: elements.map .measurementSeriesElement ∨
      trace = .measurementSeriesStart start :: elements.map .measurementSeriesElement ++
        [.measurementSeriesEnd ⟨seriesId, elements.length⟩])

theorem index_eq_toNat {elements : List Pb.MeasurementSeriesElement}
    (numbered : ∀ element ∈ elements, ∃ index : Nat, element.index = index) :
    elements.map (·.index) =
      (elements.map (·.index.toNat)).map fun position : Nat => (position : Int) := by
  rw [List.map_map]
  refine List.map_congr_left fun element member => ?_
  obtain ⟨index, same⟩ := numbered element member
  rw [Function.comp_apply, same, Int.toNat_natCast]

theorem Opened.nodup {trace : List Pb.TestStepVariant}
    {elements : List Pb.MeasurementSeriesElement} (opened : Opened trace elements)
    (distinct : (tickets trace).Nodup) : (elements.map (·.index)).Nodup := by
  rw [opened.tickets_eq] at distinct
  rw [index_eq_toNat opened.numbered]
  exact distinct.map fun _ _ => Int.ofNat.inj

theorem Opened.between {trace : List Pb.TestStepVariant}
    {elements : List Pb.MeasurementSeriesElement} (opened : Opened trace elements) {total : Nat}
    (below : Below total elements) :
    ∀ element ∈ elements, 0 ≤ element.index ∧ element.index < total := by
  intro element member
  obtain ⟨index, same⟩ := opened.numbered element member
  have high := below element member
  omega

/-- Numbers that are all different and below their count are the numbers up to it. -/
theorem perm_range_of_lt {numbers : List Nat} (distinct : numbers.Nodup)
    (low : ∀ number ∈ numbers, number < numbers.length) :
    numbers.Perm (List.range numbers.length) := by
  have inside : numbers ⊆ List.range numbers.length :=
    fun number member => List.mem_range.mpr (low number member)
  exact (distinct.subperm inside).perm_of_length_le (by rw [List.length_range])

theorem Opened.complete {trace : List Pb.TestStepVariant}
    {elements : List Pb.MeasurementSeriesElement} (opened : Opened trace elements)
    (distinct : (tickets trace).Nodup) (below : Below elements.length elements) :
    (elements.map (·.index)).Perm ((List.range elements.length).map fun position : Nat =>
      (position : Int)) := by
  rw [opened.tickets_eq] at distinct
  have low : ∀ number ∈ elements.map (·.index.toNat),
      number < (elements.map (·.index.toNat)).length := by
    intro number member
    obtain ⟨element, inside, rfl⟩ := List.mem_map.mp member
    have between := opened.between below element inside
    rw [List.length_map]
    omega
  have all := perm_range_of_lt distinct low
  rw [List.length_map] at all
  rw [index_eq_toNat opened.numbered]
  exact all.map _

namespace MeasurementSeries

variable {series : MeasurementSeries} {seriesId : String} {trace : List Pb.TestStepVariant}

theorem Whole.numbered (whole : series.Whole seriesId trace) {count : Nat}
    (written : (↑(tickets trace) : Multiset Nat) ≤ Multiset.range count) :
    Numbered seriesId trace := by
  have distinct : (tickets trace).Nodup :=
    Multiset.coe_nodup.mp (Multiset.nodup_of_le written (Multiset.nodup_range count))
  rcases whole.shape with rfl | ⟨elements, opened⟩ | ⟨earlier, elements, total, rfl, opened, below⟩
  · exact ⟨{}, [], 0, List.nodup_nil, fun _ nothing => absurd nothing List.not_mem_nil,
      List.nil_prefix⟩
  · have below : Below count elements := opened.below fun ticket member =>
      Multiset.mem_range.mp (Multiset.mem_of_le written (Multiset.mem_coe.mpr member))
    obtain ⟨start, same⟩ := opened.trace
    exact ⟨start, elements, count, opened.nodup distinct, opened.between below,
      same ▸ List.prefix_append _ _⟩
  · rw [tickets_append] at distinct
    obtain ⟨start, same⟩ := opened.trace
    exact ⟨start, elements, total, opened.nodup (List.nodup_append.mp distinct).1,
      opened.between below, same ▸ List.prefix_refl _⟩

/-- When all numbers that were drawn have been written, the last of them is the total. -/
theorem Whole.complete (whole : series.Whole seriesId trace) {count : Nat}
    (written : Multiset.range count = (↑(tickets trace) : Multiset Nat)) (nonempty : trace ≠ []) :
    Complete seriesId trace := by
  have distinct : (tickets trace).Nodup :=
    Multiset.coe_nodup.mp (written ▸ Multiset.nodup_range count)
  have length : count = (tickets trace).length := by
    rw [← Multiset.coe_card, ← written, Multiset.card_range]
  have low : ∀ ticket ∈ tickets trace, ticket < count := fun ticket member =>
    Multiset.mem_range.mp (written ▸ Multiset.mem_coe.mpr member)
  rcases whole.shape with empty | ⟨elements, opened⟩ |
    ⟨earlier, elements, total, rfl, opened, below⟩
  · exact absurd empty nonempty
  · obtain ⟨start, same⟩ := opened.trace
    rw [opened.tickets_eq, List.length_map] at length
    exact ⟨start, elements, opened.complete distinct (opened.below (length ▸ low)), Or.inl same⟩
  · obtain ⟨start, same⟩ := opened.trace
    have numbers : tickets (earlier ++ [.measurementSeriesEnd ⟨seriesId, total⟩]) =
        elements.map (·.index.toNat) ++ [total] := by
      rw [tickets_append, opened.tickets_eq]
      rfl
    rw [numbers] at distinct length low
    have others := (List.nodup_append.mp distinct).1
    have last := low total (List.mem_append_right _ (List.mem_singleton_self total))
    rw [List.length_append, List.length_map, List.length_singleton] at length
    have within : elements.map (·.index.toNat) ⊆ List.range total := by
      intro number member
      obtain ⟨element, inside, rfl⟩ := List.mem_map.mp member
      have between := opened.between below element inside
      exact List.mem_range.mpr (by omega)
    have room := (others.subperm within).length_le
    rw [List.length_map, List.length_range] at room
    obtain rfl : total = elements.length := by omega
    exact ⟨start, elements, opened.complete (opened.tickets_eq ▸ others) below,
      Or.inr (same ▸ rfl)⟩

end MeasurementSeries

theorem seriesCounted_of_run (settings : Settings) (testRunStart : TestRunStart)
    (labels : List (ThreadId × Label)) (final : Pool Process Frame)
    (reached : Runs.run (systemStep settings) (initialPool testRunStart) labels = some final) :
    Process.SeriesCounted (callers labels) final := by
  have kept := Runs.run_preserves_history (systemStep settings)
    (fun history pool => (∀ label ∈ history, label.1 ∈ callers labels) →
      Process.SeriesCounted (callers labels) pool)
    (fun history pool label next counted stepped each =>
      Process.seriesCounted_step settings _ pool label next (each label (by simp))
        (counted fun other before => each other (List.mem_append_left _ before)) stepped)
    [] (initialPool testRunStart) final labels
    (fun _ => Process.seriesCounted_initial _ testRunStart) reached
  exact kept fun label member => List.mem_toFinset.mpr (List.mem_map_of_mem member)

theorem complete_of_rest (settings : Settings) (testRunStart : TestRunStart)
    (labels : List (ThreadId × Label)) (final : Pool Process Frame)
    (reached : Runs.run (systemStep settings) (initialPool testRunStart) labels = some final)
    (atRest : ∀ thread, final.frames thread = .idle) (seriesId : String) :
    final.shared.seriesArtifacts seriesId = [] ∨
      Complete seriesId (final.shared.seriesArtifacts seriesId) := by
  have counted := seriesCounted_of_run settings testRunStart labels final reached
  by_cases drawn : ∃ ref, strCat ref = seriesId
  · obtain ⟨ref, rfl⟩ := drawn
    have written := (counted.delivers ref).eq_of_rest fun thread => by
      rw [atRest thread]
      exact ⟨rfl, id⟩
    exact or_iff_not_imp_left.mpr ((counted.outline.shared.whole ref).complete written)
  · exact Or.inl (counted.outline.shared.foreign seriesId fun ref same => drawn ⟨ref, same⟩)

/-- However the calls overtake each other, no number of a series is written twice, none is at or
above the total that End() writes last, and once no call is under way none is missing: the total is
the number of elements. -/
theorem series_numbered (settings : Settings) (testRunStart : TestRunStart)
    (labels : List (ThreadId × Label)) (final : Pool Process Frame)
    (reached : Runs.run (systemStep settings) (initialPool testRunStart) labels = some final)
    (seriesId : String) :
    Numbered seriesId (final.shared.seriesArtifacts seriesId) ∧
    ((∀ thread, final.frames thread = .idle) →
      final.shared.seriesArtifacts seriesId = [] ∨
        Complete seriesId (final.shared.seriesArtifacts seriesId)) := by
  refine ⟨?_, fun atRest =>
    complete_of_rest settings testRunStart labels final reached atRest seriesId⟩
  have counted := seriesCounted_of_run settings testRunStart labels final reached
  by_cases drawn : ∃ ref, strCat ref = seriesId
  · obtain ⟨ref, rfl⟩ := drawn
    exact (counted.outline.shared.whole ref).numbered (counted.written_le ref)
  · rw [counted.outline.shared.foreign seriesId fun ref same => drawn ⟨ref, same⟩]
    exact ⟨{}, [], 0, List.nodup_nil, fun _ member => absurd member List.not_mem_nil,
      List.nil_prefix⟩

/-- The series of two threads that overtake each other, and then end it. -/
def overtakingSeries : List (ThreadId × Label) :=
  twoElements 1 0 ++ callLabels 1 (.endMeasurementSeries 0) 4

theorem overtakingSeries_atRest :
    ∃ final, Runs.run (systemStep sampleSettings) (initialPool sampleTestRunStart)
        overtakingSeries = some final ∧
      (final.shared.seriesArtifacts "0").length = 5 ∧ ∀ thread, final.frames thread = .idle := by
  obtain ⟨final, reached, length, returned, other⟩ :
      ∃ final, Runs.run (systemStep sampleSettings) (initialPool sampleTestRunStart)
          overtakingSeries = some final ∧
        (final.shared.seriesArtifacts "0").length = 5 ∧
        final.frames 0 = .idle ∧ final.frames 1 = .idle :=
    ⟨_, rfl, rfl, rfl, rfl⟩
  have only : callers overtakingSeries = {0, 1} := by decide
  exact ⟨final, reached, length, atRest_of_callers sampleSettings sampleTestRunStart
    overtakingSeries final reached (by simp [only, returned, other])⟩

theorem series_numbered_overtakingSeries :
    ∃ final, Runs.run (systemStep sampleSettings) (initialPool sampleTestRunStart)
        overtakingSeries = some final ∧
      (final.shared.seriesArtifacts "0").length = 5 ∧
      Complete "0" (final.shared.seriesArtifacts "0") := by
  obtain ⟨final, reached, length, atRest⟩ := overtakingSeries_atRest
  have numbered := series_numbered sampleSettings sampleTestRunStart overtakingSeries final reached
  refine ⟨final, reached, length, ((numbered "0").2 atRest).resolve_left fun nothing => ?_⟩
  rw [nothing] at length
  cases length

end OcpDiag.Results
