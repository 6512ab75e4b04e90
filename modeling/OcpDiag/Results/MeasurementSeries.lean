import OcpDiag.Results.CallStep
import OcpDiag.Results.StructToProto
import OcpDiag.Results.StructValidators

set_option autoImplicit false

namespace OcpDiag.Results

open ThreadPool

structure MeasurementSeries where
  testStep : StepRef := 0
  elementCount : IntIncrementer := {}
  mutex : Option ThreadId := none
  ended : Bool := false
  typeIndex : Int := -1
  lifetime : Lifetime := .unborn
  deriving DecidableEq, Repr

namespace MeasurementSeries

/-- Where a thread is in a call of a MeasurementSeries. -/
inductive Frame where
  | checkStep (start : MeasurementSeriesStart)
  | emitStart (start : MeasurementSeriesStart)
  | checkType (element : MeasurementSeriesElement) (now : Pb.Timestamp)
  | drawIndex (element : MeasurementSeriesElement) (now : Pb.Timestamp)
  | lockElement (element : Pb.MeasurementSeriesElement)
  | checkElement (element : Pb.MeasurementSeriesElement)
  | emitElement (element : Pb.MeasurementSeriesElement)
  | lockEnd (destroy : Bool)
  | checkStepEnded (destroy : Bool)
  | drawTotalCount (destroy : Bool)
  | emitEnd (totalCount : Nat) (destroy : Bool)

/-- The body of SetAndCheckSeriesType(), under the series' mutex. -/
def setAndCheckSeriesType (series : MeasurementSeries) (typeIndex : Int) :
    Outcome MeasurementSeries := do
  let series := if series.typeIndex = -1 then { series with typeIndex } else series
  check (series.typeIndex == typeIndex) "type_index_ == type_index"
    ("All validators and elements in a measurement series " ++
      "must have the same type.")
  return series

/-- What the constructor does once it knows that the step has not ended. -/
def construct (protobuf : Protobuf) (series : MeasurementSeries) (ref : SeriesRef)
    (start : MeasurementSeriesStart) : Outcome (MeasurementSeries × Pb.MeasurementSeriesStart) := do
  start.validateStructOrDie
  let series ← match start.validators with
    | [] => pure series
    | validator :: _ => do
        let first ← firstValue validator.value
        series.setAndCheckSeriesType first.index
  let proto ← start.structToProto protobuf
  return (series, { proto with measurementSeriesId := strCat ref })

/-- What the constructor writes is the conversion of its argument, with the series id. -/
theorem construct_proto {protobuf : Protobuf} {series next : MeasurementSeries} {ref : SeriesRef}
    {start : MeasurementSeriesStart} {proto : Pb.MeasurementSeriesStart}
    (built : series.construct protobuf ref start = .ok (next, proto)) :
    ∃ converted, start.structToProto protobuf = .ok converted ∧
      proto = { converted with measurementSeriesId := strCat ref } := by
  simp only [construct, Outcome.bind_eq_ok] at built
  obtain ⟨_, _, built⟩ := built
  cases validators : start.validators with
  | nil =>
      simp only [validators, Outcome.pure_eq_ok, Outcome.ok_bind, Outcome.bind_eq_ok,
        Outcome.ok.injEq, Prod.mk.injEq] at built
      obtain ⟨converted, conversion, _, same⟩ := built
      exact ⟨converted, conversion, same.symm⟩
  | cons validator rest =>
      simp only [validators, Outcome.bind_eq_ok, Outcome.pure_eq_ok,
        Outcome.ok.injEq, Prod.mk.injEq] at built
      obtain ⟨_, _, _, _, converted, conversion, _, same⟩ := built
      exact ⟨converted, conversion, same.symm⟩

/-- AssignStepIdAndEmitArtifact(). -/
def artifact (series : MeasurementSeries) (variant : Pb.TestStepVariant) : Pb.OutputVariant :=
  .testStepArtifact ⟨variant, strCat series.testStep⟩

/-- The conversion of an element, and the number that it takes from the counter. -/
def drawElement (protobuf : Protobuf) (series : MeasurementSeries) (ref : SeriesRef)
    (element : MeasurementSeriesElement) (now : Pb.Timestamp) :
    Outcome (MeasurementSeries × Pb.MeasurementSeriesElement) := do
  let proto ← element.structToProto protobuf
  let proto := if element.timestamp.isNone then { proto with timestamp := now } else proto
  let (index, elementCount) ← series.elementCount.next
  return ({ series with elementCount },
    { proto with index, measurementSeriesId := strCat ref })

def afterEnd (series : MeasurementSeries) (destroy : Bool) : MeasurementSeries :=
  if destroy then { series with lifetime := .destroyed } else series

/-- One step of a call. Ended() of the test step takes that step's mutex. -/
def advance (protobuf : Protobuf) (series : MeasurementSeries) (ref : SeriesRef)
    (thread : ThreadId) (stepMutex : Option ThreadId) (stepEnded : Bool) :
    Frame → Option (MeasurementSeries × Request × Continue Frame)
  | .checkStep start =>
      match stepMutex with
      | some _ => none
      | none => orDie series (check (!stepEnded) "!test_step.Ended()"
          "MeasurementSeries can only be created with active TestSteps") fun _ =>
            (series, .none, .next (.emitStart start))
  | .emitStart start =>
      orDie series (series.construct protobuf ref start) fun (series, proto) =>
        ({ series with lifetime := .live },
          .write (series.artifact (.measurementSeriesStart proto)), .done)
  | .checkType element now =>
      match series.mutex with
      | some _ => none
      | none => orDie { series with mutex := some thread }
          (series.setAndCheckSeriesType element.value.index) fun series =>
            (series, .none, .next (.drawIndex element now))
  | .drawIndex element now =>
      orDie series (series.drawElement protobuf ref element now) fun (series, proto) =>
        (series, .none, .next (.lockElement proto))
  | .lockElement element =>
      match series.mutex with
      | some _ => none
      | none => some ({ series with mutex := some thread }, .none, .next (.checkElement element))
  | .checkElement element =>
      match stepMutex with
      | some _ => none
      | none => orDie series (do
          check (!stepEnded) "!test_step_.Ended()"
            ("Cannot add elements to a MeasurementSeries " ++
              "associated with a TestStep that has ended")
          check (!series.ended) "!ended_"
            "Cannot add elements to a MeasurementSeries that has ended") fun _ =>
              (series, .none, .next (.emitElement element))
  | .emitElement element =>
      some ({ series with mutex := none },
        .write (series.artifact (.measurementSeriesElement element)), .done)
  | .lockEnd destroy =>
      match series.mutex with
      | some _ => none
      | none =>
          if series.ended then some (series.afterEnd destroy, .none, .done)
          else some ({ series with mutex := some thread }, .none, .next (.checkStepEnded destroy))
  | .checkStepEnded destroy =>
      -- a step that has ended is only reported on the error output
      match stepMutex with
      | some _ => none
      | none => some ({ series with ended := true }, .none, .next (.drawTotalCount destroy))
  | .drawTotalCount destroy =>
      orDie series series.elementCount.next fun (totalCount, elementCount) =>
        ({ series with elementCount }, .none, .next (.emitEnd totalCount destroy))
  | .emitEnd totalCount destroy =>
      some ({ series with mutex := none }.afterEnd destroy,
        .write (series.artifact (.measurementSeriesEnd ⟨strCat ref, totalCount⟩)), .done)

section

variable (protobuf : Protobuf) (series : MeasurementSeries) (ref : SeriesRef) (thread : ThreadId)
  (stepMutex : Option ThreadId) (stepEnded : Bool)

/-- The steps that `advance` can take, one by one. -/
inductive Advances : Frame → MeasurementSeries → Request → Continue Frame → Prop
  | checkStep (start : MeasurementSeriesStart) : stepMutex = none → stepEnded = false →
      Advances (.checkStep start) series .none (.next (.emitStart start))
  | checkStepDies (start : MeasurementSeriesStart) (message : String) :
      Advances (.checkStep start) series .none (.die message)
  | emitStart (start : MeasurementSeriesStart) (next : MeasurementSeries)
      (proto : Pb.MeasurementSeriesStart) :
      series.construct protobuf ref start = .ok (next, proto) →
      Advances (.emitStart start) { next with lifetime := .live }
        (.write (next.artifact (.measurementSeriesStart proto))) .done
  | emitStartDies (start : MeasurementSeriesStart) (message : String) :
      Advances (.emitStart start) series .none (.die message)
  | checkType (element : MeasurementSeriesElement) (now : Pb.Timestamp)
      (next : MeasurementSeries) : series.mutex = none →
      series.setAndCheckSeriesType element.value.index = .ok next →
      Advances (.checkType element now) next .none (.next (.drawIndex element now))
  | checkTypeDies (element : MeasurementSeriesElement) (now : Pb.Timestamp) (message : String) :
      series.mutex = none →
      Advances (.checkType element now) { series with mutex := some thread } .none (.die message)
  | drawIndex (element : MeasurementSeriesElement) (now : Pb.Timestamp)
      (next : MeasurementSeries) (proto : Pb.MeasurementSeriesElement) :
      series.drawElement protobuf ref element now = .ok (next, proto) →
      Advances (.drawIndex element now) next .none (.next (.lockElement proto))
  | drawIndexDies (element : MeasurementSeriesElement) (now : Pb.Timestamp) (message : String) :
      Advances (.drawIndex element now) series .none (.die message)
  | lockElement (element : Pb.MeasurementSeriesElement) : series.mutex = none →
      Advances (.lockElement element) { series with mutex := some thread } .none
        (.next (.checkElement element))
  | checkElement (element : Pb.MeasurementSeriesElement) : stepMutex = none → stepEnded = false →
      series.ended = false →
      Advances (.checkElement element) series .none (.next (.emitElement element))
  | checkElementDies (element : Pb.MeasurementSeriesElement) (message : String) :
      Advances (.checkElement element) series .none (.die message)
  | emitElement (element : Pb.MeasurementSeriesElement) :
      Advances (.emitElement element) { series with mutex := none }
        (.write (series.artifact (.measurementSeriesElement element))) .done
  | endAgain (destroy : Bool) : series.mutex = none → series.ended = true →
      Advances (.lockEnd destroy) (series.afterEnd destroy) .none .done
  | lockEnd (destroy : Bool) : series.mutex = none → series.ended = false →
      Advances (.lockEnd destroy) { series with mutex := some thread } .none
        (.next (.checkStepEnded destroy))
  | checkStepEnded (destroy : Bool) : stepMutex = none →
      Advances (.checkStepEnded destroy) { series with ended := true } .none
        (.next (.drawTotalCount destroy))
  | drawTotalCount (destroy : Bool) : series.elementCount.count < intMax →
      Advances (.drawTotalCount destroy)
        { series with elementCount := ⟨series.elementCount.count + 1⟩ } .none
        (.next (.emitEnd series.elementCount.count destroy))
  | emitEnd (totalCount : Nat) (destroy : Bool) :
      Advances (.emitEnd totalCount destroy) ({ series with mutex := none }.afterEnd destroy)
        (.write (series.artifact (.measurementSeriesEnd ⟨strCat ref, totalCount⟩))) .done

theorem advances_of_advance (frame : Frame) (next : MeasurementSeries) (request : Request)
    (rest : Continue Frame)
    (taken : series.advance protobuf ref thread stepMutex stepEnded frame =
      some (next, request, rest)) :
    Advances protobuf series ref thread stepMutex stepEnded frame next request rest := by
  cases frame with
  | checkStep start =>
      simp only [advance] at taken
      split at taken
      · cases taken
      · cases stepEnded with
        | false =>
            cases taken
            exact .checkStep start rfl rfl
        | true =>
            cases taken
            exact .checkStepDies start _
  | emitStart start =>
      rcases (orDie_eq_some _ _ _ _).mp taken with ⟨⟨next, proto⟩, built, same⟩ | ⟨_, _, same⟩
      · cases same
        exact .emitStart start next proto built
      · cases same
        exact .emitStartDies start _
  | checkType element now =>
      simp only [advance] at taken
      split at taken
      · cases taken
      · rename_i free
        rcases (orDie_eq_some _ _ _ _).mp taken with ⟨next, checked, same⟩ | ⟨_, _, same⟩
        · cases same
          exact .checkType element now _ free checked
        · cases same
          exact .checkTypeDies element now _ free
  | drawIndex element now =>
      rcases (orDie_eq_some _ _ _ _).mp taken with ⟨⟨next, proto⟩, drawn, same⟩ | ⟨_, _, same⟩
      · cases same
        exact .drawIndex element now next proto drawn
      · cases same
        exact .drawIndexDies element now _
  | lockElement element =>
      simp only [advance] at taken
      split at taken
      · cases taken
      · rename_i free
        cases taken
        exact .lockElement element free
  | checkElement element =>
      simp only [advance] at taken
      split at taken
      · cases taken
      · rcases (orDie_eq_some _ _ _ _).mp taken with ⟨⟨⟩, passes, same⟩ | ⟨_, _, same⟩
        · cases same
          simp only [Outcome.bind_eq_ok, check_eq_ok, Bool.not_eq_true'] at passes
          obtain ⟨_, active, running⟩ := passes
          exact .checkElement element rfl active running
        · cases same
          exact .checkElementDies element _
  | emitElement element =>
      cases taken
      exact .emitElement element
  | lockEnd destroy =>
      simp only [advance] at taken
      split at taken
      · cases taken
      · rename_i free
        split at taken
        · rename_i ended
          cases taken
          exact .endAgain destroy free ended
        · rename_i running
          cases taken
          exact .lockEnd destroy free (by simpa using running)
  | checkStepEnded destroy =>
      simp only [advance] at taken
      split at taken
      · cases taken
      · cases taken
        exact .checkStepEnded destroy rfl
  | drawTotalCount destroy =>
      rcases (orDie_eq_some _ _ _ _).mp taken with ⟨⟨number, counter⟩, drawn, same⟩ | ⟨_, dies, _⟩
      · obtain ⟨inRange, rfl, rfl⟩ := (IntIncrementer.next_eq_ok _ _ _).mp drawn
        cases same
        exact .drawTotalCount destroy inRange
      · exact absurd dies (IntIncrementer.next_ne_die _ _)
  | emitEnd totalCount destroy =>
      cases taken
      exact .emitEnd totalCount destroy

end

end MeasurementSeries

end OcpDiag.Results
