import OcpDiag.Lib.Runs
import OcpDiag.Results.ProtoToStruct

set_option autoImplicit false

namespace OcpDiag.Results

/-- What BuildModel() works on: the contents of `model_`, which it has just set, and the two
maps from ids to indices. -/
structure ModelBuilder where
  model : OutputModel := {}
  testStepIdToIdx : List (String × Nat) := []
  measurementSeriesIdToIdx : List (String × Nat) := []
  deriving DecidableEq, Repr

namespace ModelBuilder

def getTestStepIdx (builder : ModelBuilder) (testStepId : String) : Nat × ModelBuilder :=
  match builder.testStepIdToIdx.lookup testStepId with
  | some idx => (idx, builder)
  | none =>
      let idx := builder.model.testSteps.length
      (idx, { builder with
        testStepIdToIdx := (testStepId, idx) :: builder.testStepIdToIdx
        model := { builder.model with
          testSteps := builder.model.testSteps ++ [{ testStepId }] } })

/-- An access to `model_->test_steps[idx]`, undefined when the index is out of range. -/
def updateTestStep (builder : ModelBuilder) (idx : Nat) (update : TestStepModel → TestStepModel) :
    Outcome ModelBuilder :=
  match builder.model.testSteps[idx]? with
  | none => .undefined
  | some step => .ok { builder with
      model := { builder.model with
        testSteps := builder.model.testSteps.set idx (update step) } }

/-- The index is relative to the test step, the id is unique to the test run. -/
def getMeasurementSeriesIdx (builder : ModelBuilder) (measurementSeriesId : String)
    (stepIdx : Nat) : Outcome (Nat × ModelBuilder) :=
  match builder.measurementSeriesIdToIdx.lookup measurementSeriesId with
  | some idx => .ok (idx, builder)
  | none =>
      match builder.model.testSteps[stepIdx]? with
      | none => .undefined
      | some step => do
          let idx := step.measurementSeries.length
          let builder ← builder.updateTestStep stepIdx fun step =>
            { step with measurementSeries := step.measurementSeries ++ [{}] }
          return (idx, { builder with
            measurementSeriesIdToIdx :=
              (measurementSeriesId, idx) :: builder.measurementSeriesIdToIdx })

/-- An access to `model_->test_steps[idx].measurement_series[GetMeasurementSeriesIdx(id, idx)]`. -/
def updateMeasurementSeries (builder : ModelBuilder) (idx : Nat) (measurementSeriesId : String)
    (update : MeasurementSeriesModel → MeasurementSeriesModel) : Outcome ModelBuilder := do
  let (seriesIdx, builder) ← builder.getMeasurementSeriesIdx measurementSeriesId idx
  match builder.model.testSteps[idx]? with
  | none => .undefined
  | some step =>
      match step.measurementSeries[seriesIdx]? with
      | none => .undefined
      | some series => builder.updateTestStep idx fun step =>
          { step with measurementSeries := step.measurementSeries.set seriesIdx (update series) }

def handleTestStepArtifact (builder : ModelBuilder) (artifact : TestStepArtifact) :
    Outcome ModelBuilder :=
  let (idx, builder) := builder.getTestStepIdx artifact.testStepId
  match artifact.artifact with
  | .testStepStart start => builder.updateTestStep idx fun step => { step with start }
  | .testStepEnd stepEnd => builder.updateTestStep idx fun step => { step with stepEnd }
  | .log log => builder.updateTestStep idx fun step => { step with logs := step.logs ++ [log] }
  | .error error =>
      builder.updateTestStep idx fun step => { step with errors := step.errors ++ [error] }
  | .file file =>
      builder.updateTestStep idx fun step => { step with files := step.files ++ [file] }
  | .extension extension =>
      builder.updateTestStep idx fun step =>
        { step with extensions := step.extensions ++ [extension] }
  | .measurementSeriesStart start =>
      builder.updateMeasurementSeries idx start.measurementSeriesId fun series =>
        { series with start }
  | .measurementSeriesElement element =>
      builder.updateMeasurementSeries idx element.measurementSeriesId fun series =>
        { series with elements := series.elements ++ [element] }
  | .measurementSeriesEnd seriesEnd =>
      builder.updateMeasurementSeries idx seriesEnd.measurementSeriesId fun series =>
        { series with seriesEnd }
  | .measurement measurement =>
      builder.updateTestStep idx fun step =>
        { step with measurements := step.measurements ++ [measurement] }
  | .diagnosis diagnosis =>
      builder.updateTestStep idx fun step =>
        { step with diagnoses := step.diagnoses ++ [diagnosis] }

def handleTestRunArtifact (builder : ModelBuilder) (artifact : TestRunArtifact) : ModelBuilder :=
  let run := builder.model.testRun
  let run := match artifact with
    | .testRunStart start => { run with start }
    | .testRunEnd runEnd => { run with runEnd }
    | .log log => { run with preStartLogs := run.preStartLogs ++ [log] }
    | .error error => { run with preStartErrors := run.preStartErrors ++ [error] }
  { builder with model := { builder.model with testRun := run } }

def handleOutputArtifact (builder : ModelBuilder) (artifact : OutputArtifact) :
    Outcome ModelBuilder :=
  match artifact.artifact with
  | .testRunArtifact artifact => .ok (builder.handleTestRunArtifact artifact)
  | .testStepArtifact artifact => builder.handleTestStepArtifact artifact
  | .schemaVersion schemaVersion =>
      .ok { builder with model := { builder.model with schemaVersion } }

/-- The loop over the container. A record is converted when the iterator comes to it. -/
def handleRecords (protobuf : Protobuf) (builder : ModelBuilder) :
    List Pb.OutputArtifact → Outcome ModelBuilder
  | [] => .ok builder
  | record :: rest => do
      let artifact ← OutputArtifact.protoToStruct protobuf record
      let builder ← builder.handleOutputArtifact artifact
      builder.handleRecords protobuf rest

end ModelBuilder

/-- The container is the record file that the receiver's writer writes to. -/
structure OutputReceiver where
  container : List Pb.OutputArtifact := []
  model : Option OutputModel := none
  testStepIdToIdx : List (String × Nat) := []
  measurementSeriesIdToIdx : List (String × Nat) := []
  writerCreated : Bool := false

namespace OutputReceiver

def makeArtifactWriter (receiver : OutputReceiver) : Outcome OutputReceiver := do
  check (!receiver.writerCreated) "!writer_created_"
    ("Attempted to create an Artifact Writer when one has already been " ++
      "created for this Output Receiver")
  return { receiver with writerCreated := true }

def getOutputContainer (receiver : OutputReceiver) : Outcome (List Pb.OutputArtifact) := do
  check receiver.writerCreated "writer_created_"
    "Attempted to access receiver contents before creating an Artifact Writer"
  return receiver.container

def buildModel (protobuf : Protobuf) (receiver : OutputReceiver) :
    Outcome (OutputModel × OutputReceiver) := do
  let container ← receiver.getOutputContainer
  let builder ← ModelBuilder.handleRecords protobuf
    ⟨{}, receiver.testStepIdToIdx, receiver.measurementSeriesIdToIdx⟩ container
  return (builder.model, { receiver with
    model := some builder.model
    testStepIdToIdx := builder.testStepIdToIdx
    measurementSeriesIdToIdx := builder.measurementSeriesIdToIdx })

def getOutputModel (protobuf : Protobuf) (receiver : OutputReceiver) :
    Outcome (OutputModel × OutputReceiver) :=
  match receiver.model with
  | some model => .ok (model, receiver)
  | none => receiver.buildModel protobuf

def resetModel (receiver : OutputReceiver) : OutputReceiver := { receiver with model := none }

/-- What a unit test does with a receiver and its writer. -/
inductive Operation where
  | makeArtifactWriter
  | write (record : Pb.OutputArtifact)
  | getOutputModel
  | resetModel

/-- One operation. There is no next state when the process dies in it. -/
def step (protobuf : Protobuf) (receiver : OutputReceiver) : Operation → Option OutputReceiver
  | .makeArtifactWriter => receiver.makeArtifactWriter.toOption
  | .write record =>
      if receiver.writerCreated then
        some { receiver with container := receiver.container ++ [record] }
      else none
  | .getOutputModel => ((·.2) <$> receiver.getOutputModel protobuf).toOption
  | .resetModel => some receiver.resetModel

end OutputReceiver

end OcpDiag.Results
