import OcpDiag.Results.StructToProto

set_option autoImplicit false

namespace OcpDiag.Results

def protoToJsonOrDie (protobuf : Protobuf) (proto : Pb.Struct) : Outcome String :=
  match protobuf.messageToJsonString proto with
  | .ok json => .ok json
  | .error status =>
      .die ("Check failed: status is OK (" ++ status ++ ") Issue converting struct type to JSON")

def protoToVariant : Pb.Value → Outcome Variant
  | .stringValue value => .ok (.string value)
  | .numberValue value => .ok (.double value)
  | .boolValue value => .ok (.bool value)
  | _ => .die "Tried to convert an invalid value protobuf to a Variant."

def ValidatorType.ofProto : Pb.ValidatorType → ValidatorType
  | .UNSPECIFIED => .unspecified
  | .EQUAL => .equal
  | .NOT_EQUAL => .notEqual
  | .LESS_THAN => .lessThan
  | .LESS_THAN_OR_EQUAL => .lessThanOrEqual
  | .GREATER_THAN => .greaterThan
  | .GREATER_THAN_OR_EQUAL => .greaterThanOrEqual
  | .REGEX_MATCH => .regexMatch
  | .REGEX_NO_MATCH => .regexNoMatch
  | .IN_SET => .inSet
  | .NOT_IN_SET => .notInSet

def SoftwareType.ofProto : Pb.SoftwareType → SoftwareType
  | .UNSPECIFIED => .unspecified
  | .FIRMWARE => .firmware
  | .SYSTEM => .system
  | .APPLICATION => .application

def SubcomponentType.ofProto : Pb.SubcomponentType → SubcomponentType
  | .UNSPECIFIED => .unspecified
  | .ASIC => .asic
  | .ASIC_SUBSYSTEM => .asicSubsystem
  | .BUS => .bus
  | .FUNCTION => .function
  | .CONNECTOR => .connector

def DiagnosisType.ofProto : Pb.DiagnosisType → DiagnosisType
  | .UNKNOWN => .unknown
  | .PASS => .pass
  | .FAIL => .fail

def LogSeverity.ofProto : Pb.Severity → LogSeverity
  | .INFO => .info
  | .WARNING => .warning
  | .ERROR => .error
  | .FATAL => .fatal
  | .DEBUG => .debug

def TestStatus.ofProto : Pb.TestStatus → TestStatus
  | .UNKNOWN => .unknown
  | .COMPLETE => .complete
  | .ERROR => .error
  | .SKIP => .skip

def TestResult.ofProto : Pb.TestResult → TestResult
  | .NOT_APPLICABLE => .notApplicable
  | .PASS => .pass
  | .FAIL => .fail

def SchemaVersionOutput.protoToStruct (version : Pb.SchemaVersion) : SchemaVersionOutput where
  major := version.major
  minor := version.minor

def PlatformInfoOutput.protoToStruct (info : Pb.PlatformInfo) : PlatformInfoOutput where
  info := info.info

def HardwareInfoOutput.protoToStruct (info : Pb.HardwareInfo) : HardwareInfoOutput where
  name := info.name
  computerSystem := info.computerSystem
  location := info.location
  odataId := info.odataId
  partNumber := info.partNumber
  serialNumber := info.serialNumber
  manager := info.manager
  manufacturer := info.manufacturer
  manufacturerPartNumber := info.manufacturerPartNumber
  partType := info.partType
  version := info.version
  revision := info.revision
  hardwareInfoId := info.hardwareInfoId

def SoftwareInfoOutput.protoToStruct (info : Pb.SoftwareInfo) : SoftwareInfoOutput where
  name := info.name
  computerSystem := info.computerSystem
  version := info.version
  revision := info.revision
  softwareType := .ofProto info.softwareType
  softwareInfoId := info.softwareInfoId

def DutInfoOutput.protoToStruct (protobuf : Protobuf) (dut : Pb.DutInfo) :
    Outcome DutInfoOutput := do
  let metadataJson ← protoToJsonOrDie protobuf dut.metadata
  return {
    dutInfoId := dut.dutInfoId
    name := dut.name
    metadataJson
    platformInfos := dut.platformInfos.map PlatformInfoOutput.protoToStruct
    hardwareInfos := dut.hardwareInfos.map HardwareInfoOutput.protoToStruct
    softwareInfos := dut.softwareInfos.map SoftwareInfoOutput.protoToStruct }

/-- A start without a DutInfo is read as one with an empty DutInfo. -/
def TestRunStartOutput.protoToStruct (protobuf : Protobuf) (start : Pb.TestRunStart) :
    Outcome TestRunStartOutput := do
  let parametersJson ← protoToJsonOrDie protobuf start.parameters
  let metadataJson ← protoToJsonOrDie protobuf start.metadata
  let dutInfo ← DutInfoOutput.protoToStruct protobuf (start.dutInfo.getD {})
  return {
    name := start.name
    version := start.version
    commandLine := start.commandLine
    parametersJson
    metadataJson
    dutInfo }

def TestRunEndOutput.protoToStruct (runEnd : Pb.TestRunEnd) : TestRunEndOutput where
  status := .ofProto runEnd.status
  result := .ofProto runEnd.result

def LogOutput.protoToStruct (log : Pb.Log) : LogOutput where
  severity := .ofProto log.severity
  message := log.message

def ErrorOutput.protoToStruct (error : Pb.Error) : ErrorOutput where
  symptom := error.symptom
  message := error.message
  softwareInfoIds := error.softwareInfoIds

def TestStepStartOutput.protoToStruct (start : Pb.TestStepStart) : TestStepStartOutput where
  name := start.name

def TestStepEndOutput.protoToStruct (stepEnd : Pb.TestStepEnd) : TestStepEndOutput where
  status := .ofProto stepEnd.status

def SubcomponentOutput.protoToStruct (subcomponent : Pb.Subcomponent) : SubcomponentOutput where
  name := subcomponent.name
  type := .ofProto subcomponent.type
  location := subcomponent.location
  version := subcomponent.version
  revision := subcomponent.revision

/-- The loop that converts the values of a list. -/
def protoToVariants : List Pb.Value → Outcome (List Variant)
  | [] => .ok []
  | value :: rest => do
      let first ← protoToVariant value
      let others ← protoToVariants rest
      return first :: others

def ValidatorOutput.protoToStruct (validator : Pb.Validator) : Outcome ValidatorOutput := do
  let values ← match validator.value with
    | .listValue values => protoToVariants values
    | value => protoToVariants [value]
  return { type := .ofProto validator.type, value := values, name := validator.name }

def protoToValidators : List Pb.Validator → Outcome (List ValidatorOutput)
  | [] => .ok []
  | validator :: rest => do
      let first ← ValidatorOutput.protoToStruct validator
      let others ← protoToValidators rest
      return first :: others

def MeasurementOutput.protoToStruct (protobuf : Protobuf) (measurement : Pb.Measurement) :
    Outcome MeasurementOutput := do
  let validators ← protoToValidators measurement.validators
  let value ← protoToVariant measurement.value
  let metadataJson ← protoToJsonOrDie protobuf measurement.metadata
  return {
    name := measurement.name
    unit := measurement.unit
    hardwareInfoId := measurement.hardwareInfoId
    subcomponent := measurement.subcomponent.map SubcomponentOutput.protoToStruct
    validators
    value
    metadataJson }

def MeasurementSeriesStartOutput.protoToStruct (protobuf : Protobuf)
    (start : Pb.MeasurementSeriesStart) : Outcome MeasurementSeriesStartOutput := do
  let validators ← protoToValidators start.validators
  let metadataJson ← protoToJsonOrDie protobuf start.metadata
  return {
    measurementSeriesId := start.measurementSeriesId
    name := start.name
    unit := start.unit
    hardwareInfoId := start.hardwareInfoId
    subcomponent := start.subcomponent.map SubcomponentOutput.protoToStruct
    validators
    metadataJson }

def MeasurementSeriesElementOutput.protoToStruct (protobuf : Protobuf)
    (element : Pb.MeasurementSeriesElement) : Outcome MeasurementSeriesElementOutput := do
  let value ← protoToVariant element.value
  let metadataJson ← protoToJsonOrDie protobuf element.metadata
  return {
    index := element.index
    measurementSeriesId := element.measurementSeriesId
    value
    timestamp := protobuf.timestampToTimeval element.timestamp
    metadataJson }

def MeasurementSeriesEndOutput.protoToStruct (seriesEnd : Pb.MeasurementSeriesEnd) :
    MeasurementSeriesEndOutput where
  measurementSeriesId := seriesEnd.measurementSeriesId
  totalCount := seriesEnd.totalCount

def DiagnosisOutput.protoToStruct (diagnosis : Pb.Diagnosis) : DiagnosisOutput where
  verdict := diagnosis.verdict
  type := .ofProto diagnosis.type
  message := diagnosis.message
  hardwareInfoId := diagnosis.hardwareInfoId
  subcomponent := diagnosis.subcomponent.map SubcomponentOutput.protoToStruct

def FileOutput.protoToStruct (file : Pb.File) : FileOutput where
  displayName := file.displayName
  uri := file.uri
  isSnapshot := file.isSnapshot
  description := file.description
  contentType := file.contentType

def ExtensionOutput.protoToStruct (protobuf : Protobuf) (extension : Pb.Extension) :
    Outcome ExtensionOutput := do
  let contentJson ← protoToJsonOrDie protobuf extension.content
  return { name := extension.name, contentJson }

def TestStepVariant.protoToStruct (protobuf : Protobuf) :
    Pb.TestStepVariant → Outcome TestStepVariant
  | .testStepStart proto => .ok (.testStepStart (TestStepStartOutput.protoToStruct proto))
  | .testStepEnd proto => .ok (.testStepEnd (TestStepEndOutput.protoToStruct proto))
  | .measurement proto => do
      return .measurement (← MeasurementOutput.protoToStruct protobuf proto)
  | .measurementSeriesStart proto => do
      return .measurementSeriesStart (← MeasurementSeriesStartOutput.protoToStruct protobuf proto)
  | .measurementSeriesEnd proto =>
      .ok (.measurementSeriesEnd (MeasurementSeriesEndOutput.protoToStruct proto))
  | .measurementSeriesElement proto => do
      return .measurementSeriesElement
        (← MeasurementSeriesElementOutput.protoToStruct protobuf proto)
  | .diagnosis proto => .ok (.diagnosis (DiagnosisOutput.protoToStruct proto))
  | .error proto => .ok (.error (ErrorOutput.protoToStruct proto))
  | .file proto => .ok (.file (FileOutput.protoToStruct proto))
  | .log proto => .ok (.log (LogOutput.protoToStruct proto))
  | .extension proto => do
      return .extension (← ExtensionOutput.protoToStruct protobuf proto)
  | .notSet => .die "Tried to convert an empty or unexepected TestStepArtifact from proto"

def TestStepArtifact.protoToStruct (protobuf : Protobuf) (artifact : Pb.TestStepArtifact) :
    Outcome TestStepArtifact := do
  let variant ← TestStepVariant.protoToStruct protobuf artifact.artifact
  return { artifact := variant, testStepId := artifact.testStepId }

def TestRunArtifact.protoToStruct (protobuf : Protobuf) :
    Pb.TestRunArtifact → Outcome TestRunArtifact
  | .testRunStart proto => do
      return .testRunStart (← TestRunStartOutput.protoToStruct protobuf proto)
  | .testRunEnd proto => .ok (.testRunEnd (TestRunEndOutput.protoToStruct proto))
  | .log proto => .ok (.log (LogOutput.protoToStruct proto))
  | .error proto => .ok (.error (ErrorOutput.protoToStruct proto))
  | .notSet => .die "Tried to convert an empty or unexepected TestRunArtifact from proto"

def OutputVariant.protoToStruct (protobuf : Protobuf) :
    Pb.OutputVariant → Outcome OutputVariant
  | .schemaVersion proto => .ok (.schemaVersion (SchemaVersionOutput.protoToStruct proto))
  | .testRunArtifact proto => do
      return .testRunArtifact (← TestRunArtifact.protoToStruct protobuf proto)
  | .testStepArtifact proto => do
      return .testStepArtifact (← TestStepArtifact.protoToStruct protobuf proto)
  | .notSet => .die "Tried to convert an empty or unexepected OutputArtifact from proto"

def OutputArtifact.protoToStruct (protobuf : Protobuf) (artifact : Pb.OutputArtifact) :
    Outcome OutputArtifact := do
  let variant ← OutputVariant.protoToStruct protobuf artifact.artifact
  return {
    artifact := variant
    sequenceNumber := artifact.sequenceNumber
    timestamp := protobuf.timestampToTimeval artifact.timestamp }

/- A conversion may die, but it has no undefined behaviour. -/

theorem protoToJsonOrDie_ne_undefined (protobuf : Protobuf) (proto : Pb.Struct) :
    protoToJsonOrDie protobuf proto ≠ .undefined := by
  unfold protoToJsonOrDie
  split <;> simp

theorem protoToVariant_ne_undefined (value : Pb.Value) : protoToVariant value ≠ .undefined := by
  cases value <;> simp [protoToVariant]

theorem protoToVariants_ne_undefined (values : List Pb.Value) :
    protoToVariants values ≠ .undefined := by
  induction values with
  | nil => simp [protoToVariants]
  | cons value rest ih =>
      refine Outcome.bind_ne_undefined _ _ (protoToVariant_ne_undefined value) fun first => ?_
      exact Outcome.bind_ne_undefined _ _ ih fun others => by simp

theorem ValidatorOutput.protoToStruct_ne_undefined (validator : Pb.Validator) :
    ValidatorOutput.protoToStruct validator ≠ .undefined := by
  unfold ValidatorOutput.protoToStruct
  split <;> exact Outcome.bind_ne_undefined _ _ (protoToVariants_ne_undefined _) fun _ => by simp

theorem protoToValidators_ne_undefined (validators : List Pb.Validator) :
    protoToValidators validators ≠ .undefined := by
  induction validators with
  | nil => simp [protoToValidators]
  | cons validator rest ih =>
      refine Outcome.bind_ne_undefined _ _
        (ValidatorOutput.protoToStruct_ne_undefined validator) fun first => ?_
      exact Outcome.bind_ne_undefined _ _ ih fun others => by simp

theorem TestRunStartOutput.protoToStruct_ne_undefined (protobuf : Protobuf)
    (start : Pb.TestRunStart) : protoToStruct protobuf start ≠ .undefined := by
  refine Outcome.bind_ne_undefined _ _ (protoToJsonOrDie_ne_undefined _ _) fun _ => ?_
  refine Outcome.bind_ne_undefined _ _ (protoToJsonOrDie_ne_undefined _ _) fun _ => ?_
  refine Outcome.bind_ne_undefined _ _ ?_ fun _ => by simp
  exact Outcome.bind_ne_undefined _ _ (protoToJsonOrDie_ne_undefined _ _) fun _ => by simp

theorem MeasurementOutput.protoToStruct_ne_undefined (protobuf : Protobuf)
    (measurement : Pb.Measurement) : protoToStruct protobuf measurement ≠ .undefined := by
  refine Outcome.bind_ne_undefined _ _ (protoToValidators_ne_undefined _) fun _ => ?_
  refine Outcome.bind_ne_undefined _ _ (protoToVariant_ne_undefined _) fun _ => ?_
  exact Outcome.bind_ne_undefined _ _ (protoToJsonOrDie_ne_undefined _ _) fun _ => by simp

theorem MeasurementSeriesStartOutput.protoToStruct_ne_undefined (protobuf : Protobuf)
    (start : Pb.MeasurementSeriesStart) : protoToStruct protobuf start ≠ .undefined := by
  refine Outcome.bind_ne_undefined _ _ (protoToValidators_ne_undefined _) fun _ => ?_
  exact Outcome.bind_ne_undefined _ _ (protoToJsonOrDie_ne_undefined _ _) fun _ => by simp

theorem MeasurementSeriesElementOutput.protoToStruct_ne_undefined (protobuf : Protobuf)
    (element : Pb.MeasurementSeriesElement) : protoToStruct protobuf element ≠ .undefined := by
  refine Outcome.bind_ne_undefined _ _ (protoToVariant_ne_undefined _) fun _ => ?_
  exact Outcome.bind_ne_undefined _ _ (protoToJsonOrDie_ne_undefined _ _) fun _ => by simp

theorem ExtensionOutput.protoToStruct_ne_undefined (protobuf : Protobuf)
    (extension : Pb.Extension) : protoToStruct protobuf extension ≠ .undefined :=
  Outcome.bind_ne_undefined _ _ (protoToJsonOrDie_ne_undefined _ _) fun _ => by simp

theorem TestStepVariant.protoToStruct_ne_undefined (protobuf : Protobuf)
    (variant : Pb.TestStepVariant) : protoToStruct protobuf variant ≠ .undefined := by
  cases variant with
  | measurement proto =>
      exact Outcome.bind_ne_undefined _ _
        (MeasurementOutput.protoToStruct_ne_undefined protobuf proto) fun _ => by simp
  | measurementSeriesStart proto =>
      exact Outcome.bind_ne_undefined _ _
        (MeasurementSeriesStartOutput.protoToStruct_ne_undefined protobuf proto) fun _ => by simp
  | measurementSeriesElement proto =>
      exact Outcome.bind_ne_undefined _ _
        (MeasurementSeriesElementOutput.protoToStruct_ne_undefined protobuf proto) fun _ => by simp
  | extension proto =>
      exact Outcome.bind_ne_undefined _ _
        (ExtensionOutput.protoToStruct_ne_undefined protobuf proto) fun _ => by simp
  | _ => simp [protoToStruct]

theorem TestRunArtifact.protoToStruct_ne_undefined (protobuf : Protobuf)
    (artifact : Pb.TestRunArtifact) : protoToStruct protobuf artifact ≠ .undefined := by
  cases artifact with
  | testRunStart proto =>
      exact Outcome.bind_ne_undefined _ _
        (TestRunStartOutput.protoToStruct_ne_undefined protobuf proto) fun _ => by simp
  | _ => simp [protoToStruct]

theorem OutputArtifact.protoToStruct_ne_undefined (protobuf : Protobuf)
    (artifact : Pb.OutputArtifact) : protoToStruct protobuf artifact ≠ .undefined := by
  refine Outcome.bind_ne_undefined _ _ ?_ fun _ => by simp
  cases artifact.artifact with
  | testRunArtifact proto =>
      exact Outcome.bind_ne_undefined _ _
        (TestRunArtifact.protoToStruct_ne_undefined protobuf proto) fun _ => by simp
  | testStepArtifact proto =>
      refine Outcome.bind_ne_undefined _ _ ?_ fun _ => by simp
      exact Outcome.bind_ne_undefined _ _
        (TestStepVariant.protoToStruct_ne_undefined protobuf proto.artifact) fun _ => by simp
  | _ => simp [OutputVariant.protoToStruct]

end OcpDiag.Results
