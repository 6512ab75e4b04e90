import OcpDiag.Results.DutInfo
import OcpDiag.Results.Messages

set_option autoImplicit false

namespace OcpDiag.Results

/-- What the library calls in protobuf. A failed parse or print carries its status text. -/
structure Protobuf where
  jsonStringToMessage : String → Except String Pb.Struct
  messageToJsonString : Pb.Struct → Except String String
  timevalToTimestamp : Timeval → Pb.Timestamp
  timestampToTimeval : Pb.Timestamp → Timeval

/-- A JSON library that knows two objects. -/
def sampleProtobuf : Protobuf where
  jsonStringToMessage text :=
    if text = "\x7b\x7d" then .ok {}
    else if text = "\x7b\"k\":true\x7d" then .ok ⟨[("k", .boolValue true)]⟩
    else .error "INVALID_ARGUMENT"
  messageToJsonString
    | ⟨[]⟩ => .ok "\x7b\x7d"
    | ⟨[("k", .boolValue true)]⟩ => .ok "\x7b\"k\":true\x7d"
    | _ => .error "INVALID_ARGUMENT"
  timevalToTimestamp time := ⟨time.tvSec, time.tvUsec * 1000⟩
  timestampToTimeval timestamp := ⟨timestamp.seconds, timestamp.nanos / 1000⟩

def jsonToProtoOrDie (protobuf : Protobuf) (json : String) : Outcome Pb.Struct :=
  if json.isEmpty then .ok {}
  else match protobuf.jsonStringToMessage json with
    | .ok proto => .ok proto
    | .error status =>
        .die ("Check failed: status is OK (" ++ status ++
          ") Must pass a valid JSON string to results objects: " ++ status)

def variantToProto : Variant → Pb.Value
  | .string value => .stringValue value
  | .bool value => .boolValue value
  | .double value => .numberValue value

/- The enum casts keep the number of the enumerator. -/

def ValidatorType.toProto : ValidatorType → Pb.ValidatorType
  | .unspecified => .UNSPECIFIED
  | .equal => .EQUAL
  | .notEqual => .NOT_EQUAL
  | .lessThan => .LESS_THAN
  | .lessThanOrEqual => .LESS_THAN_OR_EQUAL
  | .greaterThan => .GREATER_THAN
  | .greaterThanOrEqual => .GREATER_THAN_OR_EQUAL
  | .regexMatch => .REGEX_MATCH
  | .regexNoMatch => .REGEX_NO_MATCH
  | .inSet => .IN_SET
  | .notInSet => .NOT_IN_SET

def SoftwareType.toProto : SoftwareType → Pb.SoftwareType
  | .unspecified => .UNSPECIFIED
  | .firmware => .FIRMWARE
  | .system => .SYSTEM
  | .application => .APPLICATION

def SubcomponentType.toProto : SubcomponentType → Pb.SubcomponentType
  | .unspecified => .UNSPECIFIED
  | .asic => .ASIC
  | .asicSubsystem => .ASIC_SUBSYSTEM
  | .bus => .BUS
  | .function => .FUNCTION
  | .connector => .CONNECTOR

def DiagnosisType.toProto : DiagnosisType → Pb.DiagnosisType
  | .unknown => .UNKNOWN
  | .pass => .PASS
  | .fail => .FAIL

def LogSeverity.toProto : LogSeverity → Pb.Severity
  | .info => .INFO
  | .warning => .WARNING
  | .error => .ERROR
  | .fatal => .FATAL
  | .debug => .DEBUG

def TestStatus.toProto : TestStatus → Pb.TestStatus
  | .unknown => .UNKNOWN
  | .complete => .COMPLETE
  | .error => .ERROR
  | .skip => .SKIP

def TestResult.toProto : TestResult → Pb.TestResult
  | .notApplicable => .NOT_APPLICABLE
  | .pass => .PASS
  | .fail => .FAIL

/-- One value is encoded as it is, any other number of values as a list. -/
def Validator.structToProto (validator : Validator) : Pb.Validator where
  name := validator.name
  type := validator.type.toProto
  value := match validator.value with
    | [] => .notSet
    | [value] => variantToProto value
    | values => .listValue (values.map variantToProto)

def HardwareInfoOutput.structToProto (info : HardwareInfoOutput) : Pb.HardwareInfo where
  hardwareInfoId := info.hardwareInfoId
  name := info.name
  computerSystem := info.computerSystem
  location := info.location
  odataId := info.odataId
  partNumber := info.partNumber
  serialNumber := info.serialNumber
  manager := info.manager
  manufacturer := info.manufacturer
  manufacturerPartNumber := info.manufacturerPartNumber
  partType := info.partType
  version := info.version
  revision := info.revision

def SoftwareInfoOutput.structToProto (info : SoftwareInfoOutput) : Pb.SoftwareInfo where
  softwareInfoId := info.softwareInfoId
  name := info.name
  computerSystem := info.computerSystem
  version := info.version
  revision := info.revision
  softwareType := info.softwareType.toProto

def PlatformInfo.structToProto (info : PlatformInfo) : Pb.PlatformInfo where
  info := info.info

def Subcomponent.structToProto (subcomponent : Subcomponent) : Pb.Subcomponent where
  name := subcomponent.name
  type := subcomponent.type.toProto
  location := subcomponent.location
  version := subcomponent.version
  revision := subcomponent.revision

/-- `if (hardware_info.has_value()) set_hardware_info_id(hardware_info->id())`. -/
def hardwareInfoIdOf (hardwareInfo : Option RegisteredHardwareInfo) : String :=
  match hardwareInfo with
  | none => ""
  | some reference => reference.id

def MeasurementSeriesStart.structToProto (protobuf : Protobuf) (start : MeasurementSeriesStart) :
    Outcome Pb.MeasurementSeriesStart := do
  let metadata ← jsonToProtoOrDie protobuf start.metadataJson
  return {
    name := start.name
    unit := start.unit
    hardwareInfoId := hardwareInfoIdOf start.hardwareInfo
    subcomponent := start.subcomponent.map (·.structToProto)
    validators := start.validators.map (·.structToProto)
    metadata }

def MeasurementSeriesElement.structToProto (protobuf : Protobuf)
    (element : MeasurementSeriesElement) : Outcome Pb.MeasurementSeriesElement := do
  let metadata ← jsonToProtoOrDie protobuf element.metadataJson
  return {
    value := variantToProto element.value
    timestamp := match element.timestamp with
      | none => {}
      | some timestamp => protobuf.timevalToTimestamp timestamp
    metadata }

def Measurement.structToProto (protobuf : Protobuf) (measurement : Measurement) :
    Outcome Pb.Measurement := do
  let metadata ← jsonToProtoOrDie protobuf measurement.metadataJson
  return {
    value := variantToProto measurement.value
    name := measurement.name
    unit := measurement.unit
    hardwareInfoId := hardwareInfoIdOf measurement.hardwareInfo
    subcomponent := measurement.subcomponent.map (·.structToProto)
    validators := measurement.validators.map (·.structToProto)
    metadata }

def Diagnosis.structToProto (diagnosis : Diagnosis) : Pb.Diagnosis where
  verdict := diagnosis.verdict
  type := diagnosis.type.toProto
  message := diagnosis.message
  hardwareInfoId := hardwareInfoIdOf diagnosis.hardwareInfo
  subcomponent := diagnosis.subcomponent.map (·.structToProto)

def Error.structToProto (error : Error) : Pb.Error where
  symptom := error.symptom
  message := error.message
  softwareInfoIds := error.softwareInfos.map (·.id)

def File.structToProto (file : File) : Pb.File where
  displayName := file.displayName
  uri := file.uri
  isSnapshot := file.isSnapshot
  description := file.description
  contentType := file.contentType

def TestRunStart.structToProto (protobuf : Protobuf) (start : TestRunStart) :
    Outcome Pb.TestRunStart := do
  let parameters ← jsonToProtoOrDie protobuf start.parametersJson
  let metadata ← jsonToProtoOrDie protobuf start.metadataJson
  return {
    name := start.name
    version := start.version
    commandLine := start.commandLine
    parameters
    metadata }

def Log.structToProto (log : Log) : Pb.Log where
  message := log.message
  severity := log.severity.toProto

def Extension.structToProto (protobuf : Protobuf) (extension : Extension) :
    Outcome Pb.Extension := do
  let content ← jsonToProtoOrDie protobuf extension.contentJson
  return { name := extension.name, content }

def dutInfoToProto (protobuf : Protobuf) (dut : DutInfo) : Outcome Pb.DutInfo := do
  let metadata ← jsonToProtoOrDie protobuf dut.metadataJson
  return {
    dutInfoId := dut.id
    name := dut.name
    metadata
    platformInfos := dut.platformInfos.map (·.structToProto)
    hardwareInfos := dut.hardwareInfos.map (·.structToProto)
    softwareInfos := dut.softwareInfos.map (·.structToProto) }

end OcpDiag.Results
