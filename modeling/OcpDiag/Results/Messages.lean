import OcpDiag.Results.InputModel

set_option autoImplicit false

/- The messages of results.proto. A scalar field that is not set reads as its default; a
message field is an `Option` where the library asks for its presence. -/
namespace OcpDiag.Results.Pb

/-- google.protobuf.Value. -/
inductive Value where
  | notSet
  | nullValue
  | numberValue (value : Double)
  | stringValue (value : String)
  | boolValue (value : Bool)
  | structValue (fields : List (String × Value))
  | listValue (values : List Value)

/-- google.protobuf.Struct, its map in the order of the keys. -/
structure Struct where
  fields : List (String × Value) := []

structure Timestamp where
  seconds : Int := 0
  nanos : Int := 0
  deriving DecidableEq, Repr

structure SchemaVersion where
  major : Int := 0
  minor : Int := 0
  deriving DecidableEq, Repr

structure PlatformInfo where
  info : String := ""
  deriving DecidableEq, Repr

structure HardwareInfo where
  hardwareInfoId : String := ""
  computerSystem : String := ""
  name : String := ""
  location : String := ""
  odataId : String := ""
  partNumber : String := ""
  serialNumber : String := ""
  manager : String := ""
  manufacturer : String := ""
  manufacturerPartNumber : String := ""
  partType : String := ""
  version : String := ""
  revision : String := ""
  deriving DecidableEq, Repr

inductive SoftwareType where
  | UNSPECIFIED | FIRMWARE | SYSTEM | APPLICATION
  deriving DecidableEq, Repr

structure SoftwareInfo where
  softwareInfoId : String := ""
  computerSystem : String := ""
  name : String := ""
  version : String := ""
  revision : String := ""
  softwareType : SoftwareType := .UNSPECIFIED
  deriving DecidableEq, Repr

structure DutInfo where
  dutInfoId : String := ""
  name : String := ""
  metadata : Struct := {}
  platformInfos : List PlatformInfo := []
  hardwareInfos : List HardwareInfo := []
  softwareInfos : List SoftwareInfo := []

structure TestRunStart where
  name : String := ""
  version : String := ""
  commandLine : String := ""
  parameters : Struct := {}
  dutInfo : Option DutInfo := none
  metadata : Struct := {}

inductive TestStatus where
  | UNKNOWN | COMPLETE | ERROR | SKIP
  deriving DecidableEq, Repr

inductive TestResult where
  | NOT_APPLICABLE | PASS | FAIL
  deriving DecidableEq, Repr

structure TestRunEnd where
  status : TestStatus := .UNKNOWN
  result : TestResult := .NOT_APPLICABLE
  deriving DecidableEq, Repr

inductive Severity where
  | INFO | WARNING | ERROR | FATAL | DEBUG
  deriving DecidableEq, Repr

structure Log where
  severity : Severity := .INFO
  message : String := ""
  deriving DecidableEq, Repr

structure Error where
  symptom : String := ""
  message : String := ""
  softwareInfoIds : List String := []
  deriving DecidableEq, Repr

/-- The artifact oneof of a TestRunArtifact. -/
inductive TestRunArtifact where
  | notSet
  | testRunStart (start : TestRunStart)
  | testRunEnd (testRunEnd : TestRunEnd)
  | log (log : Log)
  | error (error : Error)

structure TestStepStart where
  name : String := ""
  deriving DecidableEq, Repr

structure TestStepEnd where
  status : TestStatus := .UNKNOWN
  deriving DecidableEq, Repr

inductive SubcomponentType where
  | UNSPECIFIED | ASIC | ASIC_SUBSYSTEM | BUS | FUNCTION | CONNECTOR
  deriving DecidableEq, Repr

structure Subcomponent where
  type : SubcomponentType := .UNSPECIFIED
  name : String := ""
  location : String := ""
  version : String := ""
  revision : String := ""
  deriving DecidableEq, Repr

inductive ValidatorType where
  | UNSPECIFIED | EQUAL | NOT_EQUAL | LESS_THAN | LESS_THAN_OR_EQUAL | GREATER_THAN
  | GREATER_THAN_OR_EQUAL | REGEX_MATCH | REGEX_NO_MATCH | IN_SET | NOT_IN_SET
  deriving DecidableEq, Repr

structure Validator where
  name : String := ""
  type : ValidatorType := .UNSPECIFIED
  value : Value := .notSet

structure Measurement where
  name : String := ""
  unit : String := ""
  hardwareInfoId : String := ""
  subcomponent : Option Subcomponent := none
  validators : List Validator := []
  value : Value := .notSet
  metadata : Struct := {}

structure MeasurementSeriesStart where
  measurementSeriesId : String := ""
  name : String := ""
  unit : String := ""
  hardwareInfoId : String := ""
  subcomponent : Option Subcomponent := none
  validators : List Validator := []
  metadata : Struct := {}

structure MeasurementSeriesEnd where
  measurementSeriesId : String := ""
  totalCount : Int := 0
  deriving DecidableEq, Repr

structure MeasurementSeriesElement where
  index : Int := 0
  measurementSeriesId : String := ""
  value : Value := .notSet
  timestamp : Timestamp := {}
  metadata : Struct := {}

inductive DiagnosisType where
  | UNKNOWN | PASS | FAIL
  deriving DecidableEq, Repr

structure Diagnosis where
  verdict : String := ""
  type : DiagnosisType := .UNKNOWN
  message : String := ""
  hardwareInfoId : String := ""
  subcomponent : Option Subcomponent := none
  deriving DecidableEq, Repr

structure File where
  displayName : String := ""
  uri : String := ""
  description : String := ""
  contentType : String := ""
  isSnapshot : Bool := false
  deriving DecidableEq, Repr

structure Extension where
  name : String := ""
  content : Struct := {}

/-- The artifact oneof of a TestStepArtifact. -/
inductive TestStepVariant where
  | notSet
  | testStepStart (start : TestStepStart)
  | testStepEnd (testStepEnd : TestStepEnd)
  | measurement (measurement : Measurement)
  | measurementSeriesStart (start : MeasurementSeriesStart)
  | measurementSeriesEnd (seriesEnd : MeasurementSeriesEnd)
  | measurementSeriesElement (element : MeasurementSeriesElement)
  | diagnosis (diagnosis : Diagnosis)
  | error (error : Error)
  | file (file : File)
  | log (log : Log)
  | extension (extension : Extension)

structure TestStepArtifact where
  artifact : TestStepVariant := .notSet
  testStepId : String := ""

/-- The artifact oneof of an OutputArtifact. -/
inductive OutputVariant where
  | notSet
  | schemaVersion (version : SchemaVersion)
  | testRunArtifact (artifact : TestRunArtifact)
  | testStepArtifact (artifact : TestStepArtifact)

structure OutputArtifact where
  artifact : OutputVariant := .notSet
  sequenceNumber : Int := 0
  timestamp : Timestamp := {}

end OcpDiag.Results.Pb
