import OcpDiag.Results.InputModel

set_option autoImplicit false

/- The structs in which the library's output is read back. -/
namespace OcpDiag.Results

inductive TestResult where
  | notApplicable | pass | fail
  deriving DecidableEq, Repr

inductive TestStatus where
  | unknown | complete | error | skip
  deriving DecidableEq, Repr

abbrev SubcomponentOutput := Subcomponent
abbrev ValidatorOutput := Validator
abbrev LogOutput := Log
abbrev FileOutput := File
abbrev ExtensionOutput := Extension
abbrev PlatformInfoOutput := PlatformInfo

structure MeasurementSeriesStartOutput where
  measurementSeriesId : String := ""
  name : String := ""
  unit : String := ""
  hardwareInfoId : String := ""
  subcomponent : Option SubcomponentOutput := none
  validators : List ValidatorOutput := []
  metadataJson : String := ""
  deriving DecidableEq, Repr

structure MeasurementSeriesEndOutput where
  measurementSeriesId : String := ""
  totalCount : Int := 0
  deriving DecidableEq, Repr

structure MeasurementSeriesElementOutput where
  index : Int
  measurementSeriesId : String
  value : Variant
  timestamp : Timeval
  metadataJson : String
  deriving DecidableEq, Repr

structure MeasurementOutput where
  name : String
  unit : String
  hardwareInfoId : String
  subcomponent : Option SubcomponentOutput
  validators : List ValidatorOutput
  value : Variant
  metadataJson : String
  deriving DecidableEq, Repr

structure TestStepStartOutput where
  name : String := ""
  deriving DecidableEq, Repr

structure TestStepEndOutput where
  status : TestStatus := .unknown
  deriving DecidableEq, Repr

structure DiagnosisOutput where
  verdict : String
  type : DiagnosisType
  message : String
  hardwareInfoId : String
  subcomponent : Option SubcomponentOutput
  deriving DecidableEq, Repr

structure ErrorOutput where
  symptom : String
  message : String
  softwareInfoIds : List String
  deriving DecidableEq, Repr

structure HardwareInfoOutput extends HardwareInfo where
  hardwareInfoId : String
  deriving DecidableEq, Repr

structure SoftwareInfoOutput extends SoftwareInfo where
  softwareInfoId : String
  deriving DecidableEq, Repr

structure DutInfoOutput where
  dutInfoId : String := ""
  name : String := ""
  metadataJson : String := ""
  platformInfos : List PlatformInfoOutput := []
  hardwareInfos : List HardwareInfoOutput := []
  softwareInfos : List SoftwareInfoOutput := []
  deriving DecidableEq, Repr

structure TestRunStartOutput where
  name : String := ""
  version : String := ""
  commandLine : String := ""
  parametersJson : String := ""
  metadataJson : String := ""
  dutInfo : DutInfoOutput := {}
  deriving DecidableEq, Repr

structure TestRunEndOutput where
  status : TestStatus := .unknown
  result : TestResult := .notApplicable
  deriving DecidableEq, Repr

structure SchemaVersionOutput where
  major : Int := 0
  minor : Int := 0
  deriving DecidableEq, Repr

structure MeasurementSeriesModel where
  start : MeasurementSeriesStartOutput := {}
  seriesEnd : MeasurementSeriesEndOutput := {}
  elements : List MeasurementSeriesElementOutput := []
  deriving DecidableEq, Repr

structure TestStepModel where
  testStepId : String
  start : TestStepStartOutput := {}
  stepEnd : TestStepEndOutput := {}
  logs : List LogOutput := []
  errors : List ErrorOutput := []
  files : List FileOutput := []
  extensions : List ExtensionOutput := []
  measurementSeries : List MeasurementSeriesModel := []
  measurements : List MeasurementOutput := []
  diagnoses : List DiagnosisOutput := []
  deriving DecidableEq, Repr

structure TestRunModel where
  start : TestRunStartOutput := {}
  runEnd : TestRunEndOutput := {}
  preStartLogs : List LogOutput := []
  preStartErrors : List ErrorOutput := []
  deriving DecidableEq, Repr

structure OutputModel where
  schemaVersion : SchemaVersionOutput := {}
  testRun : TestRunModel := {}
  testSteps : List TestStepModel := []
  deriving DecidableEq, Repr

inductive TestStepVariant where
  | testStepStart (start : TestStepStartOutput)
  | testStepEnd (stepEnd : TestStepEndOutput)
  | measurement (measurement : MeasurementOutput)
  | measurementSeriesStart (start : MeasurementSeriesStartOutput)
  | measurementSeriesEnd (seriesEnd : MeasurementSeriesEndOutput)
  | measurementSeriesElement (element : MeasurementSeriesElementOutput)
  | diagnosis (diagnosis : DiagnosisOutput)
  | error (error : ErrorOutput)
  | file (file : FileOutput)
  | log (log : LogOutput)
  | extension (extension : ExtensionOutput)
  deriving DecidableEq, Repr

structure TestStepArtifact where
  artifact : TestStepVariant
  testStepId : String
  deriving DecidableEq, Repr

/-- The variant of a TestRunArtifact. -/
inductive TestRunArtifact where
  | testRunStart (start : TestRunStartOutput)
  | testRunEnd (runEnd : TestRunEndOutput)
  | log (log : LogOutput)
  | error (error : ErrorOutput)
  deriving DecidableEq, Repr

inductive OutputVariant where
  | schemaVersion (version : SchemaVersionOutput)
  | testRunArtifact (artifact : TestRunArtifact)
  | testStepArtifact (artifact : TestStepArtifact)
  deriving DecidableEq, Repr

structure OutputArtifact where
  artifact : OutputVariant
  sequenceNumber : Int
  timestamp : Timeval
  deriving DecidableEq, Repr

end OcpDiag.Results
