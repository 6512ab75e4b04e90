set_option autoImplicit false

/- The structs through which a test hands its data to the results library. -/
namespace OcpDiag.Results

/-- A C++ double, by its bits: the library stores and copies doubles. -/
structure Double where
  bits : BitVec 64
  deriving DecidableEq, Repr

inductive Variant where
  | string (value : String)
  | double (value : Double)
  | bool (value : Bool)
  deriving DecidableEq, Repr

/-- std::variant::index. -/
def Variant.index : Variant → Int
  | .string _ => 0
  | .double _ => 1
  | .bool _ => 2

def majorSchemaVersion : Int := 2
def minorSchemaVersion : Int := 0

inductive ValidatorType where
  | unspecified | equal | notEqual | lessThan | lessThanOrEqual | greaterThan
  | greaterThanOrEqual | regexMatch | regexNoMatch | inSet | notInSet
  deriving DecidableEq, Repr

structure Validator where
  type : ValidatorType
  value : List Variant
  name : String := ""
  deriving DecidableEq, Repr

structure HardwareInfo where
  name : String
  computerSystem : String := ""
  location : String := ""
  odataId : String := ""
  partNumber : String := ""
  serialNumber : String := ""
  manager : String := ""
  manufacturer : String := ""
  manufacturerPartNumber : String := ""
  partType : String := ""
  version : String := ""
  revision : String := ""
  deriving DecidableEq, Repr

/-- A reference to a registered hardware info. A default-constructed one has an empty id. -/
structure RegisteredHardwareInfo where
  id : String := ""
  deriving DecidableEq, Repr

inductive SoftwareType where
  | unspecified | firmware | system | application
  deriving DecidableEq, Repr

structure SoftwareInfo where
  name : String
  computerSystem : String := ""
  version : String := ""
  revision : String := ""
  softwareType : SoftwareType := .unspecified
  deriving DecidableEq, Repr

structure RegisteredSoftwareInfo where
  id : String := ""
  deriving DecidableEq, Repr

structure PlatformInfo where
  info : String
  deriving DecidableEq, Repr

inductive SubcomponentType where
  | unspecified | asic | asicSubsystem | bus | function | connector
  deriving DecidableEq, Repr

structure Subcomponent where
  name : String
  type : SubcomponentType := .unspecified
  location : String := ""
  version : String := ""
  revision : String := ""
  deriving DecidableEq, Repr

/-- struct timeval. -/
structure Timeval where
  tvSec : Int := 0
  tvUsec : Int := 0
  deriving DecidableEq, Repr

structure MeasurementSeriesStart where
  name : String
  unit : String := ""
  hardwareInfo : Option RegisteredHardwareInfo := none
  subcomponent : Option Subcomponent := none
  validators : List Validator := []
  metadataJson : String := ""
  deriving DecidableEq, Repr

structure MeasurementSeriesElement where
  value : Variant
  timestamp : Option Timeval := none
  metadataJson : String := ""
  deriving DecidableEq, Repr

structure Measurement where
  name : String
  unit : String := ""
  hardwareInfo : Option RegisteredHardwareInfo := none
  subcomponent : Option Subcomponent := none
  validators : List Validator := []
  value : Variant
  metadataJson : String := ""
  deriving DecidableEq, Repr

inductive DiagnosisType where
  | unknown | pass | fail
  deriving DecidableEq, Repr

structure Diagnosis where
  verdict : String
  type : DiagnosisType
  message : String := ""
  hardwareInfo : Option RegisteredHardwareInfo := none
  subcomponent : Option Subcomponent := none
  deriving DecidableEq, Repr

structure Error where
  symptom : String
  message : String := ""
  softwareInfos : List RegisteredSoftwareInfo := []
  deriving DecidableEq, Repr

inductive LogSeverity where
  | info | warning | error | fatal | debug
  deriving DecidableEq, Repr

structure Log where
  severity : LogSeverity := .info
  message : String
  deriving DecidableEq, Repr

structure File where
  displayName : String
  uri : String
  isSnapshot : Bool := false
  description : String := ""
  contentType : String := ""
  deriving DecidableEq, Repr

structure TestRunStart where
  name : String
  version : String
  commandLine : String
  parametersJson : String := ""
  metadataJson : String := ""
  deriving DecidableEq, Repr

structure Extension where
  name : String
  contentJson : String
  deriving DecidableEq, Repr

end OcpDiag.Results
