import OcpDiag.Results.InputModel
import OcpDiag.Results.Outcome

set_option autoImplicit false

/- The ValidateStructOrDie overloads. -/
namespace OcpDiag.Results

/-- `values[0]`, which is undefined on an empty vector. -/
def firstValue (values : List Variant) : Outcome Variant :=
  match values with
  | [] => .undefined
  | value :: _ => .ok value

/-- std::holds_alternative. -/
def Variant.isString : Variant → Bool
  | .string _ => true
  | _ => false

def Variant.isDouble : Variant → Bool
  | .double _ => true
  | _ => false

/-- The name under which the messages speak of a validator. -/
def Validator.identifier (validator : Validator) : String :=
  if validator.name.isEmpty then "Unnamed Validator" else validator.name

/-- The loop that compares each value with the alternative of the first. -/
def checkSameType (typeIndex : Int) (identifier : String) : List Variant → Outcome Unit
  | [] => .ok ()
  | variant :: rest => do
      check (variant.index == typeIndex) "variant.index() == type_index"
        ("All values must be of the same type for validator: " ++ identifier)
      checkSameType typeIndex identifier rest

/-- The switch over the validator's type. -/
def Validator.checkType (validator : Validator) (first : Variant) : Outcome Unit :=
  match validator.type with
  | .equal | .notEqual =>
      check (validator.value.length == 1) "validator.value.size() == 1"
        ("Must specify exactly one value for EQUAL or NOT EQUAL validator: " ++
          validator.identifier)
  | .lessThan | .lessThanOrEqual | .greaterThan | .greaterThanOrEqual => do
      check (validator.value.length == 1) "validator.value.size() == 1"
        ("Must specify exactly one value for numerical comparison type validator: " ++
          validator.identifier)
      check first.isDouble "std::holds_alternative<double>(validator.value[0])"
        ("Value must be numerical for numerical comparison validator: " ++ validator.identifier)
  | .regexMatch | .regexNoMatch =>
      check first.isString "std::holds_alternative<std::string>(validator.value[0])"
        ("Value must be a string or string collection for REGEX validator: " ++
          validator.identifier)
  | .inSet | .notInSet =>
      check (first.isString || first.isDouble)
        ("std::holds_alternative<std::string>(validator.value[0]) || " ++
          "std::holds_alternative<double>(validator.value[0])")
        ("Value must be a string or numerical type for set validator: " ++ validator.identifier)
  | .unspecified => .die ("Must specify type for validator: " ++ validator.identifier)

def Validator.validateStructOrDie (validator : Validator) : Outcome Unit := do
  check (!validator.value.isEmpty) "!validator.value.empty()"
    ("At least one value must be specified for validator: " ++ validator.identifier)
  let first ← firstValue validator.value
  checkSameType first.index validator.identifier validator.value
  validator.checkType first

def HardwareInfo.validateStructOrDie (hardwareInfo : HardwareInfo) : Outcome Unit :=
  check (!hardwareInfo.name.isEmpty) "!hardware_info.name.empty()"
    "Must specify the name field of the hardware info struct"

def SoftwareInfo.validateStructOrDie (softwareInfo : SoftwareInfo) : Outcome Unit :=
  check (!softwareInfo.name.isEmpty) "!software_info.name.empty()"
    "Must specify the name field of the software info struct"

def PlatformInfo.validateStructOrDie (platformInfo : PlatformInfo) : Outcome Unit :=
  check (!platformInfo.info.isEmpty) "!platform_info.info.empty()"
    "Must specify the info field of the platform info struct"

def Subcomponent.validateStructOrDie (subcomponent : Subcomponent) : Outcome Unit :=
  check (!subcomponent.name.isEmpty) "!subcomponent.name.empty()"
    "Must specify the name field of the subcomponent struct"

/-- `if (subcomponent.has_value()) ValidateStructOrDie(*subcomponent)`. -/
def validateSubcomponent (subcomponent : Option Subcomponent) : Outcome Unit :=
  match subcomponent with
  | none => .ok ()
  | some subcomponent => subcomponent.validateStructOrDie

/-- The loop over the validators of a series or a measurement: each is validated, and then
the alternative of its values has to be accepted. -/
def validateValidators (accepts : Int → Bool) (condition message : String) :
    List Validator → Outcome Unit
  | [] => .ok ()
  | validator :: rest => do
      validator.validateStructOrDie
      let first ← firstValue validator.value
      check (accepts first.index) condition message
      validateValidators accepts condition message rest

/-- The type of the first value of the first validator is read before any validator has
been validated. -/
def MeasurementSeriesStart.validateStructOrDie (start : MeasurementSeriesStart) :
    Outcome Unit := do
  check (!start.name.isEmpty) "!measurement_series_start.name.empty()"
    "Must specify the name field of the measurement series start struct"
  validateSubcomponent start.subcomponent
  match start.validators with
  | [] => return ()
  | validator :: _ =>
      let first ← firstValue validator.value
      validateValidators (fun index => first.index == -1 || first.index == index)
        "type_index == -1 || type_index == validator.value[0].index()"
        ("All validators must be the same type for measurement series start: " ++ start.name)
        start.validators

def Measurement.validateStructOrDie (measurement : Measurement) : Outcome Unit := do
  check (!measurement.name.isEmpty) "!measurement.name.empty()"
    "Must specify the name field of the measurement struct"
  validateSubcomponent measurement.subcomponent
  validateValidators (fun index => measurement.value.index == index)
    "type_index == validator.value[0].index()"
    ("All validators and the value must be the same type for measurement: " ++ measurement.name)
    measurement.validators

def Diagnosis.validateStructOrDie (diagnosis : Diagnosis) : Outcome Unit := do
  check (!diagnosis.verdict.isEmpty) "!diagnosis.verdict.empty()"
    "Must specify the verdict field of the diagnosis struct"
  check (diagnosis.type != .unknown) "diagnosis.type != DiagnosisType::kUnknown"
    "Must specify a type for all diagnoses"
  validateSubcomponent diagnosis.subcomponent

def Error.validateStructOrDie (error : Error) : Outcome Unit :=
  check (!error.symptom.isEmpty) "!error.symptom.empty()"
    "Must specify the symptom field of the error struct"

def Log.validateStructOrDie (log : Log) : Outcome Unit :=
  check (!log.message.isEmpty) "!log.message.empty()" "Must specify the message field of the log"

def File.validateStructOrDie (file : File) : Outcome Unit := do
  check (!file.displayName.isEmpty) "!file.display_name.empty()"
    "Must specify the display name of the file struct"
  check (!file.uri.isEmpty) "!file.uri.empty()"
    ("Must specify the URI of the file struct: " ++ file.displayName)

def TestRunStart.validateStructOrDie (start : TestRunStart) : Outcome Unit := do
  check (!start.name.isEmpty) "!test_run_info.name.empty()"
    "Must specify the name of the test run info"
  check (!start.version.isEmpty) "!test_run_info.version.empty()"
    ("Must specify the version in the test run info: " ++ start.name)
  check (!start.commandLine.isEmpty) "!test_run_info.command_line.empty()"
    ("Must specify the command line invocation in the test run info: " ++ start.name)

def Extension.validateStructOrDie (extension : Extension) : Outcome Unit := do
  check (!extension.name.isEmpty) "!extension.name.empty()" "Must specify the name of the extension"
  check (!extension.contentJson.isEmpty) "!extension.content_json.empty()"
    "Must specify the content of the extension"

end OcpDiag.Results
