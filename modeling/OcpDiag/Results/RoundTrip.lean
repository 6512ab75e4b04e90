import OcpDiag.Results.ProtoToStruct
import OcpDiag.Results.StructValidity

set_option autoImplicit false

namespace OcpDiag.Results

@[simp] theorem ValidatorType.ofProto_toProto (type : ValidatorType) :
    ValidatorType.ofProto type.toProto = type := by cases type <;> rfl

@[simp] theorem SoftwareType.ofProto_toProto (type : SoftwareType) :
    SoftwareType.ofProto type.toProto = type := by cases type <;> rfl

@[simp] theorem SubcomponentType.ofProto_toProto (type : SubcomponentType) :
    SubcomponentType.ofProto type.toProto = type := by cases type <;> rfl

@[simp] theorem DiagnosisType.ofProto_toProto (type : DiagnosisType) :
    DiagnosisType.ofProto type.toProto = type := by cases type <;> rfl

@[simp] theorem LogSeverity.ofProto_toProto (severity : LogSeverity) :
    LogSeverity.ofProto severity.toProto = severity := by cases severity <;> rfl

@[simp] theorem TestStatus.ofProto_toProto (status : TestStatus) :
    TestStatus.ofProto status.toProto = status := by cases status <;> rfl

@[simp] theorem TestResult.ofProto_toProto (result : TestResult) :
    TestResult.ofProto result.toProto = result := by cases result <;> rfl

@[simp] theorem protoToVariant_variantToProto (value : Variant) :
    protoToVariant (variantToProto value) = .ok value := by cases value <;> rfl

theorem protoToVariants_map (values : List Variant) :
    protoToVariants (values.map variantToProto) = .ok values := by
  induction values with
  | nil => rfl
  | cons value rest ih =>
      simp only [List.map_cons, protoToVariants, protoToVariant_variantToProto, ih,
        Outcome.ok_bind, Outcome.pure_eq_ok]

@[simp] theorem PlatformInfo.protoToStruct_structToProto (info : PlatformInfo) :
    PlatformInfoOutput.protoToStruct info.structToProto = info := rfl

@[simp] theorem HardwareInfoOutput.protoToStruct_structToProto (info : HardwareInfoOutput) :
    HardwareInfoOutput.protoToStruct info.structToProto = info := rfl

@[simp] theorem SoftwareInfoOutput.protoToStruct_structToProto (info : SoftwareInfoOutput) :
    SoftwareInfoOutput.protoToStruct info.structToProto = info := by
  simp only [SoftwareInfoOutput.protoToStruct, structToProto, SoftwareType.ofProto_toProto]

@[simp] theorem Subcomponent.protoToStruct_structToProto (subcomponent : Subcomponent) :
    SubcomponentOutput.protoToStruct subcomponent.structToProto = subcomponent := by
  simp only [SubcomponentOutput.protoToStruct, structToProto, SubcomponentType.ofProto_toProto]

theorem map_map_eq_self {α β : Type} (decode : β → α) (encode : α → β)
    (inverse : ∀ value, decode (encode value) = value) (values : List α) :
    (values.map encode).map decode = values := by
  rw [List.map_map, show decode ∘ encode = id from funext inverse, List.map_id]

theorem subcomponent_roundTrip (subcomponent : Option Subcomponent) :
    (subcomponent.map (·.structToProto)).map SubcomponentOutput.protoToStruct = subcomponent := by
  cases subcomponent with
  | none => rfl
  | some subcomponent =>
      simp only [Option.map_some, Subcomponent.protoToStruct_structToProto]

/-- A scalar and a list of values are both read back as the list they were made from. Only
the encoding of no value at all is not. -/
theorem Validator.protoToStruct_structToProto (validator : Validator)
    (nonempty : validator.value ≠ []) :
    ValidatorOutput.protoToStruct validator.structToProto = .ok validator := by
  obtain ⟨type, value, name⟩ := validator
  match value, nonempty with
  | [.string value], _ => simp [structToProto, ValidatorOutput.protoToStruct, variantToProto,
      protoToVariants, protoToVariant]
  | [.double value], _ => simp [structToProto, ValidatorOutput.protoToStruct, variantToProto,
      protoToVariants, protoToVariant]
  | [.bool value], _ => simp [structToProto, ValidatorOutput.protoToStruct, variantToProto,
      protoToVariants, protoToVariant]
  | first :: second :: rest, _ =>
      simp only [structToProto, ValidatorOutput.protoToStruct, protoToVariants_map,
        Outcome.ok_bind, Outcome.pure_eq_ok, ValidatorType.ofProto_toProto]

theorem protoToValidators_map (validators : List Validator)
    (nonempty : ∀ validator ∈ validators, validator.value ≠ []) :
    protoToValidators (validators.map (·.structToProto)) = .ok validators := by
  induction validators with
  | nil => rfl
  | cons validator rest ih =>
      have head := validator.protoToStruct_structToProto (nonempty validator (by simp))
      have tail := ih fun other member => nonempty other (by simp [member])
      simp only [List.map_cons, protoToValidators, head, tail, Outcome.ok_bind,
        Outcome.pure_eq_ok]

theorem MeasurementSeriesStart.validators_nonempty (start : MeasurementSeriesStart)
    (valid : start.validateStructOrDie = .ok ()) :
    ∀ validator ∈ start.validators, validator.value ≠ [] := by
  have wellFormed := start.validateStructOrDie_eq_ok.mp valid
  exact fun validator member => (wellFormed.validators validator member).nonempty

theorem Measurement.validators_nonempty (measurement : Measurement)
    (valid : measurement.validateStructOrDie = .ok ()) :
    ∀ validator ∈ measurement.validators, validator.value ≠ [] := by
  simp only [validateStructOrDie, Outcome.bind_eq_ok] at valid
  obtain ⟨⟨⟩, _, ⟨⟩, _, valid⟩ := valid
  have wellFormed := (validateValidators_eq_ok _ _ _ _).mp valid
  exact fun validator member => (wellFormed validator member).1.nonempty

section Json

variable (protobuf : Protobuf)

/-- A text that may stand in a JSON field: a JSON object, or nothing. -/
def JsonField (text : String) : Prop :=
  text = "" ∨ ∃ value, protobuf.jsonStringToMessage text = .ok value

/-- Two JSON fields denote the same object, the empty text the empty object. -/
def SameJson (input output : String) : Prop :=
  ∃ value, (if input = "" then .ok {} else protobuf.jsonStringToMessage input) =
      (.ok value : Except String Pb.Struct) ∧
    protobuf.jsonStringToMessage output = .ok value

/-- Parsing undoes printing, on the empty object and on whatever has been parsed. -/
def ParseUndoesPrint : Prop :=
  ∀ value, (value = {} ∨ ∃ text, protobuf.jsonStringToMessage text = .ok value) →
    ∃ text, protobuf.messageToJsonString value = .ok text ∧
      protobuf.jsonStringToMessage text = .ok value

/-- The times a google.protobuf.Timestamp can hold, to the microsecond. -/
def Timeval.InRange (time : Timeval) : Prop :=
  -62135596800 ≤ time.tvSec ∧ time.tvSec ≤ 253402300799 ∧ 0 ≤ time.tvUsec ∧ time.tvUsec < 1000000

def TimeConversionExact : Prop :=
  ∀ time : Timeval, time.InRange →
    protobuf.timestampToTimeval (protobuf.timevalToTimestamp time) = time

variable {protobuf}

/-- A JSON field survives the way through a message. -/
theorem json_roundTrip (undoes : ParseUndoesPrint protobuf) (text : String)
    (valid : JsonField protobuf text) :
    ∃ value output, jsonToProtoOrDie protobuf text = .ok value ∧
      protoToJsonOrDie protobuf value = .ok output ∧ SameJson protobuf text output := by
  by_cases empty : text = ""
  · obtain ⟨output, printed, parsed⟩ := undoes {} (Or.inl rfl)
    refine ⟨{}, output, ?_, ?_, ?_⟩
    · simp [jsonToProtoOrDie, empty]
    · simp only [protoToJsonOrDie, printed]
    · exact ⟨{}, by simp only [empty, ↓reduceIte], parsed⟩
  · obtain ⟨value, read⟩ := valid.resolve_left empty
    obtain ⟨output, printed, parsed⟩ := undoes value (Or.inr ⟨text, read⟩)
    refine ⟨value, output, ?_, ?_, ?_⟩
    · simp only [jsonToProtoOrDie, String.isEmpty_iff, empty, ↓reduceIte, read]
    · simp only [protoToJsonOrDie, printed]
    · exact ⟨value, by simp only [empty, ↓reduceIte, read], parsed⟩

end Json

/-- A struct that a test hands to the library, with what the library adds to its artifact. -/
inductive ResultInput where
  | testRunStart (start : TestRunStart) (dutInfo : Option DutInfo)
  | preStartLog (log : Log)
  | preStartError (error : Error)
  | measurement (measurement : Measurement)
  | measurementSeriesStart (start : MeasurementSeriesStart) (seriesId : String)
  | measurementSeriesElement (element : MeasurementSeriesElement) (index : Int)
      (seriesId : String)
  | diagnosis (diagnosis : Diagnosis)
  | error (error : Error)
  | file (file : File)
  | log (log : Log)
  | extension (extension : Extension)

namespace ResultInput

/-- ValidateStructOrDie returns. An element is not validated, but has to carry a time. -/
def Accepted : ResultInput → Prop
  | .testRunStart start _ => start.validateStructOrDie = .ok ()
  | .preStartLog input | .log input => input.validateStructOrDie = .ok ()
  | .preStartError input | .error input => input.validateStructOrDie = .ok ()
  | .measurement input => input.validateStructOrDie = .ok ()
  | .measurementSeriesStart start _ => start.validateStructOrDie = .ok ()
  | .measurementSeriesElement element _ _ => ∃ time, element.timestamp = some time ∧ time.InRange
  | .diagnosis input => input.validateStructOrDie = .ok ()
  | .file input => input.validateStructOrDie = .ok ()
  | .extension input => input.validateStructOrDie = .ok ()

/-- The texts of the JSON fields. -/
def jsonFields : ResultInput → List String
  | .testRunStart start dutInfo =>
      [start.parametersJson, start.metadataJson] ++ (dutInfo.map (·.metadataJson)).toList
  | .measurement input => [input.metadataJson]
  | .measurementSeriesStart start _ => [start.metadataJson]
  | .measurementSeriesElement element _ _ => [element.metadataJson]
  | .extension input => [input.contentJson]
  | _ => []

/-- StructToProto and DutInfoToProto, with the fields that the callers set afterwards. -/
def structToProto (protobuf : Protobuf) (testStepId : String) :
    ResultInput → Outcome Pb.OutputVariant
  | .testRunStart start dutInfo => do
      let proto ← start.structToProto protobuf
      match dutInfo with
      | none => return .testRunArtifact (.testRunStart proto)
      | some dutInfo =>
          let dutProto ← dutInfoToProto protobuf dutInfo
          return .testRunArtifact (.testRunStart { proto with dutInfo := some dutProto })
  | .preStartLog input => .ok (.testRunArtifact (.log input.structToProto))
  | .preStartError input => .ok (.testRunArtifact (.error input.structToProto))
  | .measurement input => do
      let proto ← input.structToProto protobuf
      return .testStepArtifact ⟨.measurement proto, testStepId⟩
  | .measurementSeriesStart start seriesId => do
      let proto ← start.structToProto protobuf
      return .testStepArtifact
        ⟨.measurementSeriesStart { proto with measurementSeriesId := seriesId }, testStepId⟩
  | .measurementSeriesElement element index seriesId => do
      let proto ← element.structToProto protobuf
      return .testStepArtifact
        ⟨.measurementSeriesElement { proto with index, measurementSeriesId := seriesId },
          testStepId⟩
  | .diagnosis input => .ok (.testStepArtifact ⟨.diagnosis input.structToProto, testStepId⟩)
  | .error input => .ok (.testStepArtifact ⟨.error input.structToProto, testStepId⟩)
  | .file input => .ok (.testStepArtifact ⟨.file input.structToProto, testStepId⟩)
  | .log input => .ok (.testStepArtifact ⟨.log input.structToProto, testStepId⟩)
  | .extension input => do
      let proto ← input.structToProto protobuf
      return .testStepArtifact ⟨.extension proto, testStepId⟩

/-- The output holds what the input holds, field by field: the same values, an id for a
registered info, and texts of the same JSON object. -/
def Carries (protobuf : Protobuf) (testStepId : String) (output : OutputVariant) :
    ResultInput → Prop
  | .testRunStart start dutInfo =>
      ∃ parametersJson metadataJson dutOutput,
        SameJson protobuf start.parametersJson parametersJson ∧
        SameJson protobuf start.metadataJson metadataJson ∧
        output = .testRunArtifact (.testRunStart {
          name := start.name
          version := start.version
          commandLine := start.commandLine
          parametersJson
          metadataJson
          dutInfo := dutOutput }) ∧
        match dutInfo with
        | none => ∃ json, SameJson protobuf "" json ∧ dutOutput = { metadataJson := json }
        | some dut => ∃ json, SameJson protobuf dut.metadataJson json ∧ dutOutput = {
            dutInfoId := dut.id
            name := dut.name
            metadataJson := json
            platformInfos := dut.platformInfos
            hardwareInfos := dut.hardwareInfos
            softwareInfos := dut.softwareInfos }
  | .preStartLog input => output = .testRunArtifact (.log input)
  | .preStartError input => output = .testRunArtifact (.error {
      symptom := input.symptom
      message := input.message
      softwareInfoIds := input.softwareInfos.map (·.id) })
  | .measurement input =>
      ∃ json, SameJson protobuf input.metadataJson json ∧
        output = .testStepArtifact ⟨.measurement {
          name := input.name
          unit := input.unit
          hardwareInfoId := (input.hardwareInfo.map (·.id)).getD ""
          subcomponent := input.subcomponent
          validators := input.validators
          value := input.value
          metadataJson := json }, testStepId⟩
  | .measurementSeriesStart start seriesId =>
      ∃ json, SameJson protobuf start.metadataJson json ∧
        output = .testStepArtifact ⟨.measurementSeriesStart {
          measurementSeriesId := seriesId
          name := start.name
          unit := start.unit
          hardwareInfoId := (start.hardwareInfo.map (·.id)).getD ""
          subcomponent := start.subcomponent
          validators := start.validators
          metadataJson := json }, testStepId⟩
  | .measurementSeriesElement element index seriesId =>
      ∃ json time, SameJson protobuf element.metadataJson json ∧
        element.timestamp = some time ∧
        output = .testStepArtifact ⟨.measurementSeriesElement {
          index
          measurementSeriesId := seriesId
          value := element.value
          timestamp := time
          metadataJson := json }, testStepId⟩
  | .diagnosis input => output = .testStepArtifact ⟨.diagnosis {
      verdict := input.verdict
      type := input.type
      message := input.message
      hardwareInfoId := (input.hardwareInfo.map (·.id)).getD ""
      subcomponent := input.subcomponent }, testStepId⟩
  | .error input => output = .testStepArtifact ⟨.error {
      symptom := input.symptom
      message := input.message
      softwareInfoIds := input.softwareInfos.map (·.id) }, testStepId⟩
  | .file input => output = .testStepArtifact ⟨.file input, testStepId⟩
  | .log input => output = .testStepArtifact ⟨.log input, testStepId⟩
  | .extension input =>
      ∃ json, SameJson protobuf input.contentJson json ∧
        output = .testStepArtifact
          ⟨.extension { name := input.name, contentJson := json }, testStepId⟩

end ResultInput

section RoundTrip

variable {protobuf : Protobuf} (undoes : ParseUndoesPrint protobuf)

theorem hardwareInfoIdOf_eq (hardwareInfo : Option RegisteredHardwareInfo) :
    hardwareInfoIdOf hardwareInfo = (hardwareInfo.map (·.id)).getD "" := by
  cases hardwareInfo <;> rfl

theorem Log.protoToStruct_structToProto (log : Log) :
    LogOutput.protoToStruct log.structToProto = log := by
  simp only [LogOutput.protoToStruct, structToProto, LogSeverity.ofProto_toProto]

include undoes in
theorem DutInfo.roundTrip (dut : DutInfo) (valid : JsonField protobuf dut.metadataJson) :
    ∃ proto json, dutInfoToProto protobuf dut = .ok proto ∧
      SameJson protobuf dut.metadataJson json ∧
      DutInfoOutput.protoToStruct protobuf proto = .ok {
        dutInfoId := dut.id
        name := dut.name
        metadataJson := json
        platformInfos := dut.platformInfos
        hardwareInfos := dut.hardwareInfos
        softwareInfos := dut.softwareInfos } := by
  obtain ⟨value, json, encoded, decoded, same⟩ := json_roundTrip undoes dut.metadataJson valid
  refine ⟨_, json, by simp only [dutInfoToProto, encoded, Outcome.ok_bind, Outcome.pure_eq_ok]; rfl,
    same, ?_⟩
  simp only [DutInfoOutput.protoToStruct, decoded, Outcome.ok_bind, Outcome.pure_eq_ok,
    map_map_eq_self _ _ PlatformInfo.protoToStruct_structToProto,
    map_map_eq_self _ _ HardwareInfoOutput.protoToStruct_structToProto,
    map_map_eq_self _ _ SoftwareInfoOutput.protoToStruct_structToProto]

include undoes in
theorem DutInfoOutput.empty_roundTrip :
    ∃ json, SameJson protobuf "" json ∧
      DutInfoOutput.protoToStruct protobuf {} = .ok { metadataJson := json } := by
  obtain ⟨value, json, encoded, decoded, same⟩ := json_roundTrip undoes "" (Or.inl rfl)
  have empty : value = {} := by simpa [jsonToProtoOrDie] using encoded.symm
  subst empty
  exact ⟨json, same, by simp [DutInfoOutput.protoToStruct, decoded]⟩

include undoes in
theorem TestRunStart.roundTrip (start : TestRunStart) (dutInfo : Option DutInfo)
    (testStepId : String)
    (valid : ∀ text ∈ (ResultInput.testRunStart start dutInfo).jsonFields,
      JsonField protobuf text) :
    ∃ proto output,
      (ResultInput.testRunStart start dutInfo).structToProto protobuf testStepId = .ok proto ∧
      OutputVariant.protoToStruct protobuf proto = .ok output ∧
      (ResultInput.testRunStart start dutInfo).Carries protobuf testStepId output := by
  obtain ⟨parameters, parametersJson, encodedParameters, decodedParameters, sameParameters⟩ :=
    json_roundTrip undoes start.parametersJson (valid _ (by simp [ResultInput.jsonFields]))
  obtain ⟨metadata, metadataJson, encodedMetadata, decodedMetadata, sameMetadata⟩ :=
    json_roundTrip undoes start.metadataJson (valid _ (by simp [ResultInput.jsonFields]))
  cases dutInfo with
  | none =>
      obtain ⟨json, same, decoded⟩ := DutInfoOutput.empty_roundTrip undoes
      refine ⟨_, _, by
          simp only [ResultInput.structToProto, TestRunStart.structToProto, encodedParameters,
            encodedMetadata, Outcome.ok_bind, Outcome.pure_eq_ok]
          rfl, ?_, parametersJson, metadataJson, { metadataJson := json }, sameParameters,
        sameMetadata, rfl, json, same, rfl⟩
      simp only [OutputVariant.protoToStruct, TestRunArtifact.protoToStruct,
        TestRunStartOutput.protoToStruct, decodedParameters, decodedMetadata,
        Option.getD_none, decoded, Outcome.ok_bind, Outcome.pure_eq_ok]
  | some dut =>
      obtain ⟨proto, json, encoded, same, decoded⟩ := DutInfo.roundTrip undoes dut
        (valid _ (by simp [ResultInput.jsonFields]))
      refine ⟨_, _, by
          simp only [ResultInput.structToProto, TestRunStart.structToProto, encodedParameters,
            encodedMetadata, encoded, Outcome.ok_bind, Outcome.pure_eq_ok]
          rfl, ?_, parametersJson, metadataJson, _, sameParameters, sameMetadata, rfl,
        json, same, rfl⟩
      simp only [OutputVariant.protoToStruct, TestRunArtifact.protoToStruct,
        TestRunStartOutput.protoToStruct, decodedParameters, decodedMetadata,
        Option.getD_some, decoded, Outcome.ok_bind, Outcome.pure_eq_ok]

include undoes in
theorem Measurement.roundTrip (measurement : Measurement)
    (accepted : measurement.validateStructOrDie = .ok ())
    (valid : JsonField protobuf measurement.metadataJson) :
    ∃ proto json, measurement.structToProto protobuf = .ok proto ∧
      SameJson protobuf measurement.metadataJson json ∧
      MeasurementOutput.protoToStruct protobuf proto = .ok {
        name := measurement.name
        unit := measurement.unit
        hardwareInfoId := (measurement.hardwareInfo.map (·.id)).getD ""
        subcomponent := measurement.subcomponent
        validators := measurement.validators
        value := measurement.value
        metadataJson := json } := by
  obtain ⟨metadata, json, encoded, decoded, same⟩ := json_roundTrip undoes _ valid
  have validators := protoToValidators_map _ (measurement.validators_nonempty accepted)
  refine ⟨_, json, by simp only [structToProto, encoded, Outcome.ok_bind, Outcome.pure_eq_ok]; rfl,
    same, ?_⟩
  simp only [MeasurementOutput.protoToStruct, validators, decoded, subcomponent_roundTrip,
    protoToVariant_variantToProto, hardwareInfoIdOf_eq, Outcome.ok_bind, Outcome.pure_eq_ok]

include undoes in
/-- The series id that the library sets on the message is read back with it. -/
theorem MeasurementSeriesStart.roundTrip (start : MeasurementSeriesStart) (seriesId : String)
    (accepted : start.validateStructOrDie = .ok ())
    (valid : JsonField protobuf start.metadataJson) :
    ∃ proto json, start.structToProto protobuf = .ok proto ∧
      SameJson protobuf start.metadataJson json ∧
      MeasurementSeriesStartOutput.protoToStruct protobuf
        { proto with measurementSeriesId := seriesId } = .ok {
        measurementSeriesId := seriesId
        name := start.name
        unit := start.unit
        hardwareInfoId := (start.hardwareInfo.map (·.id)).getD ""
        subcomponent := start.subcomponent
        validators := start.validators
        metadataJson := json } := by
  obtain ⟨metadata, json, encoded, decoded, same⟩ := json_roundTrip undoes _ valid
  have validators := protoToValidators_map _ (start.validators_nonempty accepted)
  refine ⟨_, json, by simp only [structToProto, encoded, Outcome.ok_bind, Outcome.pure_eq_ok]; rfl,
    same, ?_⟩
  simp only [MeasurementSeriesStartOutput.protoToStruct, validators, decoded,
    subcomponent_roundTrip, hardwareInfoIdOf_eq, Outcome.ok_bind, Outcome.pure_eq_ok]

include undoes in
theorem MeasurementSeriesElement.roundTrip (exact : TimeConversionExact protobuf)
    (element : MeasurementSeriesElement) (index : Int) (seriesId : String) (time : Timeval)
    (timed : element.timestamp = some time) (inRange : time.InRange)
    (valid : JsonField protobuf element.metadataJson) :
    ∃ proto json, element.structToProto protobuf = .ok proto ∧
      SameJson protobuf element.metadataJson json ∧
      MeasurementSeriesElementOutput.protoToStruct protobuf
        { proto with index, measurementSeriesId := seriesId } = .ok {
        index
        measurementSeriesId := seriesId
        value := element.value
        timestamp := time
        metadataJson := json } := by
  obtain ⟨metadata, json, encoded, decoded, same⟩ := json_roundTrip undoes _ valid
  refine ⟨_, json, by
      simp only [structToProto, encoded, timed, Outcome.ok_bind, Outcome.pure_eq_ok]
      rfl, same, ?_⟩
  simp only [MeasurementSeriesElementOutput.protoToStruct, decoded, exact time inRange,
    protoToVariant_variantToProto, Outcome.ok_bind, Outcome.pure_eq_ok]

include undoes in
/-- Each kind of artifact is converted without dying and carries its input. -/
theorem ResultInput.roundTrip (exact : TimeConversionExact protobuf) (input : ResultInput)
    (testStepId : String) (accepted : input.Accepted)
    (valid : ∀ text ∈ input.jsonFields, JsonField protobuf text) :
    ∃ proto output, input.structToProto protobuf testStepId = .ok proto ∧
      OutputVariant.protoToStruct protobuf proto = .ok output ∧
      input.Carries protobuf testStepId output := by
  cases input with
  | testRunStart start dutInfo => exact TestRunStart.roundTrip undoes start dutInfo testStepId valid
  | preStartLog log =>
      refine ⟨_, _, rfl, ?_, rfl⟩
      simp [OutputVariant.protoToStruct, TestRunArtifact.protoToStruct,
        Log.protoToStruct_structToProto]
  | preStartError error => exact ⟨_, _, rfl, rfl, rfl⟩
  | measurement measurement =>
      obtain ⟨proto, json, encoded, same, decoded⟩ :=
        Measurement.roundTrip undoes measurement accepted (valid _ (by simp [jsonFields]))
      refine ⟨.testStepArtifact ⟨.measurement proto, testStepId⟩, _, ?_, ?_, json, same, rfl⟩
      · simp only [structToProto, encoded, Outcome.ok_bind, Outcome.pure_eq_ok]
      · simp only [OutputVariant.protoToStruct, TestStepArtifact.protoToStruct,
          TestStepVariant.protoToStruct, decoded, Outcome.ok_bind, Outcome.pure_eq_ok]
  | measurementSeriesStart start seriesId =>
      obtain ⟨proto, json, encoded, same, decoded⟩ := MeasurementSeriesStart.roundTrip undoes start
        seriesId accepted (valid _ (by simp [jsonFields]))
      refine ⟨_, _, by
          simp only [structToProto, encoded, Outcome.ok_bind, Outcome.pure_eq_ok]
          rfl, ?_, json, same, rfl⟩
      simp only [OutputVariant.protoToStruct, TestStepArtifact.protoToStruct,
        TestStepVariant.protoToStruct, decoded, Outcome.ok_bind, Outcome.pure_eq_ok]
  | measurementSeriesElement element index seriesId =>
      obtain ⟨time, timed, inRange⟩ := accepted
      obtain ⟨proto, json, encoded, same, decoded⟩ := MeasurementSeriesElement.roundTrip undoes
        exact element index seriesId time timed inRange (valid _ (by simp [jsonFields]))
      refine ⟨_, _, by
          simp only [structToProto, encoded, Outcome.ok_bind, Outcome.pure_eq_ok]
          rfl, ?_, json, time, same, timed, rfl⟩
      simp only [OutputVariant.protoToStruct, TestStepArtifact.protoToStruct,
        TestStepVariant.protoToStruct, decoded, Outcome.ok_bind, Outcome.pure_eq_ok]
  | diagnosis diagnosis =>
      refine ⟨_, _, rfl, ?_, rfl⟩
      simp only [OutputVariant.protoToStruct, TestStepArtifact.protoToStruct,
        TestStepVariant.protoToStruct, DiagnosisOutput.protoToStruct, Diagnosis.structToProto,
        DiagnosisType.ofProto_toProto, subcomponent_roundTrip, hardwareInfoIdOf_eq,
        Outcome.ok_bind, Outcome.pure_eq_ok]
  | error error => exact ⟨_, _, rfl, rfl, rfl⟩
  | file file => exact ⟨_, _, rfl, rfl, rfl⟩
  | log log =>
      refine ⟨_, _, rfl, ?_, rfl⟩
      simp [OutputVariant.protoToStruct, TestStepArtifact.protoToStruct,
        TestStepVariant.protoToStruct, Log.protoToStruct_structToProto]
  | extension extension =>
      obtain ⟨content, json, encoded, decoded, same⟩ :=
        json_roundTrip undoes extension.contentJson (valid _ (by simp [jsonFields]))
      refine ⟨_, _, by
          simp only [structToProto, Extension.structToProto, encoded, Outcome.ok_bind,
        Outcome.pure_eq_ok]
          rfl, ?_, json, same, rfl⟩
      simp only [OutputVariant.protoToStruct, TestStepArtifact.protoToStruct,
        TestStepVariant.protoToStruct, ExtensionOutput.protoToStruct, decoded, Outcome.ok_bind,
        Outcome.pure_eq_ok]

end RoundTrip

/-- Writing any accepted input and reading its OutputArtifact back never dies, and gives an
output that agrees with the input in every field. -/
theorem output_roundTrip (protobuf : Protobuf) (undoes : ParseUndoesPrint protobuf)
    (exact : TimeConversionExact protobuf) (input : ResultInput) (testStepId : String)
    (sequenceNumber : Int) (timestamp : Pb.Timestamp) (accepted : input.Accepted)
    (valid : ∀ text ∈ input.jsonFields, JsonField protobuf text) :
    ∃ proto output, input.structToProto protobuf testStepId = .ok proto ∧
      OutputArtifact.protoToStruct protobuf ⟨proto, sequenceNumber, timestamp⟩ = .ok output ∧
      input.Carries protobuf testStepId output.artifact ∧
      output.sequenceNumber = sequenceNumber := by
  obtain ⟨proto, output, encoded, decoded, carries⟩ :=
    input.roundTrip undoes exact testStepId accepted valid
  refine ⟨proto, ⟨output, sequenceNumber, protobuf.timestampToTimeval timestamp⟩, encoded, ?_,
    carries, rfl⟩
  simp only [OutputArtifact.protoToStruct, decoded, Outcome.ok_bind, Outcome.pure_eq_ok]

theorem sampleProtobuf_undoes : ParseUndoesPrint sampleProtobuf := by
  rintro value (rfl | ⟨text, parsed⟩)
  · exact ⟨"\x7b\x7d", rfl, rfl⟩
  · simp only [sampleProtobuf] at parsed
    split at parsed
    · obtain rfl := Except.ok.inj parsed
      exact ⟨"\x7b\x7d", rfl, rfl⟩
    · split at parsed
      · obtain rfl := Except.ok.inj parsed
        exact ⟨"\x7b\"k\":true\x7d", rfl, rfl⟩
      · cases parsed

theorem sampleProtobuf_exact : TimeConversionExact sampleProtobuf := by
  rintro ⟨seconds, micros⟩ inRange
  simp [sampleProtobuf]

/-- A measurement with a scalar and a list validator, on a registered hardware info. -/
def sampleMeasurement : Measurement where
  name := "fan"
  hardwareInfo := some ⟨"0"⟩
  subcomponent := some { name := "rotor", type := .asic }
  validators := [⟨.equal, [.string "on"], ""⟩,
    ⟨.inSet, [.string "on", .string "off"], "known"⟩]
  value := .string "on"
  metadataJson := "\x7b\"k\":true\x7d"

theorem output_roundTrip_sampleMeasurement :
    ∃ proto output,
      (ResultInput.measurement sampleMeasurement).structToProto sampleProtobuf "0" = .ok proto ∧
      OutputArtifact.protoToStruct sampleProtobuf ⟨proto, 4, ⟨7, 0⟩⟩ = .ok output ∧
      (ResultInput.measurement sampleMeasurement).Carries sampleProtobuf "0" output.artifact ∧
      output.sequenceNumber = 4 :=
  output_roundTrip sampleProtobuf sampleProtobuf_undoes sampleProtobuf_exact
    (.measurement sampleMeasurement) "0" 4 ⟨7, 0⟩
    (by simp only [ResultInput.Accepted]; decide)
    (by
      intro text member
      obtain rfl := List.mem_singleton.mp member
      exact Or.inr ⟨_, rfl⟩)

end OcpDiag.Results
