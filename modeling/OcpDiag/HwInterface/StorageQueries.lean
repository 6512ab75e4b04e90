import OcpDiag.HwInterface.StorageInfo

set_option autoImplicit false

/- Which documents of smartctl a storage query can read to its end. -/
namespace OcpDiag.HwInterface.Storage

open JsonValue

/-- The document that a command prints. -/
def printed (host : Host) (before : Nat) (args : List String) : StatusOr Value := do
  parseJson host (← runCommand host before args)

/-- Every command exits with 0 or 64 and prints a JSON object. -/
def PrintsObjects (host : Host) : Prop :=
  ∀ before timeout args, ∃ result members, host.runCommand before timeout args = .ok result ∧
    (result.exitCode = 0 ∨ result.exitCode = 64) ∧
    host.parse result.stdout = some (.object members)

def deviceTypeReadable (deviceResult : Value) : Bool :=
  !deviceResult.contains "sata_version" || deviceResult.has "rotation_rate" Value.isInt32

def identifierReadable (device deviceResult : Value) : Bool :=
  deviceResult.has "serial_number" Value.isText && deviceResult.has "model_name" Value.isText &&
    device.has "type" Value.isText

def ataReadable (deviceResult : Value) : Bool :=
  deviceResult.has "user_capacity" (·.has "blocks" Value.isUint64) &&
    deviceResult.has "logical_block_size" Value.isInt32 &&
    deviceResult.has "physical_block_size" Value.isInt32 &&
    deviceResult.has "rotation_rate" Value.isInt32 &&
    deviceResult.has "smart_support" (·.has "available" Value.isBoolean) &&
    deviceResult.has "smart_support" (·.has "enabled" Value.isBoolean) &&
    deviceResult.has "ata_smart_data" (·.contains "capabilities")

/-- The level of a drive whose security is enabled. -/
def levelReadable (securityJson : Value) : Bool :=
  securityJson.has "ata_security" (·.has "string" Value.isText)

def securityReadable (securityJson : Value) : Bool :=
  !securityJson.contains "ata_security" ||
    securityJson.has "ata_security" Value.isNullOrObject &&
      (!securityJson.has "ata_security" (·.has "enabled" isTrue) || levelReadable securityJson)

/-- What the wanted types need of all that smartctl knows of a device. -/
structure ResultReadable (infoTypes : List InfoType) (device deviceResult : Value) : Prop where
  identifier : infoTypeHave infoTypes .identifier = true →
    identifierReadable device deviceResult = true
  deviceType : infoTypeHave infoTypes .deviceType = true → deviceTypeReadable deviceResult = true
  ataInfo : infoTypeHave infoTypes .ataInfo = true → ataReadable deviceResult = true

/-- The device has a name, and the document that a command prints for the name passes the test. -/
def NamedPrints (host : Host) (before : Nat) (device : Value) (args : String → List String)
    (test : Value → Prop) : Prop :=
  ∃ name, device.member "name" = some (.string name) ∧
    ∀ document, printed host before (args name) = .ok document → test document

structure DeviceReadable (host : Host) (infoTypes : List InfoType) (before : Nat)
    (device : Value) : Prop where
  systemInfo : infoTypeHave infoTypes .systemInfo = true → device.has "name" Value.isText = true
  deviceResult : needsResult infoTypes = true →
    NamedPrints host before device allArgs (ResultReadable infoTypes device)
  securityInfo : infoTypeHave infoTypes .securityInfo = true →
    NamedPrints host before device securityArgs (securityReadable · = true)

/-- Every device of the scan has the members that the wanted types need. -/
def Readable (host : Host) (req : GetStorageInfoRequest) : Prop :=
  ∀ scanResult, printed host 0 scanArgs = .ok scanResult →
    ∀ item ∈ ((scanResult.member "devices").getD .null).elements.zipIdx,
      DeviceReadable host req.infoTypes item.2 item.1

theorem printed_object (host : Host) (prints : PrintsObjects host) (before : Nat)
    (args : List String) : ∃ members, printed host before args = .ok (.object members) := by
  obtain ⟨result, members, ran, exits, parsed⟩ := prints before "10s" args
  have stdout : runCommand host before args = .ok result.stdout := by
    unfold runCommand
    rw [ran]
    rcases exits with exits | exits
    · simp [bind, Except.bind, exits, pure, Except.pure]
    · simp [bind, Except.bind, exits, pure, Except.pure]
  refine ⟨members, ?_⟩
  unfold printed parseJson
  rw [stdout]
  simp only [bind, Except.bind, parsed]

section Blocks

variable {host : Host} {infoTypes : List InfoType} {before : Nat} {device deviceResult : Value}
variable {β : Type} {rest : Prop}

theorem command_answered_iff (prints : PrintsObjects host) (args : List String)
    (next : Value → Query β) :
    ((Access.ofExcept (runCommand host before args) : Query String) >>= fun stdout =>
        Access.ofExcept (parseJson host stdout) >>= next).Answered ↔
      ∀ document, printed host before args = .ok document → (next document).Answered := by
  obtain ⟨members, same⟩ := printed_object host prints before args
  have split := same
  unfold printed at split
  cases ran : runCommand host before args with
  | error status =>
      rw [ran] at split
      cases split
  | ok stdout =>
      rw [ran] at split
      have parsed : parseJson host stdout = .ok (.object members) := split
      simp only [Access.ofExcept, Access.value_bind, parsed, same, Except.ok.injEq]
      exact ⟨fun answered document same => same ▸ answered, fun answered => answered _ rfl⟩

/-- A name is read before each command about a device. -/
theorem named_answered_iff (prints : PrintsObjects host) (args : String → List String)
    (next : Value → Query β) :
    ((device.constIndex "name" : Query Value) >>= fun name => name.toText >>= fun name =>
        (Access.ofExcept (runCommand host before (args name)) : Query String) >>= fun stdout =>
          Access.ofExcept (parseJson host stdout) >>= next).Answered ↔
      NamedPrints host before device args (fun document => (next document).Answered) := by
  simp only [Value.constIndex_answered_iff, Value.toText_answered_iff,
    command_answered_iff prints, NamedPrints]
  constructor
  · rintro ⟨_, found, name, rfl, answered⟩
    exact ⟨name, found, answered⟩
  · rintro ⟨name, found, answered⟩
    exact ⟨_, found, name, rfl, answered⟩

/-- There is a document, so what follows it does not depend on whether there is one. -/
theorem namedPrints_and_iff (prints : PrintsObjects host) (args : String → List String)
    (test : Value → Prop) :
    NamedPrints host before device args (fun document => test document ∧ rest) ↔
      NamedPrints host before device args test ∧ rest := by
  constructor
  · rintro ⟨name, found, all⟩
    obtain ⟨members, same⟩ := printed_object host prints before (args name)
    exact ⟨⟨name, found, fun document other => (all document other).1⟩, (all _ same).2⟩
  · rintro ⟨⟨name, found, all⟩, following⟩
    exact ⟨name, found, fun document other => ⟨all document other, following⟩⟩

/-- A block is left out where its type is not wanted. -/
theorem wanted_answered_iff {α : Type} {wanted : Bool} {block : Query α} {absent : α}
    {next : α → Query β} {readable : Prop}
    (present : (block >>= next).Answered ↔ readable ∧ rest)
    (same : (next absent).Answered ↔ rest) :
    ((if wanted then block else return absent) >>= next).Answered ↔
      (wanted = true → readable) ∧ rest := by
  cases wanted with
  | true => simpa using present
  | false => simpa using same

theorem systemInfoOf_answered_iff {next : Option SystemInfo → Query β}
    (same : ∀ systemInfo, (next systemInfo).Answered ↔ rest) :
    (systemInfoOf infoTypes device >>= next).Answered ↔
      (infoTypeHave infoTypes .systemInfo = true → device.has "name" Value.isText = true) ∧
        rest := by
  refine wanted_answered_iff ?_ (same _)
  simp only [bind_assoc, pure_bind]
  exact Value.constIndex_has_iff fun name => Value.toText_iff fun kernelName => same _

theorem identifierOf_answered_iff {next : Option Identifier → Query β}
    (same : ∀ id, (next id).Answered ↔ rest) :
    (identifierOf infoTypes device deviceResult >>= next).Answered ↔
      (infoTypeHave infoTypes .identifier = true →
        identifierReadable device deviceResult = true) ∧ rest := by
  refine wanted_answered_iff ?_ (same _)
  simp only [bind_assoc, pure_bind]
  have read : _ ↔ deviceResult.has "serial_number" Value.isText = true ∧
      deviceResult.has "model_name" Value.isText = true ∧
      deviceResult.has "serial_number" Value.isText = true ∧
      device.has "type" Value.isText = true ∧ rest :=
    Value.index_has_iff rfl fun _ => Value.toText_iff fun _ =>
      Value.index_has_iff rfl fun _ => Value.toText_iff fun modelName =>
      Value.index_has_iff rfl fun _ => Value.toText_iff fun serialNumber =>
      Value.constIndex_has_iff fun _ => Value.toText_iff fun type =>
        same (some (populateId { name := modelName ++ "#" ++ serialNumber, type } none))
  refine read.trans ?_
  simp only [identifierReadable, Bool.and_eq_true]
  tauto

theorem getDeviceType_answered_iff {next : DeviceType → Query β}
    (same : ∀ deviceType, (next deviceType).Answered ↔ rest) :
    (getDeviceType deviceResult >>= next).Answered ↔
      deviceTypeReadable deviceResult = true ∧ rest := by
  unfold getDeviceType deviceTypeReadable
  cases sata : deviceResult.contains "sata_version" with
  | true =>
      simp only [if_true, bind_assoc, pure_bind, Bool.not_true, Bool.false_or]
      exact Value.index_has_iff rfl fun _ => Value.toInt32_iff fun rate => same _
  | false =>
      simp only [Bool.false_eq_true, if_false, Bool.not_false, Bool.true_or, true_and]
      split
      · exact same _
      · exact same _

theorem deviceTypeOf_answered_iff {next : DeviceType → Query β}
    (same : ∀ deviceType, (next deviceType).Answered ↔ rest) :
    (deviceTypeOf infoTypes deviceResult >>= next).Answered ↔
      (infoTypeHave infoTypes .deviceType = true → deviceTypeReadable deviceResult = true) ∧
        rest :=
  wanted_answered_iff (getDeviceType_answered_iff same) (same _)

theorem setAtaInfo_answered_iff {ataInfo : AtaInfo} {next : AtaInfo → Query β}
    (same : ∀ ataInfo, (next ataInfo).Answered ↔ rest) :
    (setAtaInfo deviceResult ataInfo >>= next).Answered ↔
      ataReadable deviceResult = true ∧ rest := by
  simp only [setAtaInfo, bind_assoc, pure_bind, ataReadable, Bool.and_eq_true, and_assoc]
  refine Value.constIndex_has_iff fun userCapacity => ?_
  refine Value.constIndex_has_iff fun blocks => Value.toUint64_iff fun numSectors => ?_
  refine Value.constIndex_has_iff fun _ => Value.toInt32_iff fun logicalSectorSize => ?_
  refine Value.constIndex_has_iff fun _ => Value.toInt32_iff fun physicalSectorSize => ?_
  refine Value.constIndex_has_iff fun _ => Value.toInt32_iff fun rpm => ?_
  refine Value.constIndex_has_iff fun smartSupport => ?_
  refine Value.constIndex_has_iff fun _ => Value.toBool_iff fun available => ?_
  refine Value.constIndex_has_iff fun smartSupport => ?_
  refine Value.constIndex_has_iff fun _ => Value.toBool_iff fun enabled => ?_
  refine Value.constIndex_has_iff fun ataSmartData => ?_
  exact Value.constIndex_contains_iff fun capabilities => same _

theorem ataInfoOf_answered_iff {next : Option AtaInfo → Query β}
    (same : ∀ ataInfo, (next ataInfo).Answered ↔ rest) :
    (ataInfoOf infoTypes device deviceResult >>= next).Answered ↔
      (infoTypeHave infoTypes .ataInfo = true →
        device.has "name" Value.isText = true ∧ ataReadable deviceResult = true) ∧ rest := by
  refine wanted_answered_iff ?_ (same _)
  simp only [bind_assoc, pure_bind, and_assoc]
  exact Value.constIndex_has_iff fun name => Value.toText_iff fun _ =>
    setAtaInfo_answered_iff fun ataInfo => same _

/-- The text is read at the first level already. -/
theorem levelReadable_of_answered {securityJson : Value} {securityInfo : SecurityInfo}
    {levels : List (String × SecurityLevel)} {next : SecurityInfo → Query β}
    (nonempty : levels ≠ [])
    (answered : (setLevel securityJson securityInfo levels >>= next).Answered) :
    levelReadable securityJson = true := by
  cases levels with
  | nil => exact absurd rfl nonempty
  | cons level levels =>
      simp only [setLevel, bind_assoc] at answered
      refine Value.index_has_of_answered answered rfl fun ataSecurity read => ?_
      refine Value.index_has_of_answered read rfl fun text read => ?_
      obtain ⟨text, rfl, -⟩ := (Value.toText_answered_iff _ _).mp read
      rfl

theorem setLevel_answered_of_readable {securityJson : Value} {securityInfo : SecurityInfo}
    {levels : List (String × SecurityLevel)} {next : SecurityInfo → Query β}
    (readable : levelReadable securityJson = true)
    (same : ∀ securityInfo, (next securityInfo).Answered ↔ rest) :
    (setLevel securityJson securityInfo levels >>= next).Answered ↔ rest := by
  induction levels with
  | nil => exact same _
  | cons level levels ih =>
      have read : (setLevel securityJson securityInfo (level :: levels) >>= next).Answered ↔
          levelReadable securityJson = true ∧ rest := by
        simp only [setLevel, bind_assoc]
        refine Value.index_has_iff rfl fun ataSecurity => ?_
        refine Value.index_has_iff rfl fun _ => Value.toText_iff fun text => ?_
        split
        · exact same _
        · exact ih
      rw [read, and_iff_right readable]

theorem setLevel_answered_iff {securityJson : Value} {securityInfo : SecurityInfo}
    {next : SecurityInfo → Query β} (same : ∀ securityInfo, (next securityInfo).Answered ↔ rest) :
    (setLevel securityJson securityInfo host.levels >>= next).Answered ↔
      levelReadable securityJson = true ∧ rest := by
  have nonempty : host.levels ≠ [] := by
    intro nothing
    have lengths := host.allLevels.length_eq
    rw [nothing] at lengths
    cases lengths
  constructor
  · intro answered
    have readable := levelReadable_of_answered nonempty answered
    exact ⟨readable, (setLevel_answered_of_readable readable same).mp answered⟩
  · rintro ⟨readable, following⟩
    exact (setLevel_answered_of_readable readable same).mpr following

/-- A missing member reads as null, which is not true. -/
theorem isTrue_member (ataSecurity : Value) :
    isTrue ((ataSecurity.member "enabled").getD .null) = ataSecurity.has "enabled" isTrue := by
  cases found : ataSecurity.member "enabled" <;> simp [Value.has, found, isTrue]

theorem setSecurity_answered_iff {securityJson : Value} {securityInfo : SecurityInfo}
    {next : SecurityInfo → Query β} (same : ∀ securityInfo, (next securityInfo).Answered ↔ rest) :
    (setSecurity host securityJson securityInfo >>= next).Answered ↔
      securityReadable securityJson = true ∧ rest := by
  unfold setSecurity securityReadable
  cases found : securityJson.member "ata_security" with
  | none =>
      have absent : securityJson.contains "ata_security" = false := by
        simp [Value.contains, found]
      simpa [absent] using same securityInfo
  | some ataSecurity =>
      have present : securityJson.contains "ata_security" = true := by
        simp [Value.contains, found]
      simp only [present, if_true, bind_assoc, Value.index_answered_iff, found, Option.getD_some,
        Value.isNullOrObject_of_member found, true_and, Value.has_eq found, isTrue_member,
        Bool.not_true, Bool.false_or, Bool.and_eq_true, and_assoc]
      refine and_congr_right fun _ => ?_
      cases ataSecurity.has "enabled" isTrue with
      | true => simpa using setLevel_answered_iff same
      | false => simpa using same securityInfo

theorem securityInfoOf_answered_iff (prints : PrintsObjects host)
    {next : Option SecurityInfo → Query β}
    (same : ∀ securityInfo, (next securityInfo).Answered ↔ rest) :
    (securityInfoOf host infoTypes before device >>= next).Answered ↔
      (infoTypeHave infoTypes .securityInfo = true →
        NamedPrints host before device securityArgs (securityReadable · = true)) ∧ rest := by
  refine wanted_answered_iff ?_ (same _)
  simp only [setSecurityInfo, bind_assoc, pure_bind, named_answered_iff prints securityArgs]
  rw [← namedPrints_and_iff prints]
  simp only [setSecurity_answered_iff fun securityInfo => same (some securityInfo)]

/-- What follows the command about all of a device, where there is one. -/
theorem deviceResultOf_answered_iff (prints : PrintsObjects host) (next : Value → Query β) :
    (deviceResultOf host infoTypes before device >>= next).Answered ↔
      if needsResult infoTypes then
        NamedPrints host before device allArgs (fun document => (next document).Answered)
      else (next .null).Answered := by
  unfold deviceResultOf
  split
  · simp only [bind_assoc]
    exact named_answered_iff prints allArgs next
  · rfl

theorem has_name {name : String} (found : device.member "name" = some (.string name)) :
    device.has "name" Value.isText = true :=
  Value.has_eq found Value.isText

theorem not_wanted (needs : needsResult infoTypes = false) :
    infoTypeHave infoTypes .identifier = false ∧ infoTypeHave infoTypes .deviceType = false ∧
      infoTypeHave infoTypes .ataInfo = false := by
  simpa [needsResult, and_assoc] using needs

/-- The blocks that read the result have no other use for the name of the device. -/
theorem resultBlocks_answered_iff (prints : PrintsObjects host)
    {last : Option Identifier → DeviceType → Option AtaInfo → Query β}
    (same : ∀ id deviceType ataInfo, (last id deviceType ataInfo).Answered ↔ rest) :
    (deviceResultOf host infoTypes before device >>= fun deviceResult =>
        identifierOf infoTypes device deviceResult >>= fun id =>
        deviceTypeOf infoTypes deviceResult >>= fun deviceType =>
        ataInfoOf infoTypes device deviceResult >>= fun ataInfo =>
          last id deviceType ataInfo).Answered ↔
      (needsResult infoTypes = true →
        NamedPrints host before device allArgs (ResultReadable infoTypes device)) ∧ rest := by
  have blocks (deviceResult : Value) :
      (identifierOf infoTypes device deviceResult >>= fun id =>
        deviceTypeOf infoTypes deviceResult >>= fun deviceType =>
        ataInfoOf infoTypes device deviceResult >>= fun ataInfo =>
          last id deviceType ataInfo).Answered ↔
        (infoTypeHave infoTypes .identifier = true →
          identifierReadable device deviceResult = true) ∧
        (infoTypeHave infoTypes .deviceType = true → deviceTypeReadable deviceResult = true) ∧
        (infoTypeHave infoTypes .ataInfo = true →
          device.has "name" Value.isText = true ∧ ataReadable deviceResult = true) ∧ rest :=
    identifierOf_answered_iff fun id => deviceTypeOf_answered_iff fun deviceType =>
      ataInfoOf_answered_iff fun ataInfo => same id deviceType ataInfo
  rw [deviceResultOf_answered_iff prints]
  simp only [blocks]
  cases needs : needsResult infoTypes with
  | true =>
      simp only [if_true, true_imp_iff]
      rw [← namedPrints_and_iff prints]
      constructor
      · rintro ⟨name, found, all⟩
        refine ⟨name, found, fun document other => ?_⟩
        obtain ⟨identifier, deviceType, ataInfo, following⟩ := all document other
        exact ⟨⟨identifier, deviceType, fun wanted => (ataInfo wanted).2⟩, following⟩
      · rintro ⟨name, found, all⟩
        refine ⟨name, found, fun document other => ?_⟩
        obtain ⟨readable, following⟩ := all document other
        exact ⟨readable.identifier, readable.deviceType,
          fun wanted => ⟨has_name found, readable.ataInfo wanted⟩, following⟩
  | false =>
      obtain ⟨identifier, deviceType, ataInfo⟩ := not_wanted needs
      simp [identifier, deviceType, ataInfo]

theorem deviceInfo_answered_iff (prints : PrintsObjects host) {next : Info → Query β}
    (same : ∀ info, (next info).Answered ↔ rest) :
    (deviceInfo host infoTypes before device >>= next).Answered ↔
      DeviceReadable host infoTypes before device ∧ rest := by
  simp only [deviceInfo, bind_assoc, pure_bind]
  refine (systemInfoOf_answered_iff fun systemInfo => resultBlocks_answered_iff prints
    fun id deviceType ataInfo => securityInfoOf_answered_iff prints
      fun securityInfo => same _).trans ?_
  constructor
  · rintro ⟨systemInfo, deviceResult, securityInfo, following⟩
    exact ⟨⟨systemInfo, deviceResult, securityInfo⟩, following⟩
  · rintro ⟨⟨systemInfo, deviceResult, securityInfo⟩, following⟩
    exact ⟨systemInfo, deviceResult, securityInfo, following⟩

theorem deviceInfos_answered_iff (prints : PrintsObjects host) (devices : List Value)
    {next : List Info → Query β} (same : ∀ infos, (next infos).Answered ↔ rest) :
    (deviceInfos host infoTypes before devices >>= next).Answered ↔
      (∀ item ∈ devices.zipIdx before, DeviceReadable host infoTypes item.2 item.1) ∧ rest := by
  induction devices generalizing before next with
  | nil => simpa [deviceInfos] using same []
  | cons device devices ih =>
      simp only [deviceInfos, bind_assoc, pure_bind, List.zipIdx_cons, List.forall_mem_cons,
        and_assoc]
      exact deviceInfo_answered_iff prints fun info => ih fun infos => same _

end Blocks

theorem getStorageInfo_answered_of_scan (host : Host) (prints : PrintsObjects host)
    (req : GetStorageInfoRequest) (members : List (String × Value))
    (scanned : printed host 0 scanArgs = .ok (.object members)) :
    (getStorageInfo host req).Answered ↔
      ∀ item ∈ (((Value.object members).member "devices").getD .null).elements.zipIdx,
        DeviceReadable host req.infoTypes item.2 item.1 := by
  have answered (infos : List Info) :
      (pure ⟨infos⟩ : Query GetStorageInfoResponse).Answered ↔ True :=
    iff_of_true (.value _) trivial
  refine (command_answered_iff prints scanArgs _).trans ?_
  simp only [scanned, Except.ok.injEq, forall_eq']
  refine (Value.index_answered_iff _ _ _).trans ((and_iff_right rfl).trans ?_)
  exact (deviceInfos_answered_iff prints _ answered).trans (and_iff_left trivial)

/-- A query comes to an answer exactly when every device has what the wanted types read. -/
theorem getStorageInfo_answered_iff (host : Host) (prints : PrintsObjects host)
    (req : GetStorageInfoRequest) : (getStorageInfo host req).Answered ↔ Readable host req := by
  obtain ⟨members, scanned⟩ := printed_object host prints 0 scanArgs
  rw [getStorageInfo_answered_of_scan host prints req members scanned]
  simp only [Readable, scanned, Except.ok.injEq, forall_eq']

def scanText : String :=
  "\x7b\"devices\":[\x7b\"name\":\"/dev/sda\",\"type\":\"scsi\"\x7d]\x7d"

def scanMembers : List (String × Value) :=
  [("devices", .array [.object [("name", .string "/dev/sda"), ("type", .string "scsi")]])]

def securityText : String :=
  "\x7b\"ata_security\":\x7b\"enabled\":true,\"string\":\"ENABLED [SEC5]\"\x7d\x7d"

def securityMembers : List (String × Value) :=
  [("ata_security", .object [("enabled", .boolean true), ("string", .string "ENABLED [SEC5]")])]

/-- A host with one drive, which prints the text for it. -/
def driveHost (allText : String) (allMembers : List (String × Value)) : Host where
  runCommand _ _ args := .ok ⟨0, if args = scanArgs then scanText
    else if "--all" ∈ args then allText else securityText, ""⟩
  parse text :=
    if text = scanText then some (.object scanMembers)
    else if text = allText then some (.object allMembers)
    else if text = securityText then some (.object securityMembers)
    else none
  levels := securityLevelMap
  allLevels := .refl _

theorem driveHost_prints (allText : String) (allMembers : List (String × Value)) :
    PrintsObjects (driveHost allText allMembers) := by
  intro before timeout args
  have parsed (text : String) (known : text = scanText ∨ text = allText ∨ text = securityText) :
      ∃ members, (driveHost allText allMembers).parse text = some (.object members) := by
    simp only [driveHost]
    split_ifs with scan all security
    · exact ⟨_, rfl⟩
    · exact ⟨_, rfl⟩
    · exact ⟨_, rfl⟩
    · tauto
  obtain ⟨members, same⟩ := parsed (if args = scanArgs then scanText
    else if "--all" ∈ args then allText else securityText) (by split_ifs <;> simp)
  exact ⟨_, members, rfl, .inl rfl, same⟩

section Drive

variable {allText : String} (allMembers : List (String × Value))

theorem driveHost_scan :
    printed (driveHost allText allMembers) 0 scanArgs = .ok (.object scanMembers) := by
  simp [printed, runCommand, parseJson, driveHost, bind, Except.bind, pure, Except.pure]

theorem driveHost_all (fresh : allText ≠ scanText) :
    printed (driveHost allText allMembers) 0 (allArgs "/dev/sda") = .ok (.object allMembers) := by
  have other : allArgs "/dev/sda" ≠ scanArgs := by decide
  have all : "--all" ∈ allArgs "/dev/sda" := by decide
  simp [printed, runCommand, parseJson, driveHost, bind, Except.bind, pure, Except.pure, fresh,
    other, all]

theorem driveHost_security (fresh : allText ≠ securityText) :
    printed (driveHost allText allMembers) 0 (securityArgs "/dev/sda") =
      .ok (.object securityMembers) := by
  have other : securityArgs "/dev/sda" ≠ scanArgs := by decide
  have all : "--all" ∉ securityArgs "/dev/sda" := by decide
  have scan : securityText ≠ scanText := by decide
  simp [printed, runCommand, parseJson, driveHost, bind, Except.bind, pure, Except.pure, fresh.symm,
    other, all, scan]

end Drive

def sataText : String :=
  "\x7b\"ata_smart_data\":\x7b\"capabilities\":\x7b\"gp_logging_supported\":true\x7d\x7d," ++
  "\"logical_block_size\":512,\"model_name\":\"M\",\"physical_block_size\":4096," ++
  "\"rotation_rate\":7200,\"sata_version\":\x7b\x7d,\"serial_number\":\"S\"," ++
  "\"smart_support\":\x7b\"available\":true,\"enabled\":true\x7d," ++
  "\"user_capacity\":\x7b\"blocks\":1953525168\x7d\x7d"

def sataMembers : List (String × Value) :=
  [("ata_smart_data", .object [("capabilities", .object [("gp_logging_supported", .boolean true)])]),
    ("logical_block_size", .unsigned 512), ("model_name", .string "M"),
    ("physical_block_size", .unsigned 4096), ("rotation_rate", .unsigned 7200),
    ("sata_version", .object []), ("serial_number", .string "S"),
    ("smart_support", .object [("available", .boolean true), ("enabled", .boolean true)]),
    ("user_capacity", .object [("blocks", .unsigned 1953525168)])]

theorem getStorageInfo_answered_iff_sata :
    (getStorageInfo (driveHost sataText sataMembers) {}).Answered := by
  have prints := driveHost_prints sataText sataMembers
  rw [getStorageInfo_answered_iff _ prints]
  intro scanResult scanned item member
  obtain rfl := Except.ok.inj ((driveHost_scan sataMembers).symm.trans scanned)
  obtain rfl := List.mem_singleton.mp member
  refine ⟨fun _ => by decide, fun _ => ⟨_, rfl, fun document same => ?_⟩,
    fun _ => ⟨_, rfl, fun document same => ?_⟩⟩
  · obtain rfl := Except.ok.inj ((driveHost_all sataMembers (by decide)).symm.trans same)
    exact ⟨fun _ => by decide, fun _ => by decide, fun _ => by decide⟩
  · obtain rfl := Except.ok.inj ((driveHost_security sataMembers (by decide)).symm.trans same)
    decide

def nvmeText : String :=
  "\x7b\"logical_block_size\":512,\"model_name\":\"N\",\"nvme_version\":\x7b\"string\":\"1.4\"\x7d," ++
  "\"serial_number\":\"S\",\"smart_support\":\x7b\"available\":true,\"enabled\":true\x7d," ++
  "\"user_capacity\":\x7b\"blocks\":1000215216\x7d\x7d"

def nvmeMembers : List (String × Value) :=
  [("logical_block_size", .unsigned 512), ("model_name", .string "N"),
    ("nvme_version", .object [("string", .string "1.4")]), ("serial_number", .string "S"),
    ("smart_support", .object [("available", .boolean true), ("enabled", .boolean true)]),
    ("user_capacity", .object [("blocks", .unsigned 1000215216)])]

/-- An NVMe drive has no physical block size to read. -/
theorem getStorageInfo_not_nvme :
    ¬ ∀ (host : Host) (req : GetStorageInfoRequest), PrintsObjects host →
      (getStorageInfo host req).Answered := by
  intro answered
  have prints := driveHost_prints nvmeText nvmeMembers
  have returned := answered _ {} prints
  rw [getStorageInfo_answered_of_scan _ prints {} _ (driveHost_scan nvmeMembers)] at returned
  have readable := returned _ List.mem_cons_self
  obtain ⟨name, found, all⟩ := readable.deviceResult rfl
  obtain rfl : "/dev/sda" = name := Value.string.inj (Option.some.inj found)
  have needed := (all _ (driveHost_all nvmeMembers (by decide))).ataInfo rfl
  exact absurd needed (by decide)

end OcpDiag.HwInterface.Storage
