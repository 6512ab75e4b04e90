import Mathlib.Data.List.Infix
import OcpDiag.Lib.JsonValue
import OcpDiag.HwInterface.HostAdapter
import OcpDiag.HwInterface.HwInfo
import OcpDiag.HwInterface.Utils

set_option autoImplicit false

/- The host backend's `GetStorageInfo`, which reads what smartctl prints as JSON. -/
namespace OcpDiag.HwInterface.Storage

open JsonValue

inductive InfoType where
  | default
  | identifier
  | systemInfo
  | deviceType
  | securityInfo
  | ataInfo
  | deviceStatus
  deriving DecidableEq, Repr

/-- Those that the host backend gives. -/
inductive DeviceType where
  | unknown
  | hdd
  | ssd
  | nvmeSsd
  deriving DecidableEq, Repr

structure SystemInfo where
  kernelName : String := ""
  deriving DecidableEq, Repr

inductive SecurityLevel where
  | unknown
  | sec0
  | sec1
  | sec2
  | sec3
  | sec4
  | sec5
  | sec6
  deriving DecidableEq, Repr

inductive SecurityMode where
  | unknown
  | ata
  | tcg
  | unsupported
  deriving DecidableEq, Repr

structure SecurityInfo where
  level : SecurityLevel := .unknown
  mode : SecurityMode := .unknown
  deriving DecidableEq, Repr

/-- Those that the host backend gives. -/
inductive Capability where
  | smart
  | gpl
  | sct
  | sctErc
  | sctFeat
  | sctTab
  deriving DecidableEq, Repr

structure AtaInfo where
  numSectors : Nat := 0
  logicalSectorSize : Int := 0
  physicalSectorSize : Int := 0
  rpm : Int := 0
  enabledCapabilities : List Capability := []
  supportedCapabilities : List Capability := []
  deriving DecidableEq, Repr

structure Info where
  id : Option Identifier := none
  systemInfo : Option SystemInfo := none
  deviceType : DeviceType := .unknown
  securityInfo : Option SecurityInfo := none
  ataInfo : Option AtaInfo := none
  deriving DecidableEq, Repr

structure GetStorageInfoRequest where
  infoTypes : List InfoType := []
  deriving DecidableEq, Repr

structure GetStorageInfoResponse where
  info : List Info := []
  deriving DecidableEq, Repr

/-- The map from the keywords of smartctl. -/
def securityLevelMap : List (String × SecurityLevel) :=
  [("SEC0", .sec0), ("SEC1", .sec1), ("SEC2", .sec2), ("SEC3", .sec3), ("SEC4", .sec4),
    ("SEC5", .sec5), ("SEC6", .sec6)]

/-- What is around the backend: its host adapter, the JSON parser, and the order in which a loop
goes through the levels, which a hash map leaves open. A command is told from an equal one by the
number of devices before it. -/
structure Host where
  runCommand : Nat → String → List String → StatusOr CommandResult
  parse : String → Option Value
  levels : List (String × SecurityLevel)
  allLevels : levels.Perm securityLevelMap

/-- A status goes to the caller; what a JSON access throws does not stop there. -/
abbrev Query (α : Type) : Type := Access Status α

def parseJson (host : Host) (jsonStr : String) : StatusOr Value :=
  match host.parse jsonStr with
  | none => .error ⟨.internal, "Unable to parse text to json. Result from smartctl is not in " ++
      "json format. Result: " ++ jsonStr⟩
  | some scanResult => .ok scanResult

/-- Exit code 64 tells of old failures in the log of a disk. -/
def runCommand (host : Host) (before : Nat) (args : List String) : StatusOr String := do
  let cmdResult ← host.runCommand before "10s" args
  if cmdResult.exitCode = 64 then return cmdResult.stdout
  else if cmdResult.exitCode ≠ 0 then
    .error ⟨.internal, "Command \"" ++ String.intercalate " " args ++ "\" failed. Exit code: " ++
      toString cmdResult.exitCode ++ ". Stderr: " ++ cmdResult.stderr ++ ". Stdout: " ++
      cmdResult.stdout⟩
  else return cmdResult.stdout

def scanArgs : List String := ["/usr/sbin/smartctl", "--json", "--scan"]

def allArgs (name : String) : List String := ["/usr/sbin/smartctl", "--json", "--all", name]

def securityArgs (name : String) : List String :=
  ["/usr/sbin/smartctl", "--json", "-g", "security", name]

def getDeviceType (deviceResult : Value) : Query DeviceType :=
  if deviceResult.contains "sata_version" then do
    let rotationRate ← deviceResult.index "rotation_rate"
    let rate ← rotationRate.toInt32
    return if rate = 0 then .ssd else .hdd
  else if deviceResult.contains "nvme_version" then return .nvmeSsd
  else return .unknown

def capabilityMapping (smartctlCapKey : String) : Option Capability :=
  [("gp_logging", Capability.gpl), ("error_recovery_control", .sctErc),
    ("feature_control", .sctFeat), ("data_table", .sctTab)].lookup smartctlCapKey

/-- The key without its last characters. -/
def capKey (smartctlCapKey suffix : String) : String :=
  String.ofList (smartctlCapKey.toList.take (smartctlCapKey.length - suffix.length))

def mapAndSetCap (smartctlCapKey : String) (capStatus : Bool) (ataInfo : AtaInfo) : AtaInfo :=
  if "_enabled".toList.isSuffixOf smartctlCapKey.toList then
    match capabilityMapping (capKey smartctlCapKey "_enabled") with
    | none => ataInfo
    | some cap =>
        if capStatus then
          { ataInfo with
            enabledCapabilities := ataInfo.enabledCapabilities ++ [cap]
            supportedCapabilities := ataInfo.supportedCapabilities ++ [cap] }
        else ataInfo
  else if "_supported".toList.isSuffixOf smartctlCapKey.toList then
    match capabilityMapping (capKey smartctlCapKey "_supported") with
    | none => ataInfo
    | some cap =>
        if capStatus then
          { ataInfo with supportedCapabilities := ataInfo.supportedCapabilities ++ [cap] }
        else ataInfo
  else ataInfo

/-- The loops over capabilities, which leave out what is no boolean. -/
def setCaps (items : List (String × Value)) (ataInfo : AtaInfo) : AtaInfo :=
  items.foldl (fun ataInfo item =>
    match item.2 with
    | .boolean capStatus => mapAndSetCap item.1 capStatus ataInfo
    | _ => ataInfo) ataInfo

/-- The support of SMART itself. -/
def setSmart (available enabled : Bool) (ataInfo : AtaInfo) : AtaInfo :=
  { ataInfo with
    supportedCapabilities := ataInfo.supportedCapabilities ++ if available then [.smart] else []
    enabledCapabilities := ataInfo.enabledCapabilities ++ if enabled then [.smart] else [] }

def setSctCaps (deviceResult : Value) (ataInfo : AtaInfo) : AtaInfo :=
  match deviceResult.member "ata_sct_capabilities" with
  | none => ataInfo
  | some capabilities => setCaps capabilities.items
      { ataInfo with supportedCapabilities := ataInfo.supportedCapabilities ++ [.sct] }

/-- The document is const here. -/
def setAtaInfo (deviceResult : Value) (ataInfo : AtaInfo) : Query AtaInfo := do
  let userCapacity ← deviceResult.constIndex "user_capacity"
  let blocks ← userCapacity.constIndex "blocks"
  let numSectors ← blocks.toUint64
  let logicalBlockSize ← deviceResult.constIndex "logical_block_size"
  let logicalSectorSize ← logicalBlockSize.toInt32
  let physicalBlockSize ← deviceResult.constIndex "physical_block_size"
  let physicalSectorSize ← physicalBlockSize.toInt32
  let rotationRate ← deviceResult.constIndex "rotation_rate"
  let rpm ← rotationRate.toInt32
  let smartSupport ← deviceResult.constIndex "smart_support"
  let available ← (← smartSupport.constIndex "available").toBool
  let smartSupport ← deviceResult.constIndex "smart_support"
  let enabled ← (← smartSupport.constIndex "enabled").toBool
  let ataSmartData ← deviceResult.constIndex "ata_smart_data"
  let capabilities ← ataSmartData.constIndex "capabilities"
  let sized := { ataInfo with numSectors, logicalSectorSize, physicalSectorSize, rpm }
  return setSctCaps deviceResult (setCaps capabilities.items (setSmart available enabled sized))

/-- The loop over the levels, which reads the text anew for each of them. -/
def setLevel (securityJson : Value) (securityInfo : SecurityInfo) :
    List (String × SecurityLevel) → Query SecurityInfo
  | [] => return securityInfo
  | (secKeyword, securityLevel) :: levels => do
      let ataSecurity ← securityJson.index "ata_security"
      let text ← (← ataSecurity.index "string").toText
      if secKeyword.toList <:+: text.toList then return { securityInfo with level := securityLevel }
      else setLevel securityJson securityInfo levels

/-- A comparison with `true` never throws. -/
def isTrue : Value → Bool
  | .boolean value => value
  | _ => false

/-- The document after the parse, which is not const. -/
def setSecurity (host : Host) (securityJson : Value) (securityInfo : SecurityInfo) :
    Query SecurityInfo :=
  if securityJson.contains "ata_security" then do
    let ataSecurity ← securityJson.index "ata_security"
    let enabled ← ataSecurity.index "enabled"
    if isTrue enabled then setLevel securityJson { securityInfo with mode := .ata } host.levels
    else return securityInfo
  else return securityInfo

def setSecurityInfo (host : Host) (before : Nat) (deviceName : String)
    (securityInfo : SecurityInfo) : Query SecurityInfo := do
  let stdout ← .ofExcept (runCommand host before (securityArgs deviceName))
  let securityJson ← .ofExcept (parseJson host stdout)
  setSecurity host securityJson securityInfo

def systemInfoOf (infoTypes : List InfoType) (device : Value) : Query (Option SystemInfo) :=
  if infoTypeHave infoTypes .systemInfo then do
    let kernelName ← (← device.constIndex "name").toText
    return some { kernelName }
  else return none

/-- The types that are read from all that smartctl knows of the device. -/
def needsResult (infoTypes : List InfoType) : Bool :=
  infoTypeHave infoTypes .identifier || infoTypeHave infoTypes .deviceType ||
    infoTypeHave infoTypes .ataInfo

def deviceResultOf (host : Host) (infoTypes : List InfoType) (before : Nat) (device : Value) :
    Query Value :=
  if needsResult infoTypes then do
    let name ← (← device.constIndex "name").toText
    let stdout ← .ofExcept (runCommand host before (allArgs name))
    .ofExcept (parseJson host stdout)
  else return .null

/-- The name is set from the serial number first, and then from the model and the serial number. -/
def identifierOf (infoTypes : List InfoType) (device deviceResult : Value) :
    Query (Option Identifier) :=
  if infoTypeHave infoTypes .identifier then do
    let _ ← (← deviceResult.index "serial_number").toText
    let modelName ← (← deviceResult.index "model_name").toText
    let serialNumber ← (← deviceResult.index "serial_number").toText
    let type ← (← device.constIndex "type").toText
    return some (populateId { name := modelName ++ "#" ++ serialNumber, type } none)
  else return none

def deviceTypeOf (infoTypes : List InfoType) (deviceResult : Value) : Query DeviceType :=
  if infoTypeHave infoTypes .deviceType then getDeviceType deviceResult else return .unknown

def ataInfoOf (infoTypes : List InfoType) (device deviceResult : Value) : Query (Option AtaInfo) :=
  if infoTypeHave infoTypes .ataInfo then do
    let _ ← (← device.constIndex "name").toText
    let ataInfo ← setAtaInfo deviceResult {}
    return some ataInfo
  else return none

def securityInfoOf (host : Host) (infoTypes : List InfoType) (before : Nat) (device : Value) :
    Query (Option SecurityInfo) :=
  if infoTypeHave infoTypes .securityInfo then do
    let name ← (← device.constIndex "name").toText
    let securityInfo ← setSecurityInfo host before name {}
    return some securityInfo
  else return none

def deviceInfo (host : Host) (infoTypes : List InfoType) (before : Nat) (device : Value) :
    Query Info := do
  let systemInfo ← systemInfoOf infoTypes device
  let deviceResult ← deviceResultOf host infoTypes before device
  let id ← identifierOf infoTypes device deviceResult
  let deviceType ← deviceTypeOf infoTypes deviceResult
  let ataInfo ← ataInfoOf infoTypes device deviceResult
  let securityInfo ← securityInfoOf host infoTypes before device
  return { id, systemInfo, deviceType, securityInfo, ataInfo }

def deviceInfos (host : Host) (infoTypes : List InfoType) : Nat → List Value → Query (List Info)
  | _, [] => return []
  | before, device :: devices => do
      let info ← deviceInfo host infoTypes before device
      let infos ← deviceInfos host infoTypes (before + 1) devices
      return info :: infos

/-- HostBackend::GetStorageInfo. -/
def getStorageInfo (host : Host) (req : GetStorageInfoRequest) : Query GetStorageInfoResponse := do
  let scanCmdStdout ← .ofExcept (runCommand host 0 scanArgs)
  let scanResult ← .ofExcept (parseJson host scanCmdStdout)
  let devices ← scanResult.index "devices"
  let info ← deviceInfos host req.infoTypes 0 devices.elements
  return { info }

end OcpDiag.HwInterface.Storage
