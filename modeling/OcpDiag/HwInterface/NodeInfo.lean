import OcpDiag.HwInterface.StorageQueries

set_option autoImplicit false

/- The replaceable units of a node, which are its storage devices: `GetNodeInfo`. -/
namespace OcpDiag.HwInterface

open JsonValue

namespace Node

inductive InfoType where
  | default
  | taxonomy
  | frus
  | plugins
  | accelerators
  /-- A number without a name, which proto3 keeps. -/
  | unrecognized (number : Int)
  deriving DecidableEq, Repr

structure Fru where
  identifier : Identifier
  deriving DecidableEq, Repr

structure Info where
  frus : List Fru := []
  deriving DecidableEq, Repr

end Node

structure GetNodeInfoRequest where
  infoTypes : List Node.InfoType := []
  deriving DecidableEq, Repr

structure GetNodeInfoResponse where
  info : Option Node.Info := none
  deriving DecidableEq, Repr

/-- `mutable_info()->add_frus()`. -/
def addFru (resp : GetNodeInfoResponse) (storageInfo : Storage.Info) : GetNodeInfoResponse :=
  let info := resp.info.getD {}
  { resp with
    info := some { info with frus := info.frus ++ [⟨storageInfo.id.getD {}⟩] } }

/-- HostBackend::GetNodeInfo. The message that it adds to a status is a payload. -/
def getNodeInfo (host : Storage.Host) (req : GetNodeInfoRequest) :
    Storage.Query GetNodeInfoResponse :=
  if infoTypeHave req.infoTypes .frus then do
    let storageInfoResp ← Storage.getStorageInfo host { infoTypes := [.identifier] }
    return storageInfoResp.info.foldl addFru {}
  else return {}

namespace Storage

/-- The fields whose types are asked for; the others keep their defaults. -/
def Info.restrict (infoTypes : List InfoType) (info : Info) : Info where
  id := if infoTypeHave infoTypes .identifier then info.id else none
  systemInfo := if infoTypeHave infoTypes .systemInfo then info.systemInfo else none
  deviceType := if infoTypeHave infoTypes .deviceType then info.deviceType else .unknown
  securityInfo := if infoTypeHave infoTypes .securityInfo then info.securityInfo else none
  ataInfo := if infoTypeHave infoTypes .ataInfo then info.ataInfo else none

theorem bind_eq_value {α β : Type} {first : Query α} {next : α → Query β} {result : β} :
    (first >>= next) = .value result ↔
      ∃ middle, first = .value middle ∧ next middle = .value result := by
  cases first with
  | value middle => simp
  | error status => simp
  | typeError => simp
  | undefined => simp

/-- A block on its own, and where it may be left out. -/
theorem block_eq_value {α : Type} {body : Query α} {result : α} (all : body = .value result)
    (wanted : Bool) (default : α) :
    (if wanted then body else pure default) = .value (if wanted then result else default) := by
  cases wanted
  · rfl
  · exact all

section Device

variable {host : Host} {before : Nat} {device deviceResult : Value} (infoTypes : List InfoType)

theorem systemInfoOf_restrict {systemInfo : Option SystemInfo}
    (all : systemInfoOf [] device = .value systemInfo) :
    systemInfoOf infoTypes device =
      .value (if infoTypeHave infoTypes .systemInfo then systemInfo else none) :=
  block_eq_value all _ _

/-- What is read for the blocks that are asked for. -/
theorem deviceResultOf_restrict (all : deviceResultOf host [] before device = .value deviceResult) :
    deviceResultOf host infoTypes before device =
      .value (if needsResult infoTypes then deviceResult else .null) :=
  block_eq_value all _ _

theorem identifierOf_restrict {id : Option Identifier}
    (all : identifierOf [] device deviceResult = .value id) :
    identifierOf infoTypes device (if needsResult infoTypes then deviceResult else .null) =
      .value (if infoTypeHave infoTypes .identifier then id else none) := by
  by_cases wanted : infoTypeHave infoTypes .identifier = true
  · rw [needsResult, wanted, Bool.true_or, Bool.true_or, if_pos rfl, if_pos rfl, identifierOf,
      if_pos wanted]
    exact all
  · rw [identifierOf, if_neg wanted, if_neg wanted]
    rfl

theorem deviceTypeOf_restrict {deviceType : DeviceType}
    (all : deviceTypeOf [] deviceResult = .value deviceType) :
    deviceTypeOf infoTypes (if needsResult infoTypes then deviceResult else .null) =
      .value (if infoTypeHave infoTypes .deviceType then deviceType else .unknown) := by
  by_cases wanted : infoTypeHave infoTypes .deviceType = true
  · rw [needsResult, wanted, Bool.or_true, Bool.true_or, if_pos rfl, if_pos rfl, deviceTypeOf,
      if_pos wanted]
    exact all
  · rw [deviceTypeOf, if_neg wanted, if_neg wanted]
    rfl

theorem ataInfoOf_restrict {ataInfo : Option AtaInfo}
    (all : ataInfoOf [] device deviceResult = .value ataInfo) :
    ataInfoOf infoTypes device (if needsResult infoTypes then deviceResult else .null) =
      .value (if infoTypeHave infoTypes .ataInfo then ataInfo else none) := by
  by_cases wanted : infoTypeHave infoTypes .ataInfo = true
  · rw [needsResult, wanted, Bool.or_true, if_pos rfl, if_pos rfl, ataInfoOf, if_pos wanted]
    exact all
  · rw [ataInfoOf, if_neg wanted, if_neg wanted]
    rfl

theorem securityInfoOf_restrict {securityInfo : Option SecurityInfo}
    (all : securityInfoOf host [] before device = .value securityInfo) :
    securityInfoOf host infoTypes before device =
      .value (if infoTypeHave infoTypes .securityInfo then securityInfo else none) :=
  block_eq_value all _ _

theorem deviceInfo_restrict {info : Info} (all : deviceInfo host [] before device = .value info) :
    deviceInfo host infoTypes before device = .value (info.restrict infoTypes) := by
  unfold deviceInfo at all
  obtain ⟨systemInfo, system, all⟩ := bind_eq_value.mp all
  obtain ⟨deviceResult, result, all⟩ := bind_eq_value.mp all
  obtain ⟨id, identifier, all⟩ := bind_eq_value.mp all
  obtain ⟨deviceType, type, all⟩ := bind_eq_value.mp all
  obtain ⟨ataInfo, ata, all⟩ := bind_eq_value.mp all
  obtain ⟨securityInfo, security, all⟩ := bind_eq_value.mp all
  cases all
  simp only [deviceInfo, systemInfoOf_restrict infoTypes system,
    deviceResultOf_restrict infoTypes result, identifierOf_restrict infoTypes identifier,
    deviceTypeOf_restrict infoTypes type, ataInfoOf_restrict infoTypes ata,
    securityInfoOf_restrict infoTypes security, Access.value_bind]
  rfl

end Device

theorem deviceInfos_restrict {host : Host} {devices : List Value} {before : Nat}
    {infos : List Info} (all : deviceInfos host [] before devices = .value infos)
    (infoTypes : List InfoType) :
    deviceInfos host infoTypes before devices = .value (infos.map (Info.restrict infoTypes)) := by
  induction devices generalizing before infos with
  | nil =>
      cases all
      rfl
  | cons device devices ih =>
      unfold deviceInfos at all
      obtain ⟨info, first, all⟩ := bind_eq_value.mp all
      obtain ⟨others, rest, all⟩ := bind_eq_value.mp all
      cases all
      rw [deviceInfos, deviceInfo_restrict infoTypes first, Access.value_bind, ih rest]
      rfl

theorem getStorageInfo_restrict {host : Host} {response : GetStorageInfoResponse}
    (all : getStorageInfo host {} = .value response) (infoTypes : List InfoType) :
    getStorageInfo host { infoTypes } =
      .value { info := response.info.map (Info.restrict infoTypes) } := by
  unfold getStorageInfo at all
  obtain ⟨stdout, ran, all⟩ := bind_eq_value.mp all
  obtain ⟨scanResult, parsed, all⟩ := bind_eq_value.mp all
  obtain ⟨devices, listed, all⟩ := bind_eq_value.mp all
  obtain ⟨infos, described, all⟩ := bind_eq_value.mp all
  cases all
  rw [getStorageInfo, ran, Access.value_bind, parsed, Access.value_bind, listed, Access.value_bind,
    deviceInfos_restrict described infoTypes]
  rfl

theorem foldl_addFru (infos : List Info) (frus : List Node.Fru) :
    infos.foldl addFru ⟨some ⟨frus⟩⟩ =
      ⟨some ⟨frus ++ infos.map fun info => ⟨info.id.getD {}⟩⟩⟩ := by
  induction infos generalizing frus with
  | nil => rw [List.foldl_nil, List.map_nil, List.append_nil]
  | cons info rest ih =>
      have step : addFru ⟨some ⟨frus⟩⟩ info = ⟨some ⟨frus ++ [⟨info.id.getD {}⟩]⟩⟩ := rfl
      rw [List.foldl_cons, step, ih, List.append_assoc, List.map_cons, List.singleton_append]

/-- The units in the response, in the order of the devices. -/
theorem foldl_addFru_frus (infos : List Info) :
    ((infos.foldl addFru {}).info.getD {}).frus = infos.map fun info => ⟨info.id.getD {}⟩ := by
  cases infos with
  | nil => rfl
  | cons info rest =>
      have first : addFru {} info = ⟨some ⟨[⟨info.id.getD {}⟩]⟩⟩ := rfl
      rw [List.foldl_cons, first, foldl_addFru]
      rfl

/-- Where everything about the drives can be reported, a request for some types gets the fields of
these, and the units of the node are the drives in the same order, under the same ids. -/
theorem getStorageInfo_named (host : Host) (response : GetStorageInfoResponse)
    (all : getStorageInfo host {} = .value response) :
    (∀ infoTypes, getStorageInfo host { infoTypes } =
      .value { info := response.info.map (Info.restrict infoTypes) }) ∧
    ∀ nodeTypes : List Node.InfoType, infoTypeHave nodeTypes .frus = true →
      ∃ node, getNodeInfo host ⟨nodeTypes⟩ = .value node ∧
        (node.info.getD {}).frus = response.info.map fun info => ⟨info.id.getD {}⟩ := by
  refine ⟨getStorageInfo_restrict all, fun nodeTypes wanted => ?_⟩
  refine ⟨(response.info.map (Info.restrict [.identifier])).foldl addFru {}, ?_, ?_⟩
  · rw [getNodeInfo, if_pos wanted, getStorageInfo_restrict all]
    rfl
  · rw [foldl_addFru_frus, List.map_map]
    rfl

/-- The device of the scan. -/
def sataDevice : Value := .object [("name", .string "/dev/sda"), ("type", .string "scsi")]

theorem sata_deviceResult :
    deviceResultOf (driveHost sataText sataMembers) [] 0 sataDevice =
      .value (.object sataMembers) := by
  have ran : runCommand (driveHost sataText sataMembers) 0 (allArgs "/dev/sda") = .ok sataText :=
    rfl
  have parsed := driveHost_all sataMembers (show sataText ≠ scanText by decide)
  simp only [printed, ran, bind, Except.bind] at parsed
  have name : (sataDevice.constIndex "name" : Query Value) = .value (.string "/dev/sda") := rfl
  have text : ((Value.string "/dev/sda").toText : Query String) = .value "/dev/sda" := rfl
  have needed : needsResult [] = true := rfl
  rw [deviceResultOf, if_pos needed, name, Access.value_bind, text, Access.value_bind, ran]
  simp only [Access.ofExcept, Access.value_bind, parsed]

theorem sata_deviceInfo :
    ∃ info, deviceInfo (driveHost sataText sataMembers) [] 0 sataDevice = .value info := by
  obtain ⟨systemInfo, system⟩ : ∃ info, systemInfoOf [] sataDevice = .value info := ⟨_, rfl⟩
  obtain ⟨id, identifier⟩ : ∃ id, identifierOf [] sataDevice (.object sataMembers) = .value id :=
    ⟨_, rfl⟩
  obtain ⟨deviceType, type⟩ : ∃ type, deviceTypeOf [] (.object sataMembers) = .value type :=
    ⟨_, rfl⟩
  obtain ⟨ataInfo, ata⟩ : ∃ info, ataInfoOf [] sataDevice (.object sataMembers) = .value info :=
    ⟨_, rfl⟩
  obtain ⟨securityInfo, security⟩ :
      ∃ info, securityInfoOf (driveHost sataText sataMembers) [] 0 sataDevice = .value info :=
    ⟨_, rfl⟩
  refine ⟨{ id, systemInfo, deviceType, securityInfo, ataInfo }, ?_⟩
  simp only [deviceInfo, system, sata_deviceResult, identifier, type, ata, security,
    Access.value_bind]
  rfl

theorem getStorageInfo_sata :
    ∃ response, getStorageInfo (driveHost sataText sataMembers) {} = .value response ∧
      response.info.length = 1 := by
  obtain ⟨info, described⟩ := sata_deviceInfo
  have each : deviceInfos (driveHost sataText sataMembers) [] 0 [sataDevice] = .value [info] := by
    rw [deviceInfos, described]
    rfl
  have ran : runCommand (driveHost sataText sataMembers) 0 scanArgs = .ok scanText := rfl
  have parsed : parseJson (driveHost sataText sataMembers) scanText = .ok (.object scanMembers) :=
    rfl
  have listed : ((Value.object scanMembers).index "devices" : Query Value) =
      .value (.array [sataDevice]) := rfl
  refine ⟨⟨[info]⟩, ?_, rfl⟩
  simp only [getStorageInfo, ran, parsed, Access.ofExcept, Access.value_bind, listed,
    Value.elements, each]
  rfl

theorem getStorageInfo_named_sata :
    ∃ response, getStorageInfo (driveHost sataText sataMembers) {} = .value response ∧
      response.info.length = 1 ∧
      ∃ node, getNodeInfo (driveHost sataText sataMembers) {} = .value node ∧
        (node.info.getD {}).frus = response.info.map fun info => ⟨info.id.getD {}⟩ := by
  obtain ⟨response, all, one⟩ := getStorageInfo_sata
  exact ⟨response, all, one, (getStorageInfo_named _ response all).2 [] rfl⟩

end Storage

end OcpDiag.HwInterface
