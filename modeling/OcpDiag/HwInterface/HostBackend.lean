import OcpDiag.Lib.OnceCell
import OcpDiag.HwInterface.CpuInfo
import OcpDiag.HwInterface.ErrorEvents
import OcpDiag.HwInterface.MemoryInfo
import OcpDiag.HwInterface.NodeClient
import OcpDiag.HwInterface.NodeInfo

set_option autoImplicit false

/- The host backend over the calls of its life: it reads the SMBIOS tables once. -/
namespace OcpDiag.HwInterface

inductive RebootType where
  | unspecified
  | hard
  | soft
  /-- A number without a name, which proto3 keeps. -/
  | unrecognized (number : Int)
  deriving DecidableEq, Repr

/-- RebootType_Name. -/
def RebootType.name : RebootType → String
  | .unspecified => "REBOOTTYPE_UNSPECIFIED"
  | .hard => "REBOOTTYPE_HARD"
  | .soft => "REBOOTTYPE_SOFT"
  | .unrecognized _ => ""

/-- HostBackend::Reboot, which does not look at the exit code. -/
def reboot (runCommand : RunCommand) (type : RebootType) : StatusOr Unit :=
  match type with
  | .soft => (runCommand "5m" ["shutdown", "-r", "now"]).map fun _ => ()
  | .hard => .error ⟨.unimplemented, "Reboot type " ++ type.name ++ " unimplemented."⟩
  | _ => .error ⟨.internal, "Unsupported reboot type: " ++ type.name⟩

/-- The tables as MemoryConvert looks at them. -/
def SmbiosTable.reader (table : SmbiosTable) : SmbiosReader where
  memoryDeviceMappedAddresses := table.memoryDeviceMappedAddresses
  memoryDevices := table.memoryDevices.map MemoryDevice.toMemoryDeviceView

/-- The methods of OCPDiagServiceInterface that HostBackend leaves as they are. -/
inductive InheritedMethod where
  | getSensors | clearErrors | getFanInfo | setFanPwm | setFanZone | getEepromInfo | readEeprom
  | setDevicePower | getDevicePower | getStatus | getSystemInfo | getNcsiInfo | getPcieInfo
  | getUsbInfo | getUpiInfo | getI2cInfo | getScsiInfo | getNvLinkInfo | getBootNumber
  | getSecurityChipInfo | getEcInfo | getFirmwareInfo | getNetworkInterfaceInfo | getPsuInfo
  | getGpuInfo | getAcceleratorInfo
  deriving DecidableEq, Repr

def InheritedMethod.name : InheritedMethod → String
  | .getSensors => "GetSensors"
  | .clearErrors => "ClearErrors"
  | .getFanInfo => "GetFanInfo"
  | .setFanPwm => "SetFanPwm"
  | .setFanZone => "SetFanZone"
  | .getEepromInfo => "GetEepromInfo"
  | .readEeprom => "ReadEeprom"
  | .setDevicePower => "SetDevicePower"
  | .getDevicePower => "GetDevicePower"
  | .getStatus => "GetStatus"
  | .getSystemInfo => "GetSystemInfo"
  | .getNcsiInfo => "GetNcsiInfo"
  | .getPcieInfo => "GetPcieInfo"
  | .getUsbInfo => "GetUsbInfo"
  | .getUpiInfo => "GetUpiInfo"
  | .getI2cInfo => "GetI2cInfo"
  | .getScsiInfo => "GetScsiInfo"
  | .getNvLinkInfo => "GetNvLinkInfo"
  | .getBootNumber => "GetBootNumber"
  | .getSecurityChipInfo => "GetSecurityChipInfo"
  | .getEcInfo => "GetEcInfo"
  | .getFirmwareInfo => "GetFirmwareInfo"
  | .getNetworkInterfaceInfo => "GetNetworkInterfaceInfo"
  | .getPsuInfo => "GetPsuInfo"
  | .getGpuInfo => "GetGpuInfo"
  | .getAcceleratorInfo => "GetAcceleratorInfo"

/-- What OCPDiagServiceInterface returns for a method that a backend does not implement. -/
def InheritedMethod.unimplementedError (method : InheritedMethod) (backendName : String) : Status :=
  ⟨.unimplemented, method.name ++ " is unimplemented by " ++ backendName⟩

/-- A software of a version response. -/
structure SoftwareInfo where
  softwareInfoId : String := ""
  arena : String := ""
  name : String := ""
  version : String := ""
  deriving DecidableEq, Repr

structure GetVersionResponse where
  softwares : List SoftwareInfo := []
  deriving DecidableEq, Repr

/-- OCPDiagServiceInterface::GetVersion, which no backend of the repository overrides. -/
def getVersion (backendName : String) : StatusOr GetVersionResponse :=
  .ok { softwares := [{ name := backendName, version := "unknown" }] }

structure HostBackend where
  config : EntityConfiguration
  hostAdapter : HostAdapter
  smbiosReader : Option SmbiosTable := none

namespace HostBackend

def name : String := "HostBackend"

def kDmiTablePath : String := "/sys/firmware/dmi/tables/DMI"

/-- HostBackend::Create. -/
def create (newConn : String → StatusOr SshConnInterface) (config : EntityConfiguration) :
    StatusOr HostBackend :=
  if !config.hostAddress.isEmpty then do
    let remote ← newConn config.hostAddress
    return { config, hostAdapter := .remote remote }
  else .ok { config, hostAdapter := .localHost }

/-- What the host of the adapter does at the time of a call: its files, its commands, and what
the backend's libraries make of their texts. -/
structure Surroundings where
  read : HostFiles
  runCommand : RunCommand
  parseTime : RasDaemonErrors.ParseTime
  storage : Storage.Host
  /-- The constructor of ecclesia::SmbiosReader. -/
  parseTables : String → SmbiosTable

def getSmbiosReader (backend : HostBackend) (host : Surroundings) :
    StatusOr SmbiosTable × HostBackend :=
  match backend.smbiosReader with
  | some reader => (.ok reader, backend)
  | none =>
      match host.read kDmiTablePath with
      | .error status => (.error status, backend)
      | .ok tableData =>
          let reader := host.parseTables tableData
          (.ok reader, { backend with smbiosReader := some reader })

inductive Request where
  | getCpuInfo (req : GetCpuInfoRequest)
  | getMemoryInfo (infoTypes : List Memory.InfoType)
  | getErrors (req : GetErrorsRequest)
  | getHwInfo (ids : List String)
  | reboot (type : RebootType)
  | memoryConvert (physicalAddress : UInt64)
  | getStorageInfo (req : Storage.GetStorageInfoRequest)
  | getNodeInfo (req : GetNodeInfoRequest)
  | getVersion
  | inherited (method : InheritedMethod)

inductive Response where
  | getCpuInfo (resp : StatusOr GetCpuInfoResponse)
  | getMemoryInfo (dimmInfos : StatusOr Memory.DimmInfos)
  | getErrors (resp : StatusOr GetErrorsResponse)
  | getHwInfo (hwInfo : StatusOr GetHwInfoResponse)
  | reboot (resp : StatusOr Unit)
  | memoryConvert (identifiers : StatusOr (List Identifier))
  | getStorageInfo (resp : Storage.Query Storage.GetStorageInfoResponse)
  | getNodeInfo (resp : Storage.Query GetNodeInfoResponse)
  | getVersion (resp : StatusOr GetVersionResponse)
  | inherited (method : InheritedMethod) (status : Status)

def call (backend : HostBackend) (host : Surroundings) : Request → Response × HostBackend
  | .getCpuInfo req => (.getCpuInfo (HwInterface.getCpuInfo host.read req), backend)
  | .getMemoryInfo infoTypes =>
      let (reader, backend) := backend.getSmbiosReader host
      (.getMemoryInfo (HwInterface.getMemoryInfo reader infoTypes), backend)
  | .getErrors req =>
      (.getErrors (HwInterface.getErrors host.parseTime host.runCommand req), backend)
  | .getHwInfo ids => (.getHwInfo (HwInterface.getHwInfo ids), backend)
  | .reboot type => (.reboot (HwInterface.reboot host.runCommand type), backend)
  | .memoryConvert physicalAddress =>
      let (reader, backend) := backend.getSmbiosReader host
      (.memoryConvert (HwInterface.memoryConvert (reader.map SmbiosTable.reader) physicalAddress),
        backend)
  | .getStorageInfo req => (.getStorageInfo (Storage.getStorageInfo host.storage req), backend)
  | .getNodeInfo req => (.getNodeInfo (HwInterface.getNodeInfo host.storage req), backend)
  | .getVersion => (.getVersion (HwInterface.getVersion name), backend)
  | .inherited method => (.inherited method (method.unimplementedError name), backend)

/-- The responses to the calls of a life, each with the host as it is then. -/
def run (backend : HostBackend) : List (Request × Surroundings) → List Response
  | [] => []
  | (request, host) :: rest =>
      let (response, backend) := backend.call host request
      response :: backend.run rest

/-- The methods that call GetSmbiosReader. -/
def Request.asksTables : Request → Bool
  | .getMemoryInfo _ | .memoryConvert _ => true
  | _ => false

/-- What a read of the DMI file gives. -/
def Surroundings.tables (host : Surroundings) : StatusOr SmbiosTable :=
  (host.read kDmiTablePath).map host.parseTables

/-- A response with the tables given. -/
def respond (host : Surroundings) (reader : StatusOr SmbiosTable) : Request → Response
  | .getCpuInfo req => .getCpuInfo (HwInterface.getCpuInfo host.read req)
  | .getMemoryInfo infoTypes => .getMemoryInfo (HwInterface.getMemoryInfo reader infoTypes)
  | .getErrors req => .getErrors (HwInterface.getErrors host.parseTime host.runCommand req)
  | .getHwInfo ids => .getHwInfo (HwInterface.getHwInfo ids)
  | .reboot type => .reboot (HwInterface.reboot host.runCommand type)
  | .memoryConvert physicalAddress =>
      .memoryConvert (HwInterface.memoryConvert (reader.map SmbiosTable.reader) physicalAddress)
  | .getStorageInfo req => .getStorageInfo (Storage.getStorageInfo host.storage req)
  | .getNodeInfo req => .getNodeInfo (HwInterface.getNodeInfo host.storage req)
  | .getVersion => .getVersion (HwInterface.getVersion name)
  | .inherited method => .inherited method (method.unimplementedError name)

/-- The read that a call does when the backend has no tables yet. -/
def fetch (call : Request × Surroundings) : Option (StatusOr SmbiosTable) :=
  if call.1.asksTables then some call.2.tables else none

def answer (call : Request × Surroundings) (reader : Option (StatusOr SmbiosTable)) : Response :=
  respond call.2 (reader.getD call.2.tables) call.1

theorem getSmbiosReader_eq (backend : HostBackend) (host : Surroundings) :
    backend.getSmbiosReader host =
      ((OnceCell.get backend.smbiosReader host.tables).1,
        { backend with smbiosReader := (OnceCell.get backend.smbiosReader host.tables).2 }) := by
  obtain ⟨config, hostAdapter, smbiosReader⟩ := backend
  cases smbiosReader with
  | some reader => simp only [getSmbiosReader, OnceCell.get_some]
  | none =>
      simp only [getSmbiosReader, Surroundings.tables]
      cases host.read kDmiTablePath <;> rfl

/-- A backend is a server whose cell holds the tables. -/
theorem run_eq_serve (backend : HostBackend) (calls : List (Request × Surroundings)) :
    backend.run calls = OnceCell.serve fetch answer backend.smbiosReader calls := by
  induction calls generalizing backend with
  | nil => rfl
  | cons head rest ih =>
      obtain ⟨request, host⟩ := head
      rw [run]
      cases request
      case getMemoryInfo infoTypes =>
        simp only [call, getSmbiosReader_eq, ih]
        rfl
      case memoryConvert physicalAddress =>
        simp only [call, getSmbiosReader_eq, ih]
        rfl
      all_goals
        simp only [call, ih]
        rfl

/-- The tables that a call gets on a host after the calls before it. -/
def tablesAfter (calls : List (Request × Surroundings)) (host : Surroundings) :
    StatusOr SmbiosTable :=
  OnceCell.settled (OnceCell.fetches fetch calls) host.tables

theorem run_getElem? (config : EntityConfiguration) (hostAdapter : HostAdapter)
    (calls : List (Request × Surroundings)) (place : Nat) :
    (run { config, hostAdapter } calls)[place]? =
      calls[place]?.map fun call =>
        respond call.2 (tablesAfter (calls.take place) call.2) call.1 := by
  rw [run_eq_serve]
  refine (OnceCell.serve_getElem? fetch answer calls [] place).trans ?_
  congr 1
  funext ⟨request, host⟩
  rw [List.nil_append]
  cases request <;> rfl

/-- The calls before a later one are those before this one, this one and some others. -/
theorem take_split {α : Type} {calls : List α} {place later : Nat} {call : α}
    (here : calls[place]? = some call) (before : place < later) :
    ∃ between, calls.take later = calls.take place ++ call :: between := by
  have taken : (calls.take later)[place]? = some call := by
    rw [List.getElem?_take_of_lt before, here]
  obtain ⟨bound, isCall⟩ := List.getElem?_eq_some_iff.mp taken
  refine ⟨(calls.take later).drop (place + 1), ?_⟩
  calc calls.take later
      = (calls.take later).take place ++ (calls.take later).drop place :=
        (List.take_append_drop place _).symm
    _ = calls.take place ++ call :: (calls.take later).drop (place + 1) := by
        rw [List.take_take, Nat.min_eq_left (Nat.le_of_lt before),
          List.drop_eq_getElem_cons bound, isCall]

theorem tablesAfter_later {calls : List (Request × Surroundings)} {place later : Nat}
    {call : Request × Surroundings} {table : SmbiosTable} (here : calls[place]? = some call)
    (asks : call.1.asksTables = true)
    (got : tablesAfter (calls.take place) call.2 = .ok table) (before : place < later)
    (host : Surroundings) : tablesAfter (calls.take later) host = .ok table := by
  obtain ⟨between, split⟩ := take_split here before
  have fetched : fetch call = some call.2.tables := if_pos asks
  unfold tablesAfter OnceCell.fetches at got ⊢
  rw [split, List.filterMap_append, List.filterMap_cons_some fetched]
  exact OnceCell.settled_later got _ host.tables

theorem tablesAfter_error {calls : List (Request × Surroundings)} {host : Surroundings}
    {status : Status} (failed : tablesAfter calls host = .error status) :
    host.tables = .error status := by
  unfold tablesAfter OnceCell.settled at failed
  cases kept : OnceCell.firstOk (OnceCell.fetches fetch calls) with
  | some table =>
      rw [kept, OnceCell.get_some] at failed
      cases failed
  | none =>
      rw [kept] at failed
      cases now : host.tables with
      | ok table => rw [now] at failed; cases failed
      | error reason => rw [now] at failed; exact failed

/-- Each response is that of a backend which has just read the tables that its call gets. From the
first read that succeeds on, all calls get the same tables, whatever becomes of the host; a call
that gets none fails with the status of its own read. -/
theorem run_reads_once (config : EntityConfiguration) (hostAdapter : HostAdapter)
    (calls : List (Request × Surroundings)) :
    (∀ place, (run { config, hostAdapter } calls)[place]? =
      calls[place]?.map fun call =>
        respond call.2 (tablesAfter (calls.take place) call.2) call.1) ∧
    (∀ place call table, calls[place]? = some call → call.1.asksTables = true →
      tablesAfter (calls.take place) call.2 = .ok table →
      ∀ later host, place < later → tablesAfter (calls.take later) host = .ok table) ∧
    (∀ place call status, calls[place]? = some call →
      tablesAfter (calls.take place) call.2 = .error status →
      call.2.tables = .error status) :=
  ⟨run_getElem? config hostAdapter calls,
    fun _ _ _ here asks got _ host before => tablesAfter_later here asks got before host,
    fun _ _ _ _ failed => tablesAfter_error failed⟩

/-- One module of 16 GB. -/
def sampleTable : SmbiosTable where
  memoryDevices :=
    [{ handle := 0x1100, deviceLocator := "A0", size := 0x4000, memoryType := 0x1A }]

def sampleSurroundings (tableData : StatusOr String) : Surroundings where
  read _ := tableData
  runCommand _ _ := .error ⟨.internal, "Failed to create tmpfile file."⟩
  parseTime _ _ := .error "Failed to parse input"
  storage := Storage.driveHost Storage.sataText Storage.sataMembers
  parseTables tableData := if tableData = "17" then sampleTable else {}

/-- A read that fails, one that succeeds, and a host whose tables are other ones by then. -/
def sampleCalls : List (Request × Surroundings) :=
  [(.getMemoryInfo [], sampleSurroundings (.error ⟨.notFound, "DMI"⟩)),
    (.memoryConvert 0, sampleSurroundings (.ok "17")),
    (.getMemoryInfo [.size], sampleSurroundings (.ok ""))]

theorem run_reads_once_sampleCalls :
    (run { config := {}, hostAdapter := .localHost } sampleCalls)[2]? =
      some (respond (sampleSurroundings (.ok "")) (.ok sampleTable) (.getMemoryInfo [.size])) ∧
    (sampleSurroundings (.error ⟨.notFound, "DMI"⟩)).tables = .error ⟨.notFound, "DMI"⟩ := by
  have reads := run_reads_once {} .localHost sampleCalls
  have later := reads.2.1 1 _ sampleTable rfl rfl rfl 2 (sampleSurroundings (.ok "")) (by decide)
  refine ⟨?_, reads.2.2 0 _ _ rfl rfl⟩
  rw [reads.1]
  change some (respond _ (tablesAfter (sampleCalls.take 2) (sampleSurroundings (.ok ""))) _) = _
  rw [later]

end HostBackend

end OcpDiag.HwInterface
