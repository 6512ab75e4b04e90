import OcpDiag.Lib.Traversal
import OcpDiag.HwInterface.HostBackend
import OcpDiag.HwInterface.LoadConfigs

set_option autoImplicit false

/- The clients of the nodes, with the builders that the library has by default. -/
namespace OcpDiag.HwInterface

/-- DefaultBuilderResolver. -/
def defaultBuilderResolver (newConn : String → StatusOr SshConnInterface) :
    BuilderResolver HostBackend
  | .host => some (HostBackend.create newConn)
  | _ => none

/-- NodeClient::CreateClients. -/
def NodeClient.createClients (files : JsonFiles (List EntityConfiguration)) (flags : Flags)
    (newConn : String → StatusOr SshConnInterface) : StatusOr (List (NodeClient HostBackend)) := do
  let configs ← loadConfigs files flags
  configs.mapM fun config =>
    NodeClient.create (loadConfig files flags) newConn (some config)
      (defaultBuilderResolver newConn)

/-- The backend types that the methods of a configuration ask for. -/
def EntityConfiguration.methodBackends (config : EntityConfiguration) : List BackendType :=
  config.methodConfigurations.entries.map (·.2)

def NodeClient.ofBackend (config : EntityConfiguration) (backend : HostBackend) :
    NodeClient HostBackend where
  hostAdapter := backend.hostAdapter
  config
  backends := (∅ : AList _).insert .host backend

/-- The client of a configuration that asks for the host backend alone. -/
structure ServedByHost (newConn : String → StatusOr SshConnInterface)
    (config : EntityConfiguration) (client : NodeClient HostBackend) : Prop where
  default : config.defaultBackend = .host
  methods : ∀ backendType ∈ config.methodBackends, backendType = .host
  created : ∃ backend, HostBackend.create newConn config = .ok backend ∧
    client = NodeClient.ofBackend config backend

/-- Why a configuration has no client. A method with another backend is refused too, with an error
that names the default backend. -/
inductive Refused (newConn : String → StatusOr SshConnInterface) (config : EntityConfiguration) :
    Status → Prop where
  | default : config.defaultBackend ≠ .host →
      Refused newConn config (NodeClient.builderNotFound config.defaultBackend)
  | connection (status : Status) : config.defaultBackend = .host → config.hostAddress ≠ "" →
      newConn config.hostAddress = .error status → Refused newConn config status
  | method (backend : HostBackend) : config.defaultBackend = .host →
      HostBackend.create newConn config = .ok backend →
      (∃ backendType ∈ config.methodBackends, backendType ≠ .host) →
      Refused newConn config (NodeClient.builderNotFound .host)

section Create

variable {loadConfig : StatusOr EntityConfiguration}
  {newConn : String → StatusOr SshConnInterface} {config : EntityConfiguration}

/-- The loop over the methods has nothing to add, or stops at another backend. -/
theorem addMethodBackends_host {client : NodeClient HostBackend}
    (present : (client.backends.lookup .host).isSome = true)
    (only : ∀ backendType, (client.backends.lookup backendType).isSome = true → backendType = .host)
    (backendTypes : List BackendType) :
    backendTypes.foldlM
        (NodeClient.addMethodBackend (defaultBuilderResolver newConn)) client =
      if ∀ backendType ∈ backendTypes, backendType = .host then .ok client
      else .error (NodeClient.builderNotFound client.config.defaultBackend) := by
  induction backendTypes with
  | nil => rfl
  | cons backendType rest ih =>
      rw [List.foldlM_cons, NodeClient.addMethodBackend]
      by_cases isHost : backendType = .host
      · subst isHost
        rw [if_pos present]
        refine ih.trans (if_congr ?_ rfl rfl)
        rw [List.forall_mem_cons]
        exact ⟨fun others => ⟨rfl, others⟩, fun all => all.2⟩
      · have absent : ¬(client.backends.lookup backendType).isSome = true :=
          fun found => isHost (only backendType found)
        have noBuilder : defaultBuilderResolver newConn backendType = none := by
          cases backendType <;> first | rfl | exact absurd rfl isHost
        rw [if_neg absent, noBuilder,
          if_neg (fun all => isHost (all backendType List.mem_cons_self))]
        rfl

theorem hostBackend_create_adapter {backend : HostBackend}
    (created : HostBackend.create newConn config = .ok backend) :
    NodeClient.createHostAdapter newConn config.hostAddress = .ok backend.hostAdapter := by
  unfold HostBackend.create at created
  unfold NodeClient.createHostAdapter
  split at created
  · rename_i remote
    rw [if_pos remote]
    cases connected : newConn config.hostAddress with
    | error status => rw [connected] at created; cases created
    | ok connection => rw [connected] at created; cases created; rfl
  · rename_i localHost
    rw [if_neg localHost]
    cases created
    rfl

theorem create_host {backend : HostBackend} (isHost : config.defaultBackend = .host)
    (created : HostBackend.create newConn config = .ok backend) :
    NodeClient.create loadConfig newConn (some config) (defaultBuilderResolver newConn) =
      if ∀ backendType ∈ config.methodBackends, backendType = .host then
        .ok (NodeClient.ofBackend config backend)
      else .error (NodeClient.builderNotFound .host) := by
  have present : (((∅ : AList fun _ => HostBackend).insert BackendType.host backend).lookup
      .host).isSome = true := by
    rw [AList.lookup_insert]
    rfl
  have only : ∀ backendType,
      (((∅ : AList fun _ => HostBackend).insert BackendType.host backend).lookup
        backendType).isSome = true → backendType = .host := by
    intro backendType found
    by_contra other
    rw [AList.lookup_insert_ne other] at found
    cases found
  have added : config.methodBackends.foldlM
      (NodeClient.addMethodBackend (defaultBuilderResolver newConn))
      { config, backends := (∅ : AList _).insert .host backend } = _ :=
    addMethodBackends_host present only config.methodBackends
  unfold EntityConfiguration.methodBackends at added ⊢
  unfold NodeClient.create NodeClient.chooseConfig NodeClient.addBackend
  simp only [bind, Except.bind, isHost, defaultBuilderResolver, created, pure, Except.pure, added]
  by_cases all : ∀ backendType ∈ config.methodConfigurations.entries.map (·.2), backendType = .host
  · simp only [if_pos all, hostBackend_create_adapter created]
    rfl
  · simp only [if_neg all]

theorem create_not_host (other : config.defaultBackend ≠ .host) :
    NodeClient.create loadConfig newConn (some config) (defaultBuilderResolver newConn) =
      .error (NodeClient.builderNotFound config.defaultBackend) := by
  have noBuilder : defaultBuilderResolver newConn config.defaultBackend = none := by
    cases backend : config.defaultBackend <;> first | rfl | exact absurd backend other
  unfold NodeClient.create NodeClient.chooseConfig
  simp only [bind, Except.bind, noBuilder]

theorem hostBackend_create_error {status : Status}
    (failed : HostBackend.create newConn config = .error status) :
    config.hostAddress ≠ "" ∧ newConn config.hostAddress = .error status := by
  unfold HostBackend.create at failed
  split at failed
  · rename_i remote
    refine ⟨by simpa using remote, ?_⟩
    cases connected : newConn config.hostAddress with
    | error found => rw [connected] at failed; exact congrArg _ (Except.error.inj failed)
    | ok connection => rw [connected] at failed; cases failed
  · cases failed

theorem create_no_connection {status : Status} (isHost : config.defaultBackend = .host)
    (failed : HostBackend.create newConn config = .error status) :
    NodeClient.create loadConfig newConn (some config) (defaultBuilderResolver newConn) =
      .error status := by
  unfold NodeClient.create NodeClient.chooseConfig NodeClient.addBackend
  simp only [bind, Except.bind, isHost, defaultBuilderResolver, failed]

/-- A configuration has its client, or a reason why it has none. -/
theorem create_cases (loadConfig : StatusOr EntityConfiguration)
    (newConn : String → StatusOr SshConnInterface) (config : EntityConfiguration) :
    (∃ client, ServedByHost newConn config client ∧
      NodeClient.create loadConfig newConn (some config) (defaultBuilderResolver newConn) =
        .ok client) ∨
    (∃ status, Refused newConn config status ∧
      NodeClient.create loadConfig newConn (some config) (defaultBuilderResolver newConn) =
        .error status) := by
  by_cases isHost : config.defaultBackend = .host
  · cases created : HostBackend.create newConn config with
    | error status =>
        obtain ⟨named, failed⟩ := hostBackend_create_error created
        exact .inr ⟨status, .connection status isHost named failed,
          create_no_connection isHost created⟩
    | ok backend =>
        have result : NodeClient.create loadConfig newConn (some config)
            (defaultBuilderResolver newConn) = _ := create_host isHost created
        by_cases all : ∀ backendType ∈ config.methodBackends, backendType = .host
        · exact .inl ⟨_, ⟨isHost, all, backend, created, rfl⟩, result.trans (if_pos all)⟩
        · obtain ⟨backendType, member, other⟩ := not_forall₂.mp all
          exact .inr ⟨_, .method backend isHost created ⟨backendType, member, other⟩,
            result.trans (if_neg all)⟩
  · exact .inr ⟨_, .default isHost, create_not_host isHost⟩

theorem create_served {client : NodeClient HostBackend}
    (served : ServedByHost newConn config client) :
    NodeClient.create loadConfig newConn (some config) (defaultBuilderResolver newConn) =
      .ok client := by
  obtain ⟨isHost, all, backend, created, rfl⟩ := served
  exact (create_host isHost created).trans (if_pos all)

theorem create_refused {status : Status} (refused : Refused newConn config status) :
    NodeClient.create loadConfig newConn (some config) (defaultBuilderResolver newConn) =
      .error status := by
  cases refused with
  | default other => exact create_not_host other
  | connection status isHost named failed =>
      refine create_no_connection isHost ?_
      have remote : (!config.hostAddress.isEmpty) = true := by simpa using named
      unfold HostBackend.create
      rw [if_pos remote, failed]
      rfl
  | method backend isHost created others =>
      obtain ⟨backendType, member, other⟩ := others
      exact (create_host isHost created).trans (if_neg fun all => other (all backendType member))

theorem create_ok_iff (client : NodeClient HostBackend) :
    NodeClient.create loadConfig newConn (some config) (defaultBuilderResolver newConn) =
      .ok client ↔ ServedByHost newConn config client := by
  refine ⟨fun ok => ?_, create_served⟩
  rcases create_cases loadConfig newConn config with ⟨found, served, isOk⟩ | ⟨status, -, failed⟩
  · obtain rfl := Except.ok.inj (isOk.symm.trans ok)
    exact served
  · rw [failed] at ok
    cases ok

theorem create_error_iff (status : Status) :
    NodeClient.create loadConfig newConn (some config) (defaultBuilderResolver newConn) =
      .error status ↔ Refused newConn config status := by
  refine ⟨fun failed => ?_, create_refused⟩
  rcases create_cases loadConfig newConn config with ⟨client, -, isOk⟩ | ⟨found, refused, isError⟩
  · rw [isOk] at failed
    cases failed
  · obtain rfl := Except.error.inj (isError.symm.trans failed)
    exact refused

end Create

theorem createClients_eq_mapM {files : JsonFiles (List EntityConfiguration)} {flags : Flags}
    (newConn : String → StatusOr SshConnInterface) {configs : List EntityConfiguration}
    (loaded : loadConfigs files flags = .ok configs) :
    NodeClient.createClients files flags newConn =
      configs.mapM fun config =>
        NodeClient.create (loadConfig files flags) newConn (some config)
          (defaultBuilderResolver newConn) := by
  unfold NodeClient.createClients
  rw [loaded]
  rfl

/-- A client for each configuration, or the reason of the first one that has none. -/
theorem createClients_exact (files : JsonFiles (List EntityConfiguration)) (flags : Flags)
    (newConn : String → StatusOr SshConnInterface) (configs : List EntityConfiguration)
    (loaded : loadConfigs files flags = .ok configs) :
    (∀ clients, NodeClient.createClients files flags newConn = .ok clients ↔
      List.Forall₂ (ServedByHost newConn) configs clients) ∧
    (∀ status, NodeClient.createClients files flags newConn = .error status ↔
      ∃ earlier config later, configs = earlier ++ config :: later ∧
        (∀ other ∈ earlier, ∃ client, ServedByHost newConn other client) ∧
        Refused newConn config status) := by
  have loop := createClients_eq_mapM newConn loaded
  refine ⟨fun clients => ?_, fun status => ?_⟩
  · rw [loop, Traversal.mapM_ok_iff]
    simp only [create_ok_iff]
  · rw [loop, Traversal.mapM_error_iff]
    simp only [create_ok_iff, create_error_iff]

/-- A node that runs the test, with entries of its own for two methods. -/
def localConfig : EntityConfiguration where
  methodConfigurations := ((∅ : AList (fun _ : Int => BackendType)).insert
    BackendMethod.getCpuInfo.number .host).insert BackendMethod.reboot.number .host
  defaultBackend := .host

/-- What the flag for the target address makes of nothing. -/
def dutConfig : EntityConfiguration where
  entity := some { hostAddress := "dut" }
  defaultBackend := .host

/-- A file with the two nodes, and a protobuf library that reads it and no other text. -/
def nodeFiles : JsonFiles (List EntityConfiguration) where
  contents path := if path = "nodes.json" then some "nodes" else none
  jsonToBinary jsonStream := .ok jsonStream
  mergeFromString configs binaryProto :=
    if binaryProto = "nodes" then (true, configs ++ [localConfig, dutConfig]) else (false, configs)

def nodeFlags : Flags := { configFilePath := "nodes.json" }

def dutConnection : SshConnInterface where
  nodeSpec := ⟨"dut"⟩
  sshBinPath := "/usr/bin/ssh"

def newDutConnection (address : String) : StatusOr SshConnInterface :=
  if address = "dut" then .ok dutConnection
  else .error ⟨.internal, "Failed to connect to " ++ address⟩

def noConnection (address : String) : StatusOr SshConnInterface :=
  .error ⟨.internal, "Failed to connect to " ++ address⟩

def nodeBackends : List (EntityConfiguration × HostBackend) :=
  [(localConfig, { config := localConfig, hostAdapter := .localHost }),
    (dutConfig, { config := dutConfig, hostAdapter := .remote dutConnection })]

def nodeClients : List (NodeClient HostBackend) :=
  nodeBackends.map fun node => NodeClient.ofBackend node.1 node.2

theorem createClients_exact_nodes :
    NodeClient.createClients nodeFiles nodeFlags newDutConnection = .ok nodeClients ∧
      NodeClient.createClients nodeFiles nodeFlags noConnection =
        .error ⟨.internal, "Failed to connect to dut"⟩ := by
  have loaded : loadConfigs nodeFiles nodeFlags = .ok [localConfig, dutConfig] := rfl
  constructor
  · refine ((createClients_exact nodeFiles nodeFlags newDutConnection _ loaded).1 _).mpr ?_
    exact .cons ⟨rfl, by decide, _, rfl, rfl⟩ (.cons ⟨rfl, by decide, _, rfl, rfl⟩ .nil)
  · refine ((createClients_exact nodeFiles nodeFlags noConnection _ loaded).2 _).mpr
      ⟨[localConfig], dutConfig, [], rfl, fun other member => ?_, .connection _ rfl (by decide) rfl⟩
    obtain rfl := List.mem_singleton.mp member
    exact ⟨_, rfl, by decide, _, rfl, rfl⟩

/-- The method that NodeClient selects the backend of an inherited method by. -/
def InheritedMethod.backendMethod : InheritedMethod → BackendMethod
  | .getSensors => .getSensors
  | .clearErrors => .clearErrors
  | .getFanInfo => .getFanInfo
  | .setFanPwm => .setFanPwm
  | .setFanZone => .setFanZone
  | .getEepromInfo => .getEepromInfo
  | .readEeprom => .readEeprom
  | .setDevicePower => .setDevicePower
  | .getDevicePower => .getDevicePower
  | .getStatus => .getStatus
  | .getSystemInfo => .getSystemInfo
  | .getNcsiInfo => .getNcsiInfo
  | .getPcieInfo => .getPcieInfo
  | .getUsbInfo => .getUsbInfo
  | .getUpiInfo => .getUpiInfo
  | .getI2cInfo => .getI2cInfo
  | .getScsiInfo => .getScsiInfo
  | .getNvLinkInfo => .getNvLinkInfo
  | .getBootNumber => .getBootNumber
  | .getSecurityChipInfo => .getSecurityChipInfo
  | .getEcInfo => .getEcInfo
  | .getFirmwareInfo => .getFirmwareInfo
  | .getNetworkInterfaceInfo => .getNetworkInterfaceInfo
  | .getPsuInfo => .getPsuInfo
  | .getGpuInfo => .getGpuInfo
  | .getAcceleratorInfo => .getAcceleratorInfo

/-- The method that a request selects its backend by. GetVersion asks all backends. -/
def HostBackend.Request.method : HostBackend.Request → Option BackendMethod
  | .getCpuInfo _ => some .getCpuInfo
  | .getMemoryInfo _ => some .getMemoryInfo
  | .getErrors _ => some .getErrors
  | .getHwInfo _ => some .getHwInfo
  | .reboot _ => some .reboot
  | .memoryConvert _ => some .memoryConvert
  | .getStorageInfo _ => some .getStorageInfo
  | .getNodeInfo _ => some .getNodeInfo
  | .getVersion => none
  | .inherited method => some method.backendMethod

namespace NodeClient

/-- NodeClient::GetVersion, with the backends in the order of the map's entries. -/
def getVersion (client : NodeClient HostBackend) : StatusOr GetVersionResponse := do
  let responses ← client.backends.entries.mapM fun _ => HwInterface.getVersion HostBackend.name
  return { softwares := responses.flatMap (·.softwares) }

/-- A call of the client, which its backend answers; it throws when there is no such backend. -/
def perform (client : NodeClient HostBackend) (host : HostBackend.Surroundings)
    (request : HostBackend.Request) : Option (HostBackend.Response × NodeClient HostBackend) :=
  match request.method with
  | none => some (.getVersion client.getVersion, client)
  | some method =>
      match client.selectBackend method with
      | (none, _) => none
      | (some backend, next) =>
          let backendType := (next.config.methodConfigurations.lookup method.number).getD .unknown
          let (response, backend) := backend.call host request
          some (response, { next with backends := next.backends.insert backendType backend })

def performAll (client : NodeClient HostBackend) :
    List (HostBackend.Request × HostBackend.Surroundings) → Option (List HostBackend.Response)
  | [] => some []
  | (request, host) :: rest => do
      let (response, client) ← client.perform host request
      let responses ← client.performAll rest
      return response :: responses

end NodeClient

/-- The client has this one backend, and every method goes to it. -/
structure Fronts (client : NodeClient HostBackend) (backend : HostBackend) : Prop where
  only : client.backends.entries = [⟨.host, backend⟩]
  dispatches : ∀ method, dispatchType client.config method = .host

theorem Fronts.lookup {client : NodeClient HostBackend} {backend : HostBackend}
    (fronts : Fronts client backend) : client.backends.lookup .host = some backend := by
  have member : (⟨.host, backend⟩ : Sigma fun _ => HostBackend) ∈ client.backends.entries := by
    rw [fronts.only]
    exact List.mem_singleton_self _
  exact AList.mem_lookup_iff.mpr member

end OcpDiag.HwInterface
