import OcpDiag.HwInterface.CreateClients
import OcpDiag.HwInterface.SshPath
import OcpDiag.HwInterface.ServiceFlags

set_option autoImplicit false

/- Connections to remote hosts, and the hosts that the clients of the nodes reach by them. -/
namespace OcpDiag.HwInterface

/-- What the factory reads: its flags, PATH where it is set, and which of the files it asks for
exist. -/
structure ConnSettings where
  miConnectionType : String := "ssh"
  remoteSshKeyPath : String := ""
  remoteSshTunnelFilePath : String := ""
  pathEnv : Option String
  pathExists : PathExists

inductive ConnectionTypes where
  | prod
  | ssh
  deriving DecidableEq, Repr

def kStringToConnectionTypeMap : List (String × ConnectionTypes) := [("ssh", .ssh)]

/-- Why NewConn does not return. -/
inductive Interruption where
  | thrown (error : FilesystemError)
  /-- A std::string of the null pointer that getenv returns, which is undefined. -/
  | nullPath
  deriving DecidableEq, Repr

def newConn (settings : ConnSettings) (address : String) :
    Except Interruption (StatusOr SshConnInterface) :=
  if address.isEmpty then
    .ok (.error ⟨.invalidArgument, "Machine node address must not be empty."⟩)
  else
    let miConnectionType := String.ofList (asciiStrToLower settings.miConnectionType.toList)
    match kStringToConnectionTypeMap.lookup miConnectionType with
    | none => .ok (.error ⟨.invalidArgument, miConnectionType ++ " is an invalid connection type."⟩)
    | some _ =>
        match settings.pathEnv with
        | none => .error .nullPath
        | some pathEnv =>
            match getSshPath settings.pathExists pathEnv with
            | .error error => .error (.thrown error)
            | .ok sshBin =>
                .ok (sshBin.map fun sshBin =>
                  { nodeSpec := { address }
                    sshKeyPath := settings.remoteSshKeyPath
                    sshTunnelFilePath := settings.remoteSshTunnelFilePath
                    sshBinPath := sshBin })

namespace ConnSettings

/-- The connection type is ssh in any case of letters. -/
def BySsh (settings : ConnSettings) : Prop :=
  String.ofList (asciiStrToLower settings.miConnectionType.toList) = "ssh"

/-- The binary of the first element of PATH that has an allowed one, the last element apart; what an
earlier one names is not there. -/
def FindsBinary (settings : ConnSettings) (binary : String) : Prop :=
  ∃ pathEnv before element after, settings.pathEnv = some pathEnv ∧
    (pathElements pathEnv).dropLast = before ++ element :: after ∧
    (∀ earlier ∈ before, ¬Stops settings.pathExists earlier) ∧
    Qualifies settings.pathExists element ∧ sshIn element = binary

/-- Commands can be run at the address; the empty one is that of this host. -/
def Serves (settings : ConnSettings) (address : String) : Prop :=
  address ≠ "" → settings.BySsh ∧ ∃ binary, settings.FindsBinary binary

structure Connects (settings : ConnSettings) (address : String) (conn : SshConnInterface) :
    Prop where
  bySsh : settings.BySsh
  address : conn.nodeSpec.address = address
  key : conn.sshKeyPath = settings.remoteSshKeyPath
  tunnel : conn.sshTunnelFilePath = settings.remoteSshTunnelFilePath
  binary : settings.FindsBinary conn.sshBinPath

/-- The connections are those of NewConn where it returns. -/
def GivenBy (settings : ConnSettings) (connect : String → StatusOr SshConnInterface) : Prop :=
  ∀ address answer, newConn settings address = .ok answer → connect address = answer

/-- CreateClients returns these clients whatever comes of the calls of NewConn that do not return:
it makes none of them. -/
def CreatesClients (settings : ConnSettings) (files : JsonFiles (List EntityConfiguration))
    (flags : Flags) (clients : List (NodeClient HostBackend)) : Prop :=
  ∀ connect, settings.GivenBy connect → NodeClient.createClients files flags connect = .ok clients

variable {settings : ConnSettings}

theorem findsBinary_iff (binary : String) :
    settings.FindsBinary binary ↔ ∃ pathEnv, settings.pathEnv = some pathEnv ∧
      getSshPath settings.pathExists pathEnv = .ok (.ok binary) := by
  unfold FindsBinary
  constructor
  · rintro ⟨pathEnv, before, element, after, isSet, same, earlier, qualifies, rfl⟩
    exact ⟨pathEnv, isSet, getSshPath_found same earlier qualifies⟩
  · rintro ⟨pathEnv, isSet, ok⟩
    rw [getSshPath_eq] at ok
    split at ok
    · rename_i element found
      obtain ⟨stops, before, after, same, earlier⟩ := List.find?_eq_some_iff_append.mp found
      refine ⟨pathEnv, before, element, after, isSet, same,
        fun other member => by simpa using earlier other member, ?_⟩
      rcases (stops_iff element).mp (of_decide_eq_true stops) with qualifies | ⟨thrown, throws⟩
      · have isThere : isSsh settings.pathExists (sshIn element) = .ok true := qualifies
        simp only [isThere, Except.map, Except.ok.injEq] at ok
        exact ⟨qualifies, ok⟩
      · rw [throws] at ok
        cases ok
    · cases ok

theorem newConn_ok_iff {address : String} (named : address ≠ "") (conn : SshConnInterface) :
    newConn settings address = .ok (.ok conn) ↔ settings.Connects address conn := by
  have isNamed : ¬address.isEmpty = true := by simpa using named
  unfold newConn
  rw [if_neg isNamed]
  by_cases bySsh : settings.BySsh
  · have isSsh := bySsh
    unfold BySsh at bySsh
    rw [bySsh]
    constructor
    · intro ok
      cases isSet : settings.pathEnv with
      | none => rw [isSet] at ok; cases ok
      | some pathEnv =>
          rw [isSet] at ok
          cases found : getSshPath settings.pathExists pathEnv with
          | error thrown =>
              simp only [kStringToConnectionTypeMap, found] at ok
              cases ok
          | ok sshBin =>
              simp only [kStringToConnectionTypeMap, found] at ok
              cases sshBin with
              | error status => cases ok
              | ok binary =>
                  cases ok
                  exact ⟨isSsh, rfl, rfl, rfl, (findsBinary_iff _).mpr ⟨pathEnv, isSet, found⟩⟩
    · intro connects
      obtain ⟨pathEnv, isSet, found⟩ := (findsBinary_iff _).mp connects.binary
      simp only [kStringToConnectionTypeMap, isSet, found]
      rw [← connects.address, ← connects.key, ← connects.tunnel]
      rfl
  · have absent : kStringToConnectionTypeMap.lookup
        (String.ofList (asciiStrToLower settings.miConnectionType.toList)) = none := by
      rw [kStringToConnectionTypeMap, List.lookup_cons, beq_eq_false_iff_ne.mpr bySsh]
      rfl
    dsimp only
    rw [absent]
    exact ⟨fun ok => (by cases ok), fun connects => absurd connects.bySsh bySsh⟩

theorem exists_connects_iff (address : String) :
    (∃ conn, settings.Connects address conn) ↔
      settings.BySsh ∧ ∃ binary, settings.FindsBinary binary := by
  constructor
  · rintro ⟨conn, connects⟩
    exact ⟨connects.bySsh, conn.sshBinPath, connects.binary⟩
  · rintro ⟨bySsh, binary, found⟩
    exact ⟨{
      nodeSpec := { address }
      sshKeyPath := settings.remoteSshKeyPath
      sshTunnelFilePath := settings.remoteSshTunnelFilePath
      sshBinPath := binary }, bySsh, rfl, rfl, rfl, found⟩

/-- A failure where NewConn does not return. -/
def fallback (settings : ConnSettings) (address : String) : StatusOr SshConnInterface :=
  match newConn settings address with
  | .ok answer => answer
  | .error _ => .error ⟨.unknown, ""⟩

theorem givenBy_fallback : settings.GivenBy settings.fallback := by
  intro address answer returned
  rw [fallback, returned]

theorem fallback_ok_iff {address : String} (named : address ≠ "") (conn : SshConnInterface) :
    settings.fallback address = .ok conn ↔ settings.Connects address conn := by
  rw [← newConn_ok_iff named, fallback]
  cases newConn settings address with
  | error interruption => exact ⟨fun ok => (by cases ok), fun ok => (by cases ok)⟩
  | ok answer => exact ⟨congrArg Except.ok, Except.ok.inj⟩

/-- The adapter is that of the host at the address. -/
structure Adapts (settings : ConnSettings) (address : String) (hostAdapter : HostAdapter) :
    Prop where
  localHost : address = "" → hostAdapter = .localHost
  remote : address ≠ "" → ∃ conn, hostAdapter = .remote conn ∧ settings.Connects address conn

theorem hostBackend_create_of_adapts {connect : String → StatusOr SshConnInterface}
    (given : settings.GivenBy connect) {config : EntityConfiguration} {hostAdapter : HostAdapter}
    (adapts : settings.Adapts config.hostAddress hostAdapter) :
    HostBackend.create connect config = .ok { config, hostAdapter } := by
  unfold HostBackend.create
  by_cases named : config.hostAddress = ""
  · rw [if_neg (by simp [named]), adapts.localHost named]
  · obtain ⟨conn, rfl, connects⟩ := adapts.remote named
    rw [if_pos (by simpa using named), given _ _ ((newConn_ok_iff named conn).mpr connects)]
    rfl

theorem hostBackend_create_ok_iff (config : EntityConfiguration) (backend : HostBackend) :
    HostBackend.create settings.fallback config = .ok backend ↔
      ∃ hostAdapter, settings.Adapts config.hostAddress hostAdapter ∧
        { config, hostAdapter } = backend := by
  constructor
  · intro ok
    unfold HostBackend.create at ok
    by_cases named : config.hostAddress = ""
    · rw [if_neg (by simp [named])] at ok
      exact ⟨.localHost, ⟨fun _ => rfl, fun other => absurd named other⟩, Except.ok.inj ok⟩
    · rw [if_pos (by simpa using named)] at ok
      cases made : settings.fallback config.hostAddress with
      | error status => rw [made] at ok; cases ok
      | ok conn =>
          rw [made] at ok
          have connects := (fallback_ok_iff named conn).mp made
          exact ⟨.remote conn, ⟨fun empty => absurd empty named, fun _ => ⟨conn, rfl, connects⟩⟩,
            Except.ok.inj ok⟩
  · rintro ⟨hostAdapter, adapts, rfl⟩
    exact hostBackend_create_of_adapts givenBy_fallback adapts

theorem exists_adapts_iff (address : String) :
    (∃ hostAdapter, settings.Adapts address hostAdapter) ↔ settings.Serves address := by
  unfold Serves
  rw [← exists_connects_iff address]
  constructor
  · rintro ⟨hostAdapter, adapts⟩ named
    obtain ⟨conn, -, connects⟩ := adapts.remote named
    exact ⟨conn, connects⟩
  · intro serves
    by_cases named : address = ""
    · exact ⟨.localHost, fun _ => rfl, fun other => absurd named other⟩
    · obtain ⟨conn, connects⟩ := serves named
      exact ⟨.remote conn, fun empty => absurd empty named, fun _ => ⟨conn, rfl, connects⟩⟩

end ConnSettings

/-- The client works on the host that its configuration names, by one adapter for its backend and
for itself. -/
structure ReachesHost (settings : ConnSettings) (config : EntityConfiguration)
    (client : NodeClient HostBackend) : Prop where
  ofConfig : client.config = config
  adapts : settings.Adapts config.hostAddress client.hostAdapter
  backend : client.backends.lookup .host =
    some { config, hostAdapter := client.hostAdapter }

theorem reachesHost_of_served {settings : ConnSettings} {config : EntityConfiguration}
    {client : NodeClient HostBackend} (served : ServedByHost settings.fallback config client) :
    ReachesHost settings config client := by
  obtain ⟨-, -, backend, created, rfl⟩ := served
  obtain ⟨hostAdapter, adapts, rfl⟩ := (ConnSettings.hostBackend_create_ok_iff _ _).mp created
  exact ⟨rfl, adapts, AList.lookup_insert _⟩

theorem exists_served_iff (settings : ConnSettings) (config : EntityConfiguration) :
    (∃ client, ServedByHost settings.fallback config client) ↔
      config.defaultBackend = .host ∧ (∀ backendType ∈ config.methodBackends, backendType = .host) ∧
        settings.Serves config.hostAddress := by
  rw [← ConnSettings.exists_adapts_iff]
  constructor
  · rintro ⟨client, isHost, all, backend, created, -⟩
    obtain ⟨hostAdapter, adapts, -⟩ := (ConnSettings.hostBackend_create_ok_iff _ _).mp created
    exact ⟨isHost, all, hostAdapter, adapts⟩
  · rintro ⟨isHost, all, hostAdapter, adapts⟩
    have created := (ConnSettings.hostBackend_create_ok_iff config _).mpr
      ⟨hostAdapter, adapts, rfl⟩
    exact ⟨_, isHost, all, _, created, rfl⟩

theorem served_of_given {settings : ConnSettings} {connect : String → StatusOr SshConnInterface}
    (given : settings.GivenBy connect) {config : EntityConfiguration}
    {client : NodeClient HostBackend} (served : ServedByHost settings.fallback config client) :
    ServedByHost connect config client := by
  obtain ⟨isHost, all, backend, created, rfl⟩ := served
  obtain ⟨hostAdapter, adapts, rfl⟩ := (ConnSettings.hostBackend_create_ok_iff _ _).mp created
  exact ⟨isHost, all, _, ConnSettings.hostBackend_create_of_adapts given adapts, rfl⟩

/-- To make the clients without a call that does not return is to make them with failures there. -/
theorem createsClients_iff {files : JsonFiles (List EntityConfiguration)} {flags : Flags}
    {settings : ConnSettings} {configs : List EntityConfiguration}
    (loaded : loadConfigs files flags = .ok configs) (clients : List (NodeClient HostBackend)) :
    settings.CreatesClients files flags clients ↔
      List.Forall₂ (ServedByHost settings.fallback) configs clients := by
  have each (connect : String → StatusOr SshConnInterface) :
      NodeClient.createClients files flags connect = .ok clients ↔
        List.Forall₂ (ServedByHost connect) configs clients := by
    rw [createClients_eq_mapM connect loaded, Traversal.mapM_ok_iff]
    simp only [create_ok_iff]
  constructor
  · intro creates
    exact (each _).mp (creates _ ConnSettings.givenBy_fallback)
  · intro served connect given
    exact (each connect).mpr (served.imp fun config client => served_of_given given)

/-- With the connections of the factory there are clients exactly when every configuration uses the
host backend alone and its host can be served, and each client reaches the host it is for. -/
theorem clients_reach_hosts (files : JsonFiles (List EntityConfiguration)) (flags : Flags)
    (settings : ConnSettings) (configs : List EntityConfiguration)
    (loaded : loadConfigs files flags = .ok configs) :
    ((∃ clients, settings.CreatesClients files flags clients) ↔
      ∀ config ∈ configs, config.defaultBackend = .host ∧
        (∀ backendType ∈ config.methodBackends, backendType = .host) ∧
        settings.Serves config.hostAddress) ∧
    ∀ clients, settings.CreatesClients files flags clients →
      List.Forall₂ (ReachesHost settings) configs clients := by
  simp only [createsClients_iff loaded]
  refine ⟨?_, fun clients served => served.imp fun config client => reachesHost_of_served⟩
  simp only [← exists_served_iff]
  exact Traversal.exists_forall₂_iff configs

def dutSettings : ConnSettings where
  pathEnv := some "/usr/bin:/bin"
  pathExists path := .ok (path == "/usr/bin/ssh")

/-- No file can be opened. -/
def noFiles : JsonFiles (List EntityConfiguration) where
  contents _ := none
  jsonToBinary _ := .error ⟨.invalidArgument, ""⟩
  mergeFromString configs _ := (false, configs)

/-- The settings have one connection to a host. -/
theorem dut_connects {address : String} {conn : SshConnInterface}
    (connects : dutSettings.Connects address conn) :
    conn = { nodeSpec := { address }, sshBinPath := "/usr/bin/ssh" } := by
  obtain ⟨pathEnv, isSet, found⟩ := (ConnSettings.findsBinary_iff _).mp connects.binary
  cases isSet
  rw [getSshPath_eq] at found
  obtain ⟨⟨named⟩, keyPath, tunnelPath, binary⟩ := conn
  obtain rfl : named = address := connects.address
  obtain rfl : keyPath = "" := connects.key
  obtain rfl : tunnelPath = "" := connects.tunnel
  obtain rfl : "/usr/bin/ssh" = binary := Except.ok.inj (Except.ok.inj found)
  rfl

/-- One client, with an ssh connection to the host that the flag names. -/
theorem clients_reach_hosts_dut :
    ∃ client, dutSettings.CreatesClients noFiles { targetAddress := "dut" } [client] ∧
      client.config = dutConfig ∧
      client.hostAdapter = .remote { nodeSpec := ⟨"dut"⟩, sshBinPath := "/usr/bin/ssh" } := by
  obtain ⟨created, reach⟩ := clients_reach_hosts noFiles { targetAddress := "dut" } dutSettings
    [dutConfig] rfl
  have served : dutSettings.Serves "dut" := fun _ => ⟨rfl, "/usr/bin/ssh", "/usr/bin:/bin", [],
    "/usr/bin".toList, [], rfl, by decide, by decide, by decide, by decide⟩
  obtain ⟨clients, isCreated⟩ := created.mpr fun config member => by
    obtain rfl := List.mem_singleton.mp member
    exact ⟨rfl, by decide, served⟩
  obtain ⟨client, others, reaches, rest, rfl⟩ :=
    List.forall₂_cons_left_iff.mp (reach clients isCreated)
  obtain rfl := List.forall₂_nil_left_iff.mp rest
  obtain ⟨conn, isRemote, connects⟩ := reaches.adapts.remote (by decide)
  refine ⟨client, isCreated, reaches.ofConfig, ?_⟩
  rw [isRemote, dut_connects connects]
  rfl

end OcpDiag.HwInterface
