import OcpDiag.Lib.Runs
import OcpDiag.HwInterface.Config
import OcpDiag.HwInterface.HostAdapter

set_option autoImplicit false

/- The node client, which passes each API call on to one of its backends. -/
namespace OcpDiag.HwInterface

inductive BackendMethod where
  | unknown | getSensors | getCpuInfo | getErrors | getFanInfo | setFanPwm | getEepromInfo
  | readEeprom | getMemoryInfo | reboot | setDevicePower | getDevicePower | getHwInfo
  | getSystemInfo | getNodeInfo | memoryConvert | setFanZone | getSecurityChipInfo | getStatus
  | getEcInfo | getI2cInfo | getFirmwareInfo | getNetworkInterfaceInfo | getStorageInfo
  | getPsuInfo | getGpuInfo | getNcsiInfo | getScsiInfo | getNvLinkInfo | getBootNumber
  | getAcceleratorInfo | getPcieInfo | getUsbInfo | getUpiInfo | clearErrors
  deriving DecidableEq, Repr

/-- The number of the method, which is its key in the configuration. -/
def BackendMethod.number : BackendMethod → Int
  | .unknown => 0
  | .getSensors => 3
  | .getCpuInfo => 4
  | .getErrors => 5
  | .getFanInfo => 6
  | .setFanPwm => 7
  | .getEepromInfo => 8
  | .readEeprom => 9
  | .getMemoryInfo => 10
  | .reboot => 11
  | .setDevicePower => 37
  | .getDevicePower => 38
  | .getHwInfo => 12
  | .getSystemInfo => 13
  | .getNodeInfo => 14
  | .memoryConvert => 15
  | .setFanZone => 16
  | .getSecurityChipInfo => 17
  | .getStatus => 18
  | .getEcInfo => 19
  | .getI2cInfo => 21
  | .getFirmwareInfo => 22
  | .getNetworkInterfaceInfo => 23
  | .getStorageInfo => 24
  | .getPsuInfo => 25
  | .getGpuInfo => 26
  | .getNcsiInfo => 27
  | .getScsiInfo => 28
  | .getNvLinkInfo => 29
  | .getBootNumber => 30
  | .getAcceleratorInfo => 32
  | .getPcieInfo => 33
  | .getUsbInfo => 34
  | .getUpiInfo => 35
  | .clearErrors => 36

/-- BackendType_Name. -/
def BackendType.name : BackendType → String
  | .unknown => "BACKENDTYPE_UNKNOWN"
  | .gsys => "BACKENDTYPE_GSYS"
  | .machineManager => "BACKENDTYPE_MACHINE_MANAGER"
  | .bmcDiagnosticInterface => "BACKENDTYPE_BMC_DIAGNOSTIC_INTERFACE"
  | .redfish => "BACKENDTYPE_REDFISH"
  | .host => "BACKENDTYPE_HOST"
  | .fake => "BACKENDTYPE_FAKE"
  | .mimikRedfish => "BACKENDTYPE_MIMIK_REDFISH"
  | .unrecognized _ => ""

variable {β : Type}

/-- A builder of backends. -/
abbrev BuilderType (β : Type) : Type := EntityConfiguration → StatusOr β

/-- The map from backend types to builders, as `find` reads it. -/
abbrev BuilderResolver (β : Type) : Type := BackendType → Option (BuilderType β)

inductive HostAdapter where
  | localHost
  | remote (connection : SshConnInterface)
  deriving DecidableEq, Repr

structure NodeClient (β : Type) where
  hostAdapter : HostAdapter := .localHost
  config : EntityConfiguration
  backends : AList (fun _ : BackendType => β) := ∅

namespace NodeClient

def addBackend (client : NodeClient β) (backendType : BackendType) (builder : BuilderType β) :
    StatusOr (NodeClient β) := do
  let backend ← builder client.config
  return { client with backends := client.backends.insert backendType backend }

/-- The error names the default backend, also for the backend of a method. -/
def builderNotFound (defaultBackend : BackendType) : Status :=
  ⟨.notFound, "Unable to find builder method for backend " ++ defaultBackend.name⟩

/-- One turn of the loop over the method configurations. -/
def addMethodBackend (builderResolver : BuilderResolver β) (client : NodeClient β)
    (backendType : BackendType) : StatusOr (NodeClient β) :=
  if (client.backends.lookup backendType).isSome then .ok client
  else
    match builderResolver backendType with
    | none => .error (builderNotFound client.config.defaultBackend)
    | some builder => client.addBackend backendType builder

def createHostAdapter (newConn : String → StatusOr SshConnInterface) (address : String) :
    StatusOr HostAdapter :=
  if !address.isEmpty then (newConn address).map .remote else .ok .localHost

/-- The configuration that Create works with. -/
def chooseConfig (loadConfig : StatusOr EntityConfiguration)
    (config : Option EntityConfiguration) : StatusOr EntityConfiguration :=
  match config with
  | some config => .ok config
  | none => loadConfig

def create (loadConfig : StatusOr EntityConfiguration)
    (newConn : String → StatusOr SshConnInterface) (config : Option EntityConfiguration)
    (builderResolver : BuilderResolver β) : StatusOr (NodeClient β) := do
  let config ← chooseConfig loadConfig config
  match builderResolver config.defaultBackend with
  | none => .error (builderNotFound config.defaultBackend)
  | some builder =>
      let client ← addBackend { config } config.defaultBackend builder
      let client ← (config.methodConfigurations.entries.map (·.2)).foldlM
        (addMethodBackend builderResolver) client
      let hostAdapter ← createHostAdapter newConn config.hostAddress
      return { client with hostAdapter }

/-- `operator[]` inserts UNKNOWN for a method without an entry, `at` throws for a backend that has
not been added. -/
def selectBackend (client : NodeClient β) (method : BackendMethod) : Option β × NodeClient β :=
  let entry := (client.config.methodConfigurations.lookup method.number).getD .unknown
  let backendType := if entry = .unknown then client.config.defaultBackend else entry
  (client.backends.lookup backendType,
    { client with
      config :=
        { client.config with
          methodConfigurations :=
            client.config.methodConfigurations.insert method.number backendType } })

/-- The calls of the API: those that select a backend by their method, and those that do not. -/
inductive ApiCall where
  | dispatched (method : BackendMethod)
  | getVersion
  | config
  | getBackendAddress
  deriving DecidableEq, Repr

/-- The client after a call; a call that throws ends the run. -/
def call (client : NodeClient β) : ApiCall → Option (NodeClient β)
  | .dispatched method =>
      match client.selectBackend method with
      | (some _, next) => some next
      | (none, _) => none
  | .getVersion | .config | .getBackendAddress => some client

end NodeClient

/-- The backend type that a configuration gives a method. -/
def dispatchType (config : EntityConfiguration) (method : BackendMethod) : BackendType :=
  match config.methodConfigurations.lookup method.number with
  | some backendType => if backendType = .unknown then config.defaultBackend else backendType
  | none => config.defaultBackend

/-- The backend is what the builder of its type makes of the configuration. -/
def BuiltFor (builderResolver : BuilderResolver β) (config : EntityConfiguration)
    (backendType : BackendType) (backend : β) : Prop :=
  ∃ builder, builderResolver backendType = some builder ∧ builder config = .ok backend

/-- Every backend that has been added was built for its type. -/
def AllBuilt (builderResolver : BuilderResolver β) (config : EntityConfiguration)
    (client : NodeClient β) : Prop :=
  ∀ backendType backend, client.backends.lookup backendType = some backend →
    BuiltFor builderResolver config backendType backend

/-- What holds between the calls: the entries that the calls have written change no dispatch, and
every type that can be dispatched to has its backend. -/
structure Dispatches (builderResolver : BuilderResolver β) (config : EntityConfiguration)
    (client : NodeClient β) : Prop where
  built : AllBuilt builderResolver config client
  available : ∀ method, (client.backends.lookup (dispatchType config method)).isSome = true
  same : ∀ method, dispatchType client.config method = dispatchType config method

theorem addBackend_spec {builderResolver : BuilderResolver β} {client next : NodeClient β}
    {backendType : BackendType} {builder : BuilderType β}
    (found : builderResolver backendType = some builder)
    (built : AllBuilt builderResolver client.config client)
    (ok : client.addBackend backendType builder = .ok next) :
    AllBuilt builderResolver client.config next ∧ next.config = client.config ∧
      (next.backends.lookup backendType).isSome = true ∧
      ∀ other, (client.backends.lookup other).isSome = true →
        (next.backends.lookup other).isSome = true := by
  unfold NodeClient.addBackend at ok
  cases made : builder client.config with
  | error status => rw [made] at ok; cases ok
  | ok backend =>
      rw [made] at ok
      cases ok
      refine ⟨fun other otherBackend isBackend => ?_, rfl, ?_, fun other present => ?_⟩
      · by_cases same : other = backendType
        · subst same
          rw [AList.lookup_insert] at isBackend
          obtain rfl := Option.some.inj isBackend
          exact ⟨builder, found, made⟩
        · rw [AList.lookup_insert_ne same] at isBackend
          exact built other otherBackend isBackend
      · rw [AList.lookup_insert]
        rfl
      · by_cases same : other = backendType
        · rw [same, AList.lookup_insert]
          rfl
        · rwa [AList.lookup_insert_ne same]

theorem addMethodBackend_spec {builderResolver : BuilderResolver β} {client next : NodeClient β}
    {backendType : BackendType} (built : AllBuilt builderResolver client.config client)
    (ok : NodeClient.addMethodBackend builderResolver client backendType = .ok next) :
    AllBuilt builderResolver client.config next ∧ next.config = client.config ∧
      (next.backends.lookup backendType).isSome = true ∧
      ∀ other, (client.backends.lookup other).isSome = true →
        (next.backends.lookup other).isSome = true := by
  unfold NodeClient.addMethodBackend at ok
  split at ok
  · rename_i present
    cases ok
    exact ⟨built, rfl, present, fun _ stays => stays⟩
  · split at ok
    · cases ok
    · rename_i builder found
      exact addBackend_spec found built ok

/-- The loop adds a backend for each type of the list. -/
theorem addMethodBackends_spec {builderResolver : BuilderResolver β}
    {backendTypes : List BackendType} {client final : NodeClient β}
    (built : AllBuilt builderResolver client.config client)
    (ok : backendTypes.foldlM (NodeClient.addMethodBackend builderResolver) client = .ok final) :
    AllBuilt builderResolver client.config final ∧ final.config = client.config ∧
      (∀ backendType ∈ backendTypes, (final.backends.lookup backendType).isSome = true) ∧
      ∀ other, (client.backends.lookup other).isSome = true →
        (final.backends.lookup other).isSome = true := by
  induction backendTypes generalizing client with
  | nil =>
      cases ok
      exact ⟨built, rfl, fun _ member => absurd member List.not_mem_nil, fun _ stays => stays⟩
  | cons backendType rest ih =>
      rw [List.foldlM_cons] at ok
      cases added : NodeClient.addMethodBackend builderResolver client backendType with
      | error status => rw [added] at ok; cases ok
      | ok next =>
          rw [added] at ok
          obtain ⟨nextBuilt, sameConfig, present, stays⟩ := addMethodBackend_spec built added
          rw [← sameConfig] at nextBuilt
          obtain ⟨finalBuilt, finalConfig, each, finalStays⟩ := ih nextBuilt ok
          rw [sameConfig] at finalBuilt finalConfig
          refine ⟨finalBuilt, finalConfig, fun other member => ?_, fun other before => ?_⟩
          · rcases List.mem_cons.mp member with rfl | later
            · exact finalStays _ present
            · exact each other later
          · exact finalStays other (stays other before)

theorem dispatchType_cases (config : EntityConfiguration) (method : BackendMethod) :
    dispatchType config method = config.defaultBackend ∨
      config.methodConfigurations.lookup method.number = some (dispatchType config method) := by
  unfold dispatchType
  cases entry : config.methodConfigurations.lookup method.number with
  | none => exact Or.inl rfl
  | some backendType =>
      by_cases isUnknown : backendType = .unknown
      · exact Or.inl (if_pos isUnknown)
      · exact Or.inr (congrArg some (if_neg isUnknown).symm)

/-- A client that has been created dispatches. -/
theorem create_dispatches {loadConfig : StatusOr EntityConfiguration}
    {newConn : String → StatusOr SshConnInterface} {given : Option EntityConfiguration}
    {builderResolver : BuilderResolver β} {client : NodeClient β}
    (ok : NodeClient.create loadConfig newConn given builderResolver = .ok client) :
    ∃ config, NodeClient.chooseConfig loadConfig given = .ok config ∧
      Dispatches builderResolver config client := by
  unfold NodeClient.create at ok
  cases chosen : NodeClient.chooseConfig loadConfig given with
  | error status => rw [chosen] at ok; cases ok
  | ok config =>
      refine ⟨config, rfl, ?_⟩
      rw [chosen] at ok
      simp only [bind, Except.bind] at ok
      split at ok
      · cases ok
      rename_i builder found
      split at ok
      · cases ok
      rename_i first firstAdded
      split at ok
      · cases ok
      rename_i full allAdded
      split at ok
      · cases ok
      cases ok
      have emptyBuilt : AllBuilt builderResolver config ({ config } : NodeClient β) :=
        fun _ _ absent => by cases absent
      obtain ⟨firstBuilt, firstConfig, defaultPresent, _⟩ :=
        addBackend_spec found (by exact emptyBuilt) firstAdded
      dsimp only at firstBuilt firstConfig
      rw [← firstConfig] at firstBuilt
      obtain ⟨fullBuilt, fullConfig, methodsPresent, stays⟩ :=
        addMethodBackends_spec firstBuilt allAdded
      rw [firstConfig] at fullBuilt fullConfig
      refine ⟨fullBuilt, fun method => ?_, fun method => ?_⟩
      · rcases dispatchType_cases config method with isDefault | entry
        · rw [isDefault]
          exact stays _ defaultPresent
        · apply methodsPresent
          exact List.mem_map.mpr ⟨_, AList.mem_lookup_iff.mp entry, rfl⟩
      · change dispatchType full.config method = _
        rw [fullConfig]

/-- SelectBackend reads the map as the dispatch does. -/
theorem selectBackend_eq (client : NodeClient β) (method : BackendMethod) :
    client.selectBackend method =
      (client.backends.lookup (dispatchType client.config method),
        { client with
          config :=
            { client.config with
              methodConfigurations :=
                client.config.methodConfigurations.insert method.number
                  (dispatchType client.config method) } }) := by
  unfold NodeClient.selectBackend dispatchType
  cases client.config.methodConfigurations.lookup method.number <;> rfl

theorem number_injective {first second : BackendMethod} (same : first.number = second.number) :
    first = second := by
  cases first <;> cases second <;> first | rfl | (exact absurd same (by decide))

/-- Writing the dispatched type into the map changes no dispatch. -/
theorem dispatchType_insert (config : EntityConfiguration) (method other : BackendMethod) :
    dispatchType
        { config with
          methodConfigurations :=
            config.methodConfigurations.insert method.number (dispatchType config method) } other =
      dispatchType config other := by
  by_cases same : other = method
  · subst same
    have settled : (if dispatchType config other = .unknown then config.defaultBackend
        else dispatchType config other) = dispatchType config other := by
      split
      · rename_i isUnknown
        -- an UNKNOWN that is dispatched to can only be the default itself
        rcases dispatchType_cases config other with isDefault | entry
        · exact isDefault.symm
        · unfold dispatchType
          rw [entry, isUnknown]
          rfl
      · rfl
    rw [dispatchType, AList.lookup_insert]
    exact settled
  · have apart : other.number ≠ method.number := fun equal => same (number_injective equal)
    unfold dispatchType
    rw [AList.lookup_insert_ne apart]

theorem call_dispatches {builderResolver : BuilderResolver β} {config : EntityConfiguration}
    {client next : NodeClient β} (dispatches : Dispatches builderResolver config client)
    {apiCall : NodeClient.ApiCall} (called : client.call apiCall = some next) :
    Dispatches builderResolver config next := by
  cases apiCall with
  | dispatched method =>
      simp only [NodeClient.call, selectBackend_eq] at called
      split at called
      · rename_i selected
        cases called
        obtain rfl := (Prod.mk.inj selected).2
        refine ⟨dispatches.built, dispatches.available, fun other => ?_⟩
        exact (dispatchType_insert client.config method other).trans (dispatches.same other)
      · cases called
  | getVersion => cases called; exact dispatches
  | config => cases called; exact dispatches
  | getBackendAddress => cases called; exact dispatches

theorem selectBackend_built {builderResolver : BuilderResolver β} {config : EntityConfiguration}
    {client : NodeClient β} (dispatches : Dispatches builderResolver config client)
    (method : BackendMethod) :
    ∃ backend, (client.selectBackend method).1 = some backend ∧
      BuiltFor builderResolver config (dispatchType config method) backend := by
  rw [selectBackend_eq, dispatches.same]
  obtain ⟨backend, found⟩ := Option.isSome_iff_exists.mp (dispatches.available method)
  exact ⟨backend, found, dispatches.built _ _ found⟩

/-- No call throws. -/
theorem call_isSome {builderResolver : BuilderResolver β} {config : EntityConfiguration}
    {client : NodeClient β} (dispatches : Dispatches builderResolver config client)
    (apiCall : NodeClient.ApiCall) : ∃ next, client.call apiCall = some next := by
  cases apiCall with
  | dispatched method =>
      obtain ⟨backend, selected, _⟩ := selectBackend_built dispatches method
      cases result : client.selectBackend method with
      | mk first next =>
          rw [result] at selected
          obtain rfl : first = some backend := selected
          exact ⟨next, by rw [NodeClient.call, result]⟩
  | getVersion => exact ⟨client, rfl⟩
  | config => exact ⟨client, rfl⟩
  | getBackendAddress => exact ⟨client, rfl⟩

theorem calls_isSome {builderResolver : BuilderResolver β} {config : EntityConfiguration}
    {client : NodeClient β} (dispatches : Dispatches builderResolver config client)
    (apiCalls : List NodeClient.ApiCall) :
    ∃ final, Runs.run NodeClient.call client apiCalls = some final := by
  induction apiCalls generalizing client with
  | nil => exact ⟨client, rfl⟩
  | cons apiCall rest ih =>
      obtain ⟨next, called⟩ := call_isSome dispatches apiCall
      obtain ⟨final, ran⟩ := ih (call_dispatches dispatches called)
      exact ⟨final, by rw [Runs.run, called]; exact ran⟩

/-- After any calls, every method is dispatched as the original configuration has it. -/
theorem selectBackend_dispatches {β : Type} (loadConfig : StatusOr EntityConfiguration)
    (newConn : String → StatusOr SshConnInterface) (given : Option EntityConfiguration)
    (builderResolver : BuilderResolver β) (client : NodeClient β)
    (ok : NodeClient.create loadConfig newConn given builderResolver = .ok client) :
    ∃ config, NodeClient.chooseConfig loadConfig given = .ok config ∧
      ∀ apiCalls : List NodeClient.ApiCall,
        ∃ final, Runs.run NodeClient.call client apiCalls = some final ∧
          ∀ method, ∃ backend, (final.selectBackend method).1 = some backend ∧
            BuiltFor builderResolver config (dispatchType config method) backend := by
  obtain ⟨config, chosen, dispatches⟩ := create_dispatches ok
  refine ⟨config, chosen, fun apiCalls => ?_⟩
  obtain ⟨final, ran⟩ := calls_isSome dispatches apiCalls
  have kept : Dispatches builderResolver config final :=
    Runs.run_preserves NodeClient.call (Dispatches builderResolver config)
      (fun _ _ _ before called => call_dispatches before called) client final apiCalls
      dispatches ran
  exact ⟨final, ran, selectBackend_built kept⟩

/-- The host backend by default, and a fake one for the sensors. -/
def sampleConfig : EntityConfiguration where
  methodConfigurations := (∅ : AList (fun _ : Int => BackendType)).insert 3 .fake
  defaultBackend := .host

/-- Builders that name their backend. -/
def sampleResolver : BuilderResolver String := fun backendType =>
  some (fun _ => .ok backendType.name)

def sampleClient : NodeClient String where
  config := sampleConfig
  backends := ((∅ : AList (fun _ : BackendType => String)).insert .host "BACKENDTYPE_HOST").insert
    .fake "BACKENDTYPE_FAKE"

theorem selectBackend_dispatches_sample :
    ∃ config, NodeClient.chooseConfig (.error ⟨.notFound, ""⟩) (some sampleConfig) = .ok config ∧
      ∀ apiCalls : List NodeClient.ApiCall,
        ∃ final, Runs.run NodeClient.call sampleClient apiCalls = some final ∧
          ∀ method, ∃ backend, (final.selectBackend method).1 = some backend ∧
            BuiltFor sampleResolver config (dispatchType config method) backend :=
  selectBackend_dispatches (.error ⟨.notFound, ""⟩) (fun _ => .error ⟨.notFound, ""⟩)
    (some sampleConfig) sampleResolver sampleClient rfl

end OcpDiag.HwInterface
