import OcpDiag.HwInterface.HostAdapter
import OcpDiag.HwInterface.NodeOverrides

set_option autoImplicit false

/- The configurations of the nodes: the JSON file, and the flags that override it. -/
namespace OcpDiag.HwInterface

/-- What the file system and the protobuf library do. A file that cannot be opened has no
contents. -/
structure JsonFiles (μ : Type) where
  contents : String → Option String
  jsonToBinary : String → StatusOr String
  /-- MergeFromString: whether it has succeeded, and the message afterwards. -/
  mergeFromString : μ → String → Bool × μ

section Json

variable {μ : Type} (files : JsonFiles μ)

/-- CombineFromJsonStream, with the output message afterwards. An empty stream is not parsed. -/
def combineFromJsonStream (cleared : μ) (jsonStream : String) (output : μ) (overwrite : Bool) :
    StatusOr Unit × μ :=
  let merge (output : μ) (binaryProto : String) : StatusOr Unit × μ :=
    match files.mergeFromString output binaryProto with
    | (true, output) => (.ok (), output)
    | (false, output) =>
        (.error ⟨.internal, "JSON transcoder produced invalid protobuf output."⟩, output)
  if !jsonStream.isEmpty then
    match files.jsonToBinary jsonStream with
    | .error jsonParsed => (.error jsonParsed, output)
    | .ok binaryProto => merge (if overwrite then cleared else output) binaryProto
  else merge output ""

def jsonFileToMessage (cleared : μ) (filePath : String) (output : μ) : StatusOr Unit × μ :=
  match files.contents filePath with
  | none => (.error ⟨.notFound, "Failed to open defaults file: " ++ filePath⟩, output)
  | some defaultsStream => combineFromJsonStream files cleared defaultsStream output true

end Json

/-- The flags of the hardware interface. hwinterface_proxy is left out: its type has one value,
with which ApplySingleNodeOverride does nothing. -/
structure Flags where
  mhiConfig : List NodeOverride := []
  configFilePath : String := ""
  targetAddress : String := ""
  targetPort : Int := 0
  redfishAuthMethod : AuthMethod := .default
  redfishCachePolicy : Option RedfishCachePolicy := none
  redfishQueryOverrides : Option RedfishQueryOverrides := none
  defaultBackend : BackendType := .unknown
  deriving DecidableEq, Repr

/-- The backend of the flag, or else that of the configuration, or else HOST. -/
def Flags.backendFor (flags : Flags) (config : EntityConfiguration) : BackendType :=
  if flags.defaultBackend = .unknown then
    if config.defaultBackend ≠ .unknown then config.defaultBackend else .host
  else flags.defaultBackend

/-- `node_override` as ApplySingleNodeOverride fills it. -/
def Flags.nodeOverride (flags : Flags) (config : EntityConfiguration) : NodeOverride where
  backend := flags.backendFor config
  targetAddress := flags.targetAddress
  port := flags.targetPort
  redfishAuthMethod := flags.redfishAuthMethod
  redfishCachePolicy := flags.redfishCachePolicy
  redfishQueryOverrides := flags.redfishQueryOverrides

/-- The only configuration, or the first one. -/
def Flags.settle (flags : Flags) (config : EntityConfiguration) : EntityConfiguration :=
  let nodeOverride := flags.nodeOverride config
  if isOobBackend nodeOverride.backend then applyOobOverride config nodeOverride
  else applyIbOverride config nodeOverride

def applySingleNodeOverride (flags : Flags) (configs : List EntityConfiguration) :
    List EntityConfiguration :=
  match configs with
  | [] => [flags.settle {}]
  | config :: others => flags.settle config :: others

/-- What LoadConfigs has before it applies any override. -/
def fileConfigs (files : JsonFiles (List EntityConfiguration)) (flags : Flags) :
    StatusOr (List EntityConfiguration) :=
  if !flags.configFilePath.isEmpty then
    match jsonFileToMessage files [] (cString flags.configFilePath) [] with
    | (.error configFileStatus, _) => .error configFileStatus
    | (.ok (), configs) => .ok configs
  else .ok []

def loadConfigs (files : JsonFiles (List EntityConfiguration)) (flags : Flags) :
    StatusOr (List EntityConfiguration) := do
  let configs ← fileConfigs files flags
  let configs ← applyMultiNodeOverrides flags.mhiConfig configs
  if !flags.mhiConfig.isEmpty then return configs
  else if configs.length ≠ 0 ∧ configs.length ≠ 1 then return configs
  else return applySingleNodeOverride flags configs

def loadConfig (files : JsonFiles (List EntityConfiguration)) (flags : Flags) :
    StatusOr EntityConfiguration := do
  match ← loadConfigs files flags with
  | [config] => return config
  | _ => .error ⟨.internal, "Zero or more than one node entities are defined"⟩

/-- A change of the redfish options that may not be given, and then changes nothing. -/
structure RedfishChange where
  given : Bool
  modify : RedfishConfigOptions → RedfishConfigOptions
  idle : given = false → modify = id

namespace RedfishChange

def apply (change : RedfishChange) (config : EntityConfiguration) : EntityConfiguration :=
  if change.given then config.modifyRedfish change.modify else config

/-- One change and then another. -/
def andThen (first second : RedfishChange) : RedfishChange where
  given := first.given || second.given
  modify := second.modify ∘ first.modify
  idle := by
    intro neither
    rw [Bool.or_eq_false_iff] at neither
    rw [first.idle neither.1, second.idle neither.2, Function.comp_id]

theorem apply_andThen (first second : RedfishChange) (config : EntityConfiguration) :
    (first.andThen second).apply config = second.apply (first.apply config) := by
  obtain ⟨given, modify, idle⟩ := first
  obtain ⟨givenNext, next, idleNext⟩ := second
  cases given with
  | false =>
      obtain rfl := idle rfl
      cases givenNext <;> rfl
  | true =>
      cases givenNext with
      | false =>
          obtain rfl := idleNext rfl
          rfl
      | true => rfl

theorem apply_of_given {change : RedfishChange} (given : change.given = true)
    (config : EntityConfiguration) : change.apply config = config.modifyRedfish change.modify :=
  if_pos given

theorem apply_of_not_given {change : RedfishChange} (absent : change.given = false)
    (config : EntityConfiguration) : change.apply config = config := by
  rw [apply, absent]
  rfl

/-- What a change does to the options of a configuration. -/
theorem apply_redfishOptions (change : RedfishChange) (config : EntityConfiguration) :
    (change.apply config).redfishOptions = change.modify config.redfishOptions := by
  cases given : change.given with
  | true =>
      rw [apply_of_given given]
      rfl
  | false =>
      rw [apply_of_not_given given, change.idle given]
      rfl

theorem apply_frame (change : RedfishChange) (config : EntityConfiguration) :
    (change.apply config).entity = config.entity ∧
      (change.apply config).methodConfigurations = config.methodConfigurations ∧
      (change.apply config).defaultBackend = config.defaultBackend := by
  unfold apply
  split <;> exact ⟨rfl, rfl, rfl⟩

/-- A change that does no more the second time. -/
theorem apply_apply (change : RedfishChange)
    (again : ∀ options, change.modify (change.modify options) = change.modify options)
    (config : EntityConfiguration) :
    change.apply (change.apply config) = change.apply config := by
  obtain ⟨given, modify, idle⟩ := change
  cases given with
  | false => rfl
  | true => exact congrArg config.modifyRedfish (funext again)

end RedfishChange

namespace NodeOverride

variable (nodeOverride : NodeOverride)

def portChange : RedfishChange where
  given := nodeOverride.port ≠ 0
  modify options :=
    { options with port := if nodeOverride.port ≠ 0 then nodeOverride.port else options.port }
  idle absent := by
    simp only [of_decide_eq_false absent, if_false]
    rfl

def addressChange : RedfishChange where
  given := !nodeOverride.targetAddress.isEmpty
  modify options :=
    { options with
      targetAddress :=
        if !nodeOverride.targetAddress.isEmpty then nodeOverride.targetAddress
        else options.targetAddress }
  idle absent := by
    simp only [absent, Bool.false_eq_true, if_false]
    rfl

def methodChange : RedfishChange where
  given := nodeOverride.redfishAuthMethod ≠ .default
  modify options :=
    { options with
      authMethod :=
        if nodeOverride.redfishAuthMethod ≠ .default then nodeOverride.redfishAuthMethod
        else options.authMethod }
  idle absent := by
    simp only [of_decide_eq_false absent, if_false]
    rfl

/-- The cache policy afterwards. -/
def cachePolicy (before : Option RedfishCachePolicy) : Option RedfishCachePolicy :=
  match nodeOverride.redfishCachePolicy with
  | some .noCache => some .noCache
  | some (.timeBasedCache duration) => some (setCacheSeconds before duration.seconds)
  | some .unset | none => before

def cacheChange : RedfishChange where
  given := nodeOverride.redfishCachePolicy.any (· ≠ .unset)
  modify options :=
    { options with redfishCachePolicy := nodeOverride.cachePolicy options.redfishCachePolicy }
  idle absent := by
    unfold cachePolicy
    cases policy : nodeOverride.redfishCachePolicy with
    | none => rfl
    | some found =>
        cases found with
        | unset => rfl
        | noCache => simp [policy] at absent
        | timeBasedCache duration => simp [policy] at absent

def queriesChange : RedfishChange where
  given := nodeOverride.redfishQueryOverrides.isSome
  modify options :=
    { options with
      redfishQueryOverrides :=
        nodeOverride.redfishQueryOverrides.or options.redfishQueryOverrides }
  idle absent := by
    rw [Option.isSome_eq_false_iff, Option.isNone_iff_eq_none] at absent
    simp only [absent, Option.none_or]
    rfl

/-- Everything that the override has for the redfish options. -/
def redfishChange : RedfishChange :=
  nodeOverride.portChange.andThen nodeOverride.addressChange |>.andThen nodeOverride.methodChange
    |>.andThen nodeOverride.cacheChange |>.andThen nodeOverride.queriesChange

theorem ite_eq_apply (change : RedfishChange) {given : Prop} [Decidable given]
    {modify : RedfishConfigOptions → RedfishConfigOptions} (same : change.given = decide given)
    (modifies : given → modify = change.modify) (config : EntityConfiguration) :
    (if given then config.modifyRedfish modify else config) = change.apply config := by
  by_cases holds : given
  · rw [if_pos holds, modifies holds, change.apply_of_given (same.trans (decide_eq_true holds))]
  · rw [if_neg holds, change.apply_of_not_given (same.trans (decide_eq_false holds))]

theorem port_eq (config : EntityConfiguration) :
    (if nodeOverride.port ≠ 0 then
      config.modifyRedfish fun options => { options with port := nodeOverride.port }
      else config) = nodeOverride.portChange.apply config := by
  refine ite_eq_apply nodeOverride.portChange rfl (fun given => ?_) config
  simp only [portChange, if_pos given]

theorem address_eq (config : EntityConfiguration) :
    (if !nodeOverride.targetAddress.isEmpty then
      config.modifyRedfish fun options =>
        { options with targetAddress := nodeOverride.targetAddress }
      else config) = nodeOverride.addressChange.apply config := by
  refine ite_eq_apply nodeOverride.addressChange Bool.decide_eq_true.symm (fun given => ?_) config
  funext options
  exact congrArg (fun address => { options with targetAddress := address }) (if_pos given).symm

theorem method_eq (config : EntityConfiguration) :
    (if nodeOverride.redfishAuthMethod ≠ .default then
      config.modifyRedfish fun options =>
        { options with authMethod := nodeOverride.redfishAuthMethod }
      else config) = nodeOverride.methodChange.apply config := by
  refine ite_eq_apply nodeOverride.methodChange rfl (fun given => ?_) config
  simp only [methodChange, if_pos given]

end NodeOverride

/-- An override for REDFISH is its backend and one change of the options. -/
theorem applyOobOverride_eq (config : EntityConfiguration) (nodeOverride : NodeOverride)
    (redfish : nodeOverride.backend = .redfish) :
    applyOobOverride config nodeOverride =
      nodeOverride.redfishChange.apply { config with defaultBackend := .redfish } := by
  unfold applyOobOverride NodeOverride.redfishChange
  simp only [redfish, if_true, nodeOverride.port_eq, nodeOverride.address_eq,
    nodeOverride.method_eq, RedfishChange.apply_andThen]
  generalize nodeOverride.methodChange.apply _ = changed
  rcases policy : nodeOverride.redfishCachePolicy with _ | _ | _ | duration <;>
    rcases queries : nodeOverride.redfishQueryOverrides with _ | queryOverrides <;>
    simp [RedfishChange.apply, NodeOverride.cacheChange, NodeOverride.queriesChange,
      NodeOverride.cachePolicy, policy, queries]

variable (flags : Flags)

/-- The options with each flag that is set in place of its field. -/
def Flags.overrideOptions (options : RedfishConfigOptions) : RedfishConfigOptions where
  targetAddress := if flags.targetAddress = "" then options.targetAddress else flags.targetAddress
  port := if flags.targetPort = 0 then options.port else flags.targetPort
  authMethod :=
    if flags.redfishAuthMethod = .default then options.authMethod else flags.redfishAuthMethod
  redfishCachePolicy :=
    match flags.redfishCachePolicy with
    | some .noCache => some .noCache
    | some (.timeBasedCache duration) =>
        some (setCacheSeconds options.redfishCachePolicy duration.seconds)
    | some .unset | none => options.redfishCachePolicy
  redfishQueryOverrides := flags.redfishQueryOverrides.or options.redfishQueryOverrides

/-- What the flags make of a configuration. The target address goes to the management controller
for REDFISH, and to the host for every other backend; nothing else of the other one changes. -/
structure Overridden (flags : Flags) (before after : EntityConfiguration) : Prop where
  defaultBackend : after.defaultBackend = flags.backendFor before
  known : after.defaultBackend ≠ .unknown
  methodConfigurations : after.methodConfigurations = before.methodConfigurations
  hostAddress : after.hostAddress =
    if flags.backendFor before ≠ .redfish ∧ flags.targetAddress ≠ "" then flags.targetAddress
    else before.hostAddress
  redfishOptions : after.redfishOptions =
    if flags.backendFor before = .redfish then flags.overrideOptions before.redfishOptions
    else before.redfishOptions

theorem backendFor_known (config : EntityConfiguration) : flags.backendFor config ≠ .unknown := by
  unfold Flags.backendFor
  split
  · split
    · assumption
    · decide
  · assumption

/-- The options are those of the override. -/
theorem redfishChange_modify (config : EntityConfiguration) (options : RedfishConfigOptions) :
    (flags.nodeOverride config).redfishChange.modify options = flags.overrideOptions options := by
  have address : (if !flags.targetAddress.isEmpty then flags.targetAddress
      else options.targetAddress) =
      if flags.targetAddress = "" then options.targetAddress else flags.targetAddress := by
    by_cases empty : flags.targetAddress = "" <;> simp [empty]
  have port : (if flags.targetPort ≠ 0 then flags.targetPort else options.port) =
      if flags.targetPort = 0 then options.port else flags.targetPort := ite_not ..
  have method : (if flags.redfishAuthMethod ≠ .default then flags.redfishAuthMethod
      else options.authMethod) =
      if flags.redfishAuthMethod = .default then options.authMethod
      else flags.redfishAuthMethod := ite_not ..
  unfold Flags.overrideOptions
  rw [← address, ← port, ← method]
  rfl

theorem overrideOptions_twice (options : RedfishConfigOptions) :
    flags.overrideOptions (flags.overrideOptions options) = flags.overrideOptions options := by
  have cache : ∀ before : Option RedfishCachePolicy, ∀ seconds,
      setCacheSeconds (some (setCacheSeconds before seconds)) seconds =
        setCacheSeconds before seconds := by
    intro before seconds
    rcases before with _ | _ | _ | duration <;> rfl
  have queries : flags.redfishQueryOverrides.or
      (flags.redfishQueryOverrides.or options.redfishQueryOverrides) =
      flags.redfishQueryOverrides.or options.redfishQueryOverrides := by
    cases flags.redfishQueryOverrides <;> rfl
  unfold Flags.overrideOptions
  simp only [queries]
  congr 1
  · split <;> rfl
  · split <;> rfl
  · split <;> rfl
  · rcases flags.redfishCachePolicy with _ | _ | _ | duration
    · rfl
    · rfl
    · rfl
    · exact congrArg some (cache _ _)

theorem settle_redfish {config : EntityConfiguration}
    (redfish : flags.backendFor config = .redfish) :
    flags.settle config =
      (flags.nodeOverride config).redfishChange.apply
        { config with defaultBackend := .redfish } := by
  have oob : isOobBackend (flags.nodeOverride config).backend = true := decide_eq_true redfish
  unfold Flags.settle
  rw [if_pos oob]
  exact applyOobOverride_eq config _ redfish

theorem settle_inBand {config : EntityConfiguration} (inBand : flags.backendFor config ≠ .redfish) :
    flags.settle config = applyIbOverride config (flags.nodeOverride config) :=
  if_neg (fun oob => inBand (of_decide_eq_true oob))

theorem applyIbOverride_hostAddress (config : EntityConfiguration) (nodeOverride : NodeOverride) :
    (applyIbOverride config nodeOverride).hostAddress =
      if nodeOverride.targetAddress ≠ "" then nodeOverride.targetAddress
      else config.hostAddress := by
  unfold applyIbOverride
  by_cases empty : nodeOverride.targetAddress = ""
  · simp [empty, EntityConfiguration.hostAddress]
  · simp [empty, EntityConfiguration.hostAddress, EntityConfiguration.setHostAddress]

theorem settle_fields (config : EntityConfiguration) :
    Overridden flags config (flags.settle config) := by
  by_cases redfish : flags.backendFor config = .redfish
  · rw [settle_redfish flags redfish]
    obtain ⟨entity, methods, backend⟩ := (flags.nodeOverride config).redfishChange.apply_frame
      { config with defaultBackend := .redfish }
    constructor
    · exact backend.trans redfish.symm
    · rw [backend]
      exact (by decide : BackendType.redfish ≠ .unknown)
    · exact methods
    · rw [if_neg (fun both => both.1 redfish)]
      exact congrArg (fun entity => (Option.getD entity {}).hostAddress) entity
    · rw [if_pos redfish, RedfishChange.apply_redfishOptions]
      exact redfishChange_modify flags config _
  · rw [settle_inBand flags redfish]
    constructor
    · rfl
    · exact backendFor_known flags config
    · unfold applyIbOverride
      split <;> rfl
    · rw [applyIbOverride_hostAddress]
      simp only [redfish, ne_eq, not_false_eq_true, true_and]
      rfl
    · rw [if_neg redfish]
      unfold applyIbOverride
      split <;> rfl

/-- A backend that has been settled is found again. -/
theorem backendFor_settle (config : EntityConfiguration) :
    flags.backendFor (flags.settle config) = flags.backendFor config := by
  obtain ⟨backend, known, -, -, -⟩ := settle_fields flags config
  unfold Flags.backendFor
  rw [if_pos known, backend]
  unfold Flags.backendFor
  split <;> rfl

theorem nodeOverride_settle (config : EntityConfiguration) :
    flags.nodeOverride (flags.settle config) = flags.nodeOverride config := by
  unfold Flags.nodeOverride
  rw [backendFor_settle]

theorem applyIbOverride_twice (config : EntityConfiguration) (nodeOverride : NodeOverride) :
    applyIbOverride (applyIbOverride config nodeOverride) nodeOverride =
      applyIbOverride config nodeOverride := by
  unfold applyIbOverride
  split <;> rfl

theorem setDefaultBackend_self {config : EntityConfiguration} {backend : BackendType}
    (same : config.defaultBackend = backend) :
    { config with defaultBackend := backend } = config := by
  subst same
  rfl

theorem settle_settle (config : EntityConfiguration) :
    flags.settle (flags.settle config) = flags.settle config := by
  have again := backendFor_settle flags config
  by_cases redfish : flags.backendFor config = .redfish
  · rw [settle_redfish flags (again.trans redfish), nodeOverride_settle,
      settle_redfish flags redfish]
    generalize isChange : (flags.nodeOverride config).redfishChange = change
    obtain ⟨-, -, backend⟩ := change.apply_frame { config with defaultBackend := .redfish }
    rw [setDefaultBackend_self backend]
    refine change.apply_apply (fun options => ?_) _
    rw [← isChange]
    simp only [redfishChange_modify, overrideOptions_twice]
  · rw [settle_inBand flags (again.symm ▸ redfish), nodeOverride_settle,
      settle_inBand flags redfish, applyIbOverride_twice]

/-- The flags override the file field by field, and once is enough. -/
theorem settle_overridden (flags : Flags) (config : EntityConfiguration) :
    Overridden flags config (flags.settle config) ∧
      flags.settle (flags.settle config) = flags.settle config :=
  ⟨settle_fields flags config, settle_settle flags config⟩

variable (files : JsonFiles (List EntityConfiguration))

theorem step_ne_nil (configs : List EntityConfiguration) (nodeOverride : NodeOverride) :
    nodeActions.step configs nodeOverride ≠ [] := by
  cases configs with
  | nil => exact List.cons_ne_nil _ _
  | cons config rest => exact List.cons_ne_nil _ _

theorem overrides_ne_nil {mhiConfig : List NodeOverride} (given : mhiConfig ≠ [])
    (configs : List EntityConfiguration) : mhiConfig.foldl nodeActions.step configs ≠ [] := by
  obtain ⟨earlier, last, rfl⟩ := List.eq_nil_or_concat' mhiConfig |>.resolve_left given
  rw [List.foldl_append]
  exact step_ne_nil _ last

theorem loadConfigs_error {status : Status} (failed : fileConfigs files flags = .error status) :
    loadConfigs files flags = .error status := by
  unfold loadConfigs
  rw [failed]
  rfl

variable {files flags} {configs : List EntityConfiguration}

theorem loadConfigs_multi (opened : fileConfigs files flags = .ok configs)
    (given : flags.mhiConfig ≠ []) :
    loadConfigs files flags = .ok (flags.mhiConfig.foldl nodeActions.step configs) := by
  have nonempty : (!flags.mhiConfig.isEmpty) = true := by simpa using given
  unfold loadConfigs
  simp only [opened, bind, Except.bind, applyMultiNodeOverrides_eq, nonempty, if_true]
  rfl

theorem loadConfigs_single (opened : fileConfigs files flags = .ok configs)
    (absent : flags.mhiConfig = []) :
    loadConfigs files flags =
      .ok (if 2 ≤ configs.length then configs else [flags.settle (configs.headD {})]) := by
  unfold loadConfigs
  simp only [opened, bind, Except.bind, applyMultiNodeOverrides_eq, absent, List.foldl_nil]
  rcases configs with _ | ⟨config, _ | ⟨next, rest⟩⟩
  · rfl
  · rfl
  · simp [pure, Except.pure]

theorem loadConfig_one {config : EntityConfiguration}
    (ok : loadConfigs files flags = .ok [config]) : loadConfig files flags = .ok config := by
  unfold loadConfig
  rw [ok]
  rfl

theorem loadConfig_other {loaded : List EntityConfiguration}
    (ok : loadConfigs files flags = .ok loaded) (count : loaded.length ≠ 1) :
    loadConfig files flags =
      .error ⟨.internal, "Zero or more than one node entities are defined"⟩ := by
  unfold loadConfig
  rw [ok]
  rcases loaded with _ | ⟨config, _ | ⟨next, rest⟩⟩
  · rfl
  · exact absurd rfl count
  · rfl

/-- There is always a configuration: the one that an override makes, or the one that the flags
settle. More than one are as the file has them, and the flags of a single node are not looked at;
LoadConfig is for a single node only. -/
theorem loadConfigs_exact (files : JsonFiles (List EntityConfiguration)) (flags : Flags) :
    (∀ status, fileConfigs files flags = .error status →
      loadConfigs files flags = .error status ∧ loadConfig files flags = .error status) ∧
    ∀ configs, fileConfigs files flags = .ok configs →
      ∃ loaded, loadConfigs files flags = .ok loaded ∧ loaded ≠ [] ∧
        (flags.mhiConfig ≠ [] → loaded = flags.mhiConfig.foldl nodeActions.step configs) ∧
        (flags.mhiConfig = [] → 2 ≤ configs.length → loaded = configs) ∧
        (flags.mhiConfig = [] → configs.length < 2 →
          ∃ config, loaded = [config] ∧ Overridden flags (configs.headD {}) config) ∧
        (∀ config, loaded = [config] → loadConfig files flags = .ok config) ∧
        (2 ≤ loaded.length → loadConfig files flags =
          .error ⟨.internal, "Zero or more than one node entities are defined"⟩) := by
  refine ⟨fun status failed => ?_, fun configs opened => ?_⟩
  · have alike := loadConfigs_error flags files failed
    refine ⟨alike, ?_⟩
    unfold loadConfig
    rw [alike]
    rfl
  have loads {loaded : List EntityConfiguration} (ok : loadConfigs files flags = .ok loaded) :
      (∀ config, loaded = [config] → loadConfig files flags = .ok config) ∧
        (2 ≤ loaded.length → loadConfig files flags =
          .error ⟨.internal, "Zero or more than one node entities are defined"⟩) :=
    ⟨fun config one => loadConfig_one (one ▸ ok),
      fun many => loadConfig_other ok (by omega)⟩
  by_cases absent : flags.mhiConfig = []
  · have ok := loadConfigs_single opened absent
    refine ⟨_, ok, ?_, fun given => absurd absent given, fun _ many => if_pos many,
      fun _ few => ?_, loads ok⟩
    · split
      · rename_i many
        exact List.ne_nil_of_length_pos (by omega)
      · exact List.cons_ne_nil _ _
    · exact ⟨_, if_neg (by omega), settle_fields flags _⟩
  · have ok := loadConfigs_multi opened absent
    exact ⟨_, ok, overrides_ne_nil absent configs, fun _ => rfl,
      fun nothing => absurd nothing absent, fun nothing => absurd nothing absent, loads ok⟩

end OcpDiag.HwInterface
