import OcpDiag.Lib.Overrides
import OcpDiag.HwInterface.Config

set_option autoImplicit false

/- The overrides of the mhi_config flag, applied to the configurations of the nodes. -/
namespace OcpDiag.HwInterface

def isOobBackend (backend : BackendType) : Bool := backend = .redfish

/-- `mutable_time_based_cache()->set_seconds`, which keeps the nanoseconds of a cache that is
already time based. -/
def setCacheSeconds (policy : Option RedfishCachePolicy) (seconds : Int) : RedfishCachePolicy :=
  match policy with
  | some (.timeBasedCache duration) => .timeBasedCache { duration with seconds }
  | _ => .timeBasedCache { seconds }

def applyOobOverride (config : EntityConfiguration) (nodeOverride : NodeOverride) :
    EntityConfiguration :=
  let config := { config with defaultBackend := nodeOverride.backend }
  if config.defaultBackend = .redfish then
    let config :=
      if nodeOverride.port ≠ 0 then
        config.modifyRedfish (fun options => { options with port := nodeOverride.port })
      else config
    let config :=
      if !nodeOverride.targetAddress.isEmpty then
        config.modifyRedfish
          (fun options => { options with targetAddress := nodeOverride.targetAddress })
      else config
    let config :=
      if nodeOverride.redfishAuthMethod ≠ .default then
        config.modifyRedfish
          (fun options => { options with authMethod := nodeOverride.redfishAuthMethod })
      else config
    let config :=
      match nodeOverride.redfishCachePolicy with
      | some .noCache =>
          config.modifyRedfish
            (fun options => { options with redfishCachePolicy := some .noCache })
      | some (.timeBasedCache duration) =>
          config.modifyRedfish (fun options =>
            { options with
              redfishCachePolicy :=
                some (setCacheSeconds options.redfishCachePolicy duration.seconds) })
      | some .unset | none => config
    match nodeOverride.redfishQueryOverrides with
    | some queryOverrides =>
        config.modifyRedfish
          (fun options => { options with redfishQueryOverrides := some queryOverrides })
    | none => config
  else config

def applyIbOverride (config : EntityConfiguration) (nodeOverride : NodeOverride) :
    EntityConfiguration :=
  let config :=
    if !nodeOverride.targetAddress.isEmpty then
      config.setHostAddress nodeOverride.targetAddress
    else config
  { config with defaultBackend := nodeOverride.backend }

/-- The loop over the configurations, with whether one of them has matched. -/
def applyToMatching (isMatch : EntityConfiguration → Bool)
    (apply : EntityConfiguration → EntityConfiguration) :
    List EntityConfiguration → List EntityConfiguration × Bool
  | [] => ([], false)
  | config :: rest =>
      let (others, backendExist) := applyToMatching isMatch apply rest
      if isMatch config then (apply config :: others, true) else (config :: others, backendExist)

def applyNodeOverride (configs : List EntityConfiguration) (nodeOverride : NodeOverride) :
    StatusOr (List EntityConfiguration) :=
  if isOobBackend nodeOverride.backend then
    let (updated, backendExist) := applyToMatching
      (fun config => config.targetAddress = nodeOverride.targetAddress)
      (fun config => applyOobOverride config nodeOverride) configs
    if !backendExist then .ok (updated ++ [applyOobOverride {} nodeOverride]) else .ok updated
  else
    let (updated, backendExist) := applyToMatching
      (fun config => config.hostAddress = nodeOverride.targetAddress)
      (fun config => applyIbOverride config nodeOverride) configs
    if !backendExist then .ok (updated ++ [applyIbOverride {} nodeOverride]) else .ok updated

/-- The overrides are those of the mhi_config flag. -/
def applyMultiNodeOverrides (mhiConfig : List NodeOverride) (configs : List EntityConfiguration) :
    StatusOr (List EntityConfiguration) :=
  if mhiConfig.isEmpty then .ok configs else mhiConfig.foldlM applyNodeOverride configs

/-- What an override matches by: the kind of the address and the address. -/
structure MatchKey where
  outOfBand : Bool
  address : String
  deriving DecidableEq, Repr

def NodeOverride.matchKey (nodeOverride : NodeOverride) : MatchKey :=
  ⟨isOobBackend nodeOverride.backend, nodeOverride.targetAddress⟩

/-- REDFISH overrides match by the redfish target address, all others by the host address. -/
def MatchKey.isMatch (key : MatchKey) (config : EntityConfiguration) : Bool :=
  if key.outOfBand then config.targetAddress = key.address else config.hostAddress = key.address

def applyOverride (nodeOverride : NodeOverride) (config : EntityConfiguration) :
    EntityConfiguration :=
  if isOobBackend nodeOverride.backend then applyOobOverride config nodeOverride
  else applyIbOverride config nodeOverride

/-- The overrides as actions on the configurations. -/
def nodeActions : Overrides.Actions EntityConfiguration NodeOverride MatchKey where
  key := NodeOverride.matchKey
  isMatch := MatchKey.isMatch
  update := applyOverride
  create := fun nodeOverride => applyOverride nodeOverride {}

theorem applyToMatching_eq (isMatch : EntityConfiguration → Bool)
    (apply : EntityConfiguration → EntityConfiguration) (configs : List EntityConfiguration) :
    applyToMatching isMatch apply configs =
      (configs.map (fun config => if isMatch config then apply config else config),
        configs.any isMatch) := by
  induction configs with
  | nil => rfl
  | cons config rest ih =>
      simp only [applyToMatching, ih, List.map_cons, List.any_cons]
      cases isMatch config <;> rfl

/-- A loop of the source, with what it matches by and what it does there. -/
theorem applyToMatching_step (configs : List EntityConfiguration) (nodeOverride : NodeOverride)
    (isMatch : EntityConfiguration → Bool) (apply : EntityConfiguration → EntityConfiguration)
    (matched : ∀ config, nodeOverride.matchKey.isMatch config = isMatch config)
    (applied : ∀ config, applyOverride nodeOverride config = apply config) :
    (if !(applyToMatching isMatch apply configs).2 then
        Except.ok ((applyToMatching isMatch apply configs).1 ++ [apply {}])
      else .ok (applyToMatching isMatch apply configs).1) =
      (.ok (nodeActions.step configs nodeOverride) : StatusOr _) := by
  obtain rfl : nodeOverride.matchKey.isMatch = isMatch := funext matched
  obtain rfl : applyOverride nodeOverride = apply := funext applied
  rw [applyToMatching_eq]
  unfold Overrides.Actions.step
  change _ = Except.ok (_ ++ if configs.any nodeOverride.matchKey.isMatch then [] else
    [applyOverride nodeOverride {}])
  cases configs.any nodeOverride.matchKey.isMatch
  · rfl
  · exact congrArg Except.ok (List.append_nil _).symm

/-- The two loops of the source are one step of the actions. -/
theorem applyNodeOverride_eq (configs : List EntityConfiguration) (nodeOverride : NodeOverride) :
    applyNodeOverride configs nodeOverride = .ok (nodeActions.step configs nodeOverride) := by
  unfold applyNodeOverride
  by_cases oob : isOobBackend nodeOverride.backend = true
  · rw [if_pos oob]
    refine applyToMatching_step configs nodeOverride _ _ (fun config => ?_) (fun config => ?_)
    · rw [NodeOverride.matchKey, MatchKey.isMatch, if_pos oob]
    · rw [applyOverride, if_pos oob]
  · rw [if_neg oob]
    refine applyToMatching_step configs nodeOverride _ _ (fun config => ?_) (fun config => ?_)
    · rw [NodeOverride.matchKey, MatchKey.isMatch, if_neg oob]
    · rw [applyOverride, if_neg oob]

/-- The overrides never fail. -/
theorem applyMultiNodeOverrides_eq (mhiConfig : List NodeOverride)
    (configs : List EntityConfiguration) :
    applyMultiNodeOverrides mhiConfig configs = .ok (mhiConfig.foldl nodeActions.step configs) := by
  have loop : ∀ configs, mhiConfig.foldlM applyNodeOverride configs =
      (.ok (mhiConfig.foldl nodeActions.step configs) : StatusOr _) := by
    induction mhiConfig with
    | nil => exact fun _ => rfl
    | cons nodeOverride rest ih =>
        intro configs
        rw [List.foldlM_cons, applyNodeOverride_eq]
        exact ih _
  unfold applyMultiNodeOverrides
  split
  · rename_i empty
    rw [List.isEmpty_iff.mp empty]
    rfl
  · exact loop configs

/-- An override of the redfish options changes nothing else but the backend. -/
theorem applyOobOverride_keeps {β : Type} (view : EntityConfiguration → β)
    (keeps : ∀ (config : EntityConfiguration) (modify : RedfishConfigOptions → RedfishConfigOptions),
      view (config.modifyRedfish modify) = view config)
    (config : EntityConfiguration) (nodeOverride : NodeOverride) :
    view (applyOobOverride config nodeOverride) =
      view { config with defaultBackend := nodeOverride.backend } := by
  have setting (given : Prop) [Decidable given] (config : EntityConfiguration)
      (modify : RedfishConfigOptions → RedfishConfigOptions) :
      view (if given then config.modifyRedfish modify else config) = view config := by
    split
    · exact keeps config modify
    · rfl
  unfold applyOobOverride
  dsimp only
  split
  · rcases nodeOverride.redfishQueryOverrides with _ | queryOverrides <;>
      rcases nodeOverride.redfishCachePolicy with _ | _ | _ | duration <;>
      simp only [keeps, setting]
  · rfl

theorem applyOobOverride_hostAddress (config : EntityConfiguration) (nodeOverride : NodeOverride) :
    (applyOobOverride config nodeOverride).hostAddress = config.hostAddress :=
  applyOobOverride_keeps EntityConfiguration.hostAddress (fun _ _ => rfl) config nodeOverride

theorem applyOobOverride_targetAddress (config : EntityConfiguration)
    (nodeOverride : NodeOverride) (named : nodeOverride.targetAddress ≠ "")
    (oob : nodeOverride.backend = .redfish) :
    (applyOobOverride config nodeOverride).targetAddress = nodeOverride.targetAddress := by
  have nonempty : (!nodeOverride.targetAddress.isEmpty) = true := by simpa using named
  have method (config : EntityConfiguration) :
      (if nodeOverride.redfishAuthMethod ≠ .default then
        config.modifyRedfish
          (fun options => { options with authMethod := nodeOverride.redfishAuthMethod })
        else config).targetAddress = config.targetAddress := by
    split <;> rfl
  unfold applyOobOverride
  simp only [oob, nonempty, if_true]
  rcases nodeOverride.redfishQueryOverrides with _ | queryOverrides <;>
    rcases nodeOverride.redfishCachePolicy with _ | _ | _ | duration
  all_goals
    dsimp only
    exact method _

theorem applyOverride_defaultBackend (nodeOverride : NodeOverride) (config : EntityConfiguration) :
    (applyOverride nodeOverride config).defaultBackend = nodeOverride.backend := by
  unfold applyOverride
  split
  · exact applyOobOverride_keeps EntityConfiguration.defaultBackend (fun _ _ => rfl) config
      nodeOverride
  · rfl

theorem applyIbOverride_addresses (config : EntityConfiguration) (nodeOverride : NodeOverride)
    (named : nodeOverride.targetAddress ≠ "") :
    (applyIbOverride config nodeOverride).hostAddress = nodeOverride.targetAddress ∧
      (applyIbOverride config nodeOverride).targetAddress = config.targetAddress := by
  have nonempty : (!nodeOverride.targetAddress.isEmpty) = true := by simpa using named
  unfold applyIbOverride
  rw [if_pos nonempty]
  exact ⟨rfl, rfl⟩

/-- A matching override writes the address it has matched by, so that both addresses stay. -/
theorem applyOverride_addresses {nodeOverride : NodeOverride} {config : EntityConfiguration}
    (named : nodeOverride.targetAddress ≠ "")
    (matched : nodeOverride.matchKey.isMatch config = true) :
    (applyOverride nodeOverride config).hostAddress = config.hostAddress ∧
      (applyOverride nodeOverride config).targetAddress = config.targetAddress := by
  unfold applyOverride
  by_cases oob : isOobBackend nodeOverride.backend = true
  · have sameTarget : config.targetAddress = nodeOverride.targetAddress := by
      simpa [NodeOverride.matchKey, MatchKey.isMatch, oob] using matched
    have redfish : nodeOverride.backend = .redfish := by simpa [isOobBackend] using oob
    rw [if_pos oob, sameTarget]
    exact ⟨applyOobOverride_hostAddress config nodeOverride,
      applyOobOverride_targetAddress config nodeOverride named redfish⟩
  · have sameHost : config.hostAddress = nodeOverride.targetAddress := by
      simpa [NodeOverride.matchKey, MatchKey.isMatch, oob] using matched
    rw [if_neg oob, sameHost]
    exact applyIbOverride_addresses config nodeOverride named

/-- A new configuration has the address of its own kind only. -/
theorem created_addresses {nodeOverride : NodeOverride} (named : nodeOverride.targetAddress ≠ "") :
    (applyOverride nodeOverride {}).hostAddress =
        (if nodeOverride.matchKey.outOfBand then "" else nodeOverride.matchKey.address) ∧
      (applyOverride nodeOverride {}).targetAddress =
        (if nodeOverride.matchKey.outOfBand then nodeOverride.matchKey.address else "") := by
  unfold applyOverride NodeOverride.matchKey
  by_cases oob : isOobBackend nodeOverride.backend = true
  · have redfish : nodeOverride.backend = .redfish := by simpa [isOobBackend] using oob
    simp only [oob, if_true]
    exact ⟨applyOobOverride_hostAddress {} nodeOverride,
      applyOobOverride_targetAddress {} nodeOverride named redfish⟩
  · simp only [oob, if_false, Bool.false_eq_true]
    exact applyIbOverride_addresses {} nodeOverride named

theorem isMatch_congr {config other : EntityConfiguration}
    (host : config.hostAddress = other.hostAddress)
    (target : config.targetAddress = other.targetAddress) (key : MatchKey) :
    key.isMatch config = key.isMatch other := by
  rw [MatchKey.isMatch, MatchKey.isMatch, host, target]

theorem nodeActions_lawful :
    nodeActions.Lawful (fun nodeOverride => nodeOverride.targetAddress ≠ "") := by
  constructor
  · intro nodeOverride named config matched key
    obtain ⟨host, target⟩ := applyOverride_addresses named matched
    exact isMatch_congr host target key
  · intro nodeOverride named other otherNamed
    obtain ⟨host, target⟩ := created_addresses named
    change other.matchKey.isMatch (applyOverride nodeOverride {}) = true ↔
      other.matchKey = nodeOverride.matchKey
    have otherAddress : other.matchKey.address ≠ "" := otherNamed
    generalize nodeOverride.matchKey = key at host target ⊢
    generalize other.matchKey = otherKey at otherAddress ⊢
    rw [MatchKey.isMatch, host, target]
    obtain ⟨outOfBand, address⟩ := key
    obtain ⟨otherOutOfBand, otherKey⟩ := otherKey
    have notEmpty : "" ≠ otherKey := Ne.symm otherAddress
    -- an override of the other kind would have to match by an address that is not set
    cases outOfBand <;> cases otherOutOfBand
    · simpa using eq_comm
    · simpa using notEmpty
    · simpa using notEmpty
    · simpa using eq_comm

/-- The last override that the configuration matches. -/
def lastMatching (overrides : List NodeOverride) (config : EntityConfiguration) :
    Option NodeOverride :=
  (overrides.filter (fun nodeOverride => nodeOverride.matchKey.isMatch config)).getLast?

/-- What the overrides make of a configuration that was there before. -/
structure Settled (overrides : List NodeOverride) (before after : EntityConfiguration) : Prop where
  hostAddress : after.hostAddress = before.hostAddress
  targetAddress : after.targetAddress = before.targetAddress
  defaultBackend : after.defaultBackend =
    ((lastMatching overrides before).map (·.backend)).getD before.defaultBackend
  unmatched : (∀ nodeOverride ∈ overrides, nodeOverride.matchKey.isMatch before = false) →
    after = before

/-- What the overrides make of a configuration that one of them has appended. -/
structure Appended (overrides : List NodeOverride) (key : MatchKey) (config : EntityConfiguration) :
    Prop where
  hostAddress : config.hostAddress = if key.outOfBand then "" else key.address
  targetAddress : config.targetAddress = if key.outOfBand then key.address else ""
  defaultBackend : ∃ last, lastMatching overrides config = some last ∧
    config.defaultBackend = last.backend

/-- The distinct kinds and addresses that no configuration matches. -/
def newMatchKeys (overrides : List NodeOverride) (configs : List EntityConfiguration) :
    List MatchKey :=
  ((overrides.filter (fun nodeOverride =>
    !configs.any nodeOverride.matchKey.isMatch)).map NodeOverride.matchKey).eraseDups

theorem settle_settled {overrides : List NodeOverride}
    (named : ∀ nodeOverride ∈ overrides, nodeOverride.targetAddress ≠ "")
    (config : EntityConfiguration) : Settled overrides config (nodeActions.settle overrides config) where
  hostAddress := Overrides.settle_keeps named config EntityConfiguration.hostAddress
    (fun _ isNamed _ matched => (applyOverride_addresses isNamed matched).1)
  targetAddress := Overrides.settle_keeps named config EntityConfiguration.targetAddress
    (fun _ isNamed _ matched => (applyOverride_addresses isNamed matched).2)
  defaultBackend := Overrides.settle_last nodeActions_lawful named config
    EntityConfiguration.defaultBackend NodeOverride.backend applyOverride_defaultBackend
  unmatched := fun nothing => Overrides.settle_unmatched
    (List.filter_eq_nil_iff.mpr fun nodeOverride member =>
      ne_true_of_eq_false (nothing nodeOverride member))

theorem added_appended {overrides : List NodeOverride}
    (named : ∀ nodeOverride ∈ overrides, nodeOverride.targetAddress ≠ "") {key : MatchKey}
    {config : EntityConfiguration} (added : nodeActions.Added overrides key config) :
    Appended overrides key config := by
  obtain ⟨before, creator, after, rfl, rfl, rfl⟩ := added
  have creatorNamed := named creator (by simp)
  have afterNamed : ∀ nodeOverride ∈ after, nodeOverride.targetAddress ≠ "" :=
    fun nodeOverride member => named nodeOverride (by simp [member])
  have settled := settle_settled afterNamed (nodeActions.create creator)
  obtain ⟨host, target⟩ := created_addresses creatorNamed
  refine ⟨settled.hostAddress.trans host, settled.targetAddress.trans target, ?_⟩
  have same : ∀ key : MatchKey,
      key.isMatch (nodeActions.settle after (nodeActions.create creator)) =
        key.isMatch (nodeActions.create creator) :=
    isMatch_congr settled.hostAddress settled.targetAddress
  have own : creator.matchKey.isMatch (nodeActions.create creator) = true :=
    (nodeActions_lawful.create creator creatorNamed creator creatorNamed).mpr rfl
  rw [settled.defaultBackend]
  unfold lastMatching
  simp only [same, List.filter_append, List.filter_cons, own, if_true]
  cases last : (after.filter (fun nodeOverride =>
      nodeOverride.matchKey.isMatch (nodeActions.create creator))).getLast? with
  | none =>
      rw [List.getLast?_eq_none_iff.mp last]
      exact ⟨creator, by simp, applyOverride_defaultBackend creator {}⟩
  | some override =>
      refine ⟨override, ?_, rfl⟩
      rw [List.getLast?_append, List.getLast?_cons, last]
      rfl

/-- The last override wins, and nothing else moves. -/
theorem applyMultiNodeOverrides_settled (mhiConfig : List NodeOverride)
    (configs : List EntityConfiguration)
    (named : ∀ nodeOverride ∈ mhiConfig, nodeOverride.targetAddress ≠ "") :
    ∃ kept appended, applyMultiNodeOverrides mhiConfig configs = .ok (kept ++ appended) ∧
      List.Forall₂ (Settled mhiConfig) configs kept ∧
      List.Forall₂ (Appended mhiConfig) (newMatchKeys mhiConfig configs) appended ∧
      appended.length = (newMatchKeys mhiConfig configs).length := by
  obtain ⟨appended, run, each⟩ :=
    Overrides.run_entries nodeActions_lawful configs mhiConfig named
  refine ⟨configs.map (nodeActions.settle mhiConfig), appended, ?_, ?_, ?_, each.length_eq.symm⟩
  · rw [applyMultiNodeOverrides_eq, run]
  · rw [List.forall₂_map_right_iff]
    exact List.forall₂_same.mpr fun config _ => settle_settled named config
  · exact each.imp fun _ _ added => added_appended named added

/-- Two overrides of one host, and one of its management controller. -/
def sampleOverrides : List NodeOverride :=
  [{ backend := .gsys, targetAddress := "abcd1", port := 3995 },
    { backend := .redfish, targetAddress := "abcd1-bmc", port := 443, redfishAuthMethod := .tls },
    { backend := .host, targetAddress := "abcd1", port := 1 }]

theorem applyMultiNodeOverrides_settled_sample :
    ∃ kept appended, applyMultiNodeOverrides sampleOverrides [{}] = .ok (kept ++ appended) ∧
      List.Forall₂ (Settled sampleOverrides) [{}] kept ∧
      List.Forall₂ (Appended sampleOverrides) (newMatchKeys sampleOverrides [{}]) appended ∧
      appended.length = (newMatchKeys sampleOverrides [{}]).length :=
  applyMultiNodeOverrides_settled sampleOverrides [{}] (by decide)

end OcpDiag.HwInterface
