import Mathlib.Data.List.Nodup
import OcpDiag.HwInterface.StorageQueries

set_option autoImplicit false

/- The lists of capabilities that `SetAtaInfo` makes of the keys of smartctl. -/
namespace OcpDiag.HwInterface.Storage

open JsonValue

def endsEnabled (item : String × Value) : Bool := "_enabled".toList.isSuffixOf item.1.toList

def endsSupported (item : String × Value) : Bool := "_supported".toList.isSuffixOf item.1.toList

/-- The capability that the key of an item stands for, with one of the two endings. -/
def namedCap (item : String × Value) : Option Capability :=
  if endsEnabled item then capabilityMapping (capKey item.1 "_enabled")
  else if endsSupported item then capabilityMapping (capKey item.1 "_supported")
  else none

/-- What an item that is true stands for. -/
def trueCap (item : String × Value) : Option Capability :=
  if isTrue item.2 then namedCap item else none

def supportedCaps (items : List (String × Value)) : List Capability := items.filterMap trueCap

def enabledCaps (items : List (String × Value)) : List Capability :=
  (items.filter endsEnabled).filterMap trueCap

theorem enabledCaps_sublist (items : List (String × Value)) :
    (enabledCaps items).Sublist (supportedCaps items) :=
  List.filter_sublist.filterMap trueCap

/-- A capability goes to the lists that its key names. -/
def addCap (item : String × Value) (cap : Capability) (ataInfo : AtaInfo) : AtaInfo :=
  { ataInfo with
    supportedCapabilities := ataInfo.supportedCapabilities ++ [cap]
    enabledCapabilities := ataInfo.enabledCapabilities ++ if endsEnabled item then [cap] else [] }

theorem mapAndSetCap_eq (key : String) (status : Bool) (ataInfo : AtaInfo) :
    mapAndSetCap key status ataInfo =
      match trueCap (key, .boolean status) with
      | none => ataInfo
      | some cap => addCap (key, .boolean status) cap ataInfo := by
  unfold mapAndSetCap trueCap namedCap addCap endsEnabled endsSupported isTrue
  generalize capabilityMapping (capKey key "_enabled") = enabledCap
  generalize capabilityMapping (capKey key "_supported") = supportedCap
  generalize "_enabled".toList.isSuffixOf key.toList = enabled
  generalize "_supported".toList.isSuffixOf key.toList = supported
  cases enabled
  · cases supported <;> cases status <;> cases supportedCap <;> simp
  · cases status <;> cases enabledCap <;> simp

theorem trueCap_of_not_boolean (item : String × Value) (other : ∀ status, item.2 ≠ .boolean status) :
    trueCap item = none := by
  cases value : item.2 with
  | boolean status => exact absurd value (other status)
  | _ => simp [trueCap, isTrue, value]

/-- What one turn of a loop over the capabilities does. -/
theorem setCaps_cons (item : String × Value) (items : List (String × Value)) (ataInfo : AtaInfo) :
    setCaps (item :: items) ataInfo =
      setCaps items (match trueCap item with
        | none => ataInfo
        | some cap => addCap item cap ataInfo) := by
  unfold setCaps
  rw [List.foldl_cons]
  congr 1
  cases value : item.2 with
  | boolean status =>
      have same : item = (item.1, .boolean status) := Prod.ext rfl value
      rw [same]
      exact mapAndSetCap_eq item.1 status ataInfo
  | _ =>
      rw [trueCap_of_not_boolean item (by simp [value])]

theorem supportedCaps_cons (item : String × Value) (items : List (String × Value)) :
    supportedCaps (item :: items) = (trueCap item).toList ++ supportedCaps items := by
  cases named : trueCap item <;> simp [supportedCaps, named]

theorem enabledCaps_cons (item : String × Value) (items : List (String × Value)) :
    enabledCaps (item :: items) =
      (if endsEnabled item then (trueCap item).toList else []) ++ enabledCaps items := by
  cases named : trueCap item <;> by_cases ends : endsEnabled item = true <;>
    simp [enabledCaps, named, ends]

theorem setCaps_lists (items : List (String × Value)) (ataInfo : AtaInfo) :
    (setCaps items ataInfo).supportedCapabilities =
        ataInfo.supportedCapabilities ++ supportedCaps items ∧
      (setCaps items ataInfo).enabledCapabilities =
        ataInfo.enabledCapabilities ++ enabledCaps items := by
  induction items generalizing ataInfo with
  | nil => simp [setCaps, supportedCaps, enabledCaps]
  | cons item items ih =>
      rw [setCaps_cons, supportedCaps_cons, enabledCaps_cons]
      cases trueCap item with
      | none => simpa using ih ataInfo
      | some cap =>
          obtain ⟨supported, enabled⟩ := ih (addCap item cap ataInfo)
          rw [supported, enabled]
          simp [addCap]

def capItems (deviceResult : Value) : List (String × Value) :=
  match (deviceResult.member "ata_smart_data").bind (·.member "capabilities") with
  | none => []
  | some capabilities => capabilities.items

def sctItems (deviceResult : Value) : List (String × Value) :=
  match deviceResult.member "ata_sct_capabilities" with
  | none => []
  | some capabilities => capabilities.items

def smartFlag (deviceResult : Value) (key : String) : Bool :=
  deviceResult.has "smart_support" (·.has key isTrue)

theorem setSctCaps_lists (deviceResult : Value) (ataInfo : AtaInfo) :
    (setSctCaps deviceResult ataInfo).supportedCapabilities =
        ataInfo.supportedCapabilities ++
          (if deviceResult.contains "ata_sct_capabilities" then [.sct] else []) ++
          supportedCaps (sctItems deviceResult) ∧
      (setSctCaps deviceResult ataInfo).enabledCapabilities =
        ataInfo.enabledCapabilities ++ enabledCaps (sctItems deviceResult) := by
  unfold setSctCaps sctItems Value.contains
  cases deviceResult.member "ata_sct_capabilities" with
  | none => simp [supportedCaps, enabledCaps]
  | some capabilities =>
      obtain ⟨supported, enabled⟩ := setCaps_lists capabilities.items
        { ataInfo with supportedCapabilities := ataInfo.supportedCapabilities ++ [.sct] }
      exact ⟨supported, enabled⟩

/-- The lists that a fresh drive gets, when everything that is read is there. -/
theorem setAtaInfo_lists (deviceResult : Value) (readable : ataReadable deviceResult = true) :
    ∃ ataInfo, setAtaInfo deviceResult {} = .value ataInfo ∧
      ataInfo.supportedCapabilities =
        (if smartFlag deviceResult "available" then [.smart] else []) ++
          supportedCaps (capItems deviceResult) ++
          (if deviceResult.contains "ata_sct_capabilities" then [.sct] else []) ++
          supportedCaps (sctItems deviceResult) ∧
      ataInfo.enabledCapabilities =
        (if smartFlag deviceResult "enabled" then [.smart] else []) ++
          enabledCaps (capItems deviceResult) ++ enabledCaps (sctItems deviceResult) := by
  simp only [ataReadable, Bool.and_eq_true, and_assoc, Value.has_iff, Value.contains,
    Option.isSome_iff_exists] at readable
  obtain ⟨⟨userCapacity, foundCapacity, blocks, foundBlocks, wide⟩, ⟨logical, foundLogical, logicalInt⟩,
    ⟨physical, foundPhysical, physicalInt⟩, ⟨rate, foundRate, rateInt⟩,
    ⟨smartSupport, foundSupport, _, foundAvailable, availableBool⟩,
    ⟨again, foundAgain, _, foundEnabled, enabledBool⟩,
    ⟨smartData, foundData, capabilities, foundCapabilities⟩⟩ := readable
  obtain rfl : smartSupport = again := Option.some.inj (foundSupport.symm.trans foundAgain)
  obtain ⟨available, rfl⟩ := Value.exists_boolean availableBool
  obtain ⟨enabled, rfl⟩ := Value.exists_boolean enabledBool
  obtain ⟨numSectors, castBlocks⟩ := Value.exists_toUint64 wide Status
  obtain ⟨logicalSectorSize, castLogical⟩ := Value.exists_toInt32 logicalInt Status
  obtain ⟨physicalSectorSize, castPhysical⟩ := Value.exists_toInt32 physicalInt Status
  obtain ⟨rpm, castRate⟩ := Value.exists_toInt32 rateInt Status
  have items : capItems deviceResult = capabilities.items := by
    simp [capItems, foundData, foundCapabilities]
  have availableFlag : smartFlag deviceResult "available" = available := by
    simp [smartFlag, Value.has, foundSupport, foundAvailable, isTrue]
  have enabledFlag : smartFlag deviceResult "enabled" = enabled := by
    simp [smartFlag, Value.has, foundSupport, foundEnabled, isTrue]
  let sized : AtaInfo := { numSectors, logicalSectorSize, physicalSectorSize, rpm }
  have read : setAtaInfo deviceResult {} =
      .value (setSctCaps deviceResult (setCaps capabilities.items
        (setSmart available enabled sized))) := by
    simp only [setAtaInfo, Value.constIndex_of_member foundCapacity,
      Value.constIndex_of_member foundBlocks, Value.constIndex_of_member foundLogical,
      Value.constIndex_of_member foundPhysical, Value.constIndex_of_member foundRate,
      Value.constIndex_of_member foundSupport, Value.constIndex_of_member foundAvailable,
      Value.constIndex_of_member foundEnabled, Value.constIndex_of_member foundData,
      Value.constIndex_of_member foundCapabilities, Access.value_bind, castBlocks, castLogical,
      castPhysical, castRate, Value.toBool, Access.pure_eq_value, sized]
  obtain ⟨supported, enabledLists⟩ := setCaps_lists capabilities.items
    (setSmart available enabled sized)
  obtain ⟨sctSupported, sctEnabled⟩ := setSctCaps_lists deviceResult
    (setCaps capabilities.items (setSmart available enabled sized))
  refine ⟨_, read, ?_, ?_⟩
  · rw [sctSupported, supported, items, availableFlag]
    simp [setSmart, sized]
  · rw [sctEnabled, enabledLists, items, enabledFlag]
    simp [setSmart, sized]

theorem capabilityMapping_ne (key : String) (cap : Capability)
    (mapped : capabilityMapping key = some cap) : cap ≠ .smart ∧ cap ≠ .sct := by
  unfold capabilityMapping at mapped
  simp only [List.lookup_cons, List.lookup_nil] at mapped
  repeat' split at mapped
  all_goals cases mapped <;> simp

theorem mem_supportedCaps_ne (items : List (String × Value)) (cap : Capability)
    (member : cap ∈ supportedCaps items) : cap ≠ .smart ∧ cap ≠ .sct := by
  obtain ⟨item, -, named⟩ := List.mem_filterMap.mp member
  unfold trueCap namedCap at named
  split_ifs at named
  · exact capabilityMapping_ne _ cap named
  · exact capabilityMapping_ne _ cap named

/-- No capability is listed twice, and what is enabled is supported. -/
structure CapabilitySets (ataInfo : AtaInfo) : Prop where
  supportedOnce : ataInfo.supportedCapabilities.Nodup
  enabledOnce : ataInfo.enabledCapabilities.Nodup
  enabledSupported : ataInfo.enabledCapabilities ⊆ ataInfo.supportedCapabilities

/-- SMART is enabled where it is available only, and no two true keys of the two objects stand for
one capability. -/
structure NamesOnce (deviceResult : Value) : Prop where
  smart : smartFlag deviceResult "enabled" = true → smartFlag deviceResult "available" = true
  once : (capItems deviceResult ++ sctItems deviceResult).Pairwise
    fun item later => ∀ cap, trueCap item = some cap → trueCap later ≠ some cap

theorem supportedCaps_nodup_iff (items : List (String × Value)) :
    (supportedCaps items).Nodup ↔
      items.Pairwise fun item later => ∀ cap, trueCap item = some cap → trueCap later ≠ some cap := by
  unfold supportedCaps List.Nodup
  rw [List.pairwise_filterMap]
  apply List.Pairwise.iff
  intro item later
  grind

/-- The two capabilities with flags of their own stand apart from those of the keys. -/
theorem nodup_with_flags (smart sct : Bool) (items later : List (String × Value)) :
    ((if smart then [Capability.smart] else []) ++ supportedCaps items ++
        (if sct then [Capability.sct] else []) ++ supportedCaps later).Nodup ↔
      (supportedCaps (items ++ later)).Nodup := by
  have joined : supportedCaps (items ++ later) = supportedCaps items ++ supportedCaps later :=
    List.filterMap_append
  have apart := mem_supportedCaps_ne (items ++ later)
  rw [joined] at apart ⊢
  generalize supportedCaps items = first at apart ⊢
  generalize supportedCaps later = second at apart ⊢
  have flags : ((if smart then [Capability.smart] else []) ++
      if sct then [Capability.sct] else []).Nodup := by
    cases smart <;> cases sct <;> decide
  have front : ((if smart then [Capability.smart] else []) ++ first ++
      (if sct then [Capability.sct] else []) ++ second).Perm
        (((if smart then [Capability.smart] else []) ++ if sct then [Capability.sct] else []) ++
          (first ++ second)) := by
    simp only [List.append_assoc]
    refine .append_left _ ?_
    rw [← List.append_assoc, ← List.append_assoc]
    exact List.perm_append_comm.append_right second
  rw [front.nodup_iff, List.nodup_append]
  constructor
  · rintro ⟨-, caps, -⟩
    exact caps
  · intro caps
    refine ⟨flags, caps, ?_⟩
    rintro flag isFlag cap isCap rfl
    obtain ⟨notSmart, notSct⟩ := apart flag isCap
    cases smart <;> cases sct <;> simp_all

/-- The lists are sets with the enabled capabilities among the supported ones exactly when SMART is
not enabled without being available and no capability has two true keys. -/
theorem capabilitySets_iff (deviceResult : Value) (readable : ataReadable deviceResult = true) :
    (∃ ataInfo, setAtaInfo deviceResult {} = .value ataInfo ∧ CapabilitySets ataInfo) ↔
      NamesOnce deviceResult := by
  obtain ⟨ataInfo, read, supported, enabled⟩ := setAtaInfo_lists deviceResult readable
  have nodup : ataInfo.supportedCapabilities.Nodup ↔
      (supportedCaps (capItems deviceResult ++ sctItems deviceResult)).Nodup := by
    rw [supported]
    exact nodup_with_flags _ _ _ _
  constructor
  · rintro ⟨other, same, sets⟩
    obtain rfl : ataInfo = other := Access.value.inj (read.symm.trans same)
    refine ⟨?_, (supportedCaps_nodup_iff _).mp (nodup.mp sets.supportedOnce)⟩
    intro isEnabled
    have member : Capability.smart ∈ ataInfo.enabledCapabilities := by
      simp [enabled, isEnabled]
    have listed := sets.enabledSupported member
    by_contra unavailable
    simp only [supported, unavailable, if_false, List.nil_append, List.mem_append] at listed
    rcases listed with (first | sct) | second
    · exact (mem_supportedCaps_ne _ _ first).1 rfl
    · split_ifs at sct <;> simp at sct
    · exact (mem_supportedCaps_ne _ _ second).1 rfl
  · intro names
    have supportedOnce := nodup.mpr ((supportedCaps_nodup_iff _).mpr names.once)
    have parts : ataInfo.enabledCapabilities.Sublist ataInfo.supportedCapabilities := by
      rw [supported, enabled]
      have smart : (if smartFlag deviceResult "enabled" then [Capability.smart] else []).Sublist
          (if smartFlag deviceResult "available" then [Capability.smart] else []) := by
        split_ifs with isEnabled isAvailable
        · exact .refl _
        · exact absurd (names.smart isEnabled) isAvailable
        · exact List.nil_sublist _
        · exact .refl _
      refine List.Sublist.append ?_ (enabledCaps_sublist _)
      exact (smart.append (enabledCaps_sublist _)).trans (List.sublist_append_left _ _)
    exact ⟨ataInfo, read, supportedOnce, supportedOnce.sublist parts, parts.subset⟩

theorem capabilitySets_iff_sata :
    ∃ ataInfo, setAtaInfo (.object sataMembers) {} = .value ataInfo ∧ CapabilitySets ataInfo := by
  have items : capItems (.object sataMembers) ++ sctItems (.object sataMembers) =
      [("gp_logging_supported", .boolean true)] := rfl
  refine (capabilitySets_iff (.object sataMembers) (by decide)).mpr ⟨fun _ => by decide, ?_⟩
  rw [items]
  exact List.pairwise_singleton _ _

/-- A drive that supports the control of error recovery and has it enabled. -/
def recoveryMembers : List (String × Value) :=
  ("ata_sct_capabilities", .object [("error_recovery_control_enabled", .boolean true),
    ("error_recovery_control_supported", .boolean true)]) :: sataMembers

theorem capabilitySets_not_recovery :
    ¬ ∀ deviceResult, ataReadable deviceResult = true →
      ∃ ataInfo, setAtaInfo deviceResult {} = .value ataInfo ∧ CapabilitySets ataInfo := by
  intro sets
  obtain ⟨ataInfo, read, capabilities⟩ := sets (.object recoveryMembers) (by decide)
  have listed : (setAtaInfo (.object recoveryMembers) {} : Query AtaInfo) =
      .value ⟨1953525168, 512, 4096, 7200, [.smart, .sctErc],
        [.smart, .gpl, .sct, .sctErc, .sctErc]⟩ := by
    decide
  obtain rfl := Access.value.inj (listed.symm.trans read)
  exact absurd capabilities.supportedOnce (by decide)

end OcpDiag.HwInterface.Storage
