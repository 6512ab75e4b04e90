import OcpDiag.HwInterface.MemoryInfo
import Mathlib.Data.Nat.Bitwise
import Mathlib.Tactic.IntervalCases

set_option autoImplicit false

/- What a memory report tells: the size that firmware states for each module, and an id that can
be looked up again. -/
namespace OcpDiag.HwInterface.Memory

/-- The size of a module, in the unit that its structure states it in. -/
inductive ModuleSize where
  | unknown
  | kilobytes (count : Nat)
  | megabytes (count : Nat)
  deriving DecidableEq, Repr

namespace ModuleSize

/-- What has a place in the fields of a structure. -/
def Fits : ModuleSize → Prop
  | unknown => True
  | kilobytes count => count < 0x7FFF
  | megabytes count => count < 2 ^ 32

/-- The Size and the Extended Size field: the most significant bit is set for kilobytes, and 32 GB
less 1 MB or more is in the second field. -/
def fields : ModuleSize → UInt16 × Option UInt32
  | unknown => (0xFFFF, none)
  | kilobytes count => (UInt16.ofNat (0x8000 + count), none)
  | megabytes count =>
      if count < 0x7FFF then (UInt16.ofNat count, none) else (0x7FFF, some (UInt32.ofNat count))

end ModuleSize

/-- The ids of the modules in a response. -/
def DimmInfos.ids (dimmInfos : DimmInfos) : List String :=
  dimmInfos.entries.filterMap fun entry => entry.2.identifier.map Identifier.id

theorem dimmName_toList (number : Nat) :
    (dimmName number).toList = "DIMM".toList ++ (toString (number : Int)).toList := by
  rw [dimmName, String.toList_append]

theorem dimmIdentifier_separatorFree (number : Nat) :
    (dimmIdentifier number).SeparatorFree := by
  intro component member
  simp only [Identifier.components, dimmIdentifier, List.mem_cons, List.not_mem_nil,
    or_false] at member
  rcases member with rfl | rfl | rfl | rfl | rfl
  · decide
  · decide
  · rw [dimmName_toList]
    intro held
    rcases List.mem_append.mp held with fixed | digit
    · exact absurd fixed (by decide)
    · exact absurd (toString_digits number '%' digit) (by decide)
  · decide
  · decide

theorem exists_nat_of_deviceAt {devices : List MemoryDevice} {number : Int}
    {device : MemoryDevice} (found : deviceAt devices number = some device) :
    ∃ place : Nat, number = place := by
  unfold deviceAt at found
  split_ifs at found with atLeast
  exact ⟨number.toNat, (Int.toNat_of_nonneg atLeast).symm⟩

/-- Every entry with an identifier has that of its number. -/
theorem identifier_of_lookup {table : SmbiosTable} {infoTypes : List InfoType}
    {dimmInfos : DimmInfos}
    (entries : ∀ number, dimmInfos.lookup number =
      (deviceAt table.memoryDevices number).map
        fun device => (fullInfo number device).restrict infoTypes)
    {number : Int} {info : Info} {identifier : Identifier}
    (found : dimmInfos.lookup number = some info) (named : info.identifier = some identifier) :
    ∃ place : Nat, number = place ∧ identifier = (dimmIdentifier place).populated := by
  rw [entries, Option.map_eq_some_iff] at found
  obtain ⟨device, isDevice, rfl⟩ := found
  obtain ⟨place, rfl⟩ := exists_nat_of_deviceAt isDevice
  refine ⟨place, rfl, ?_⟩
  simp only [Info.restrict, fullInfo] at named
  split_ifs at named
  exact (Option.some.inj named).symm

theorem getHwInfo_describes {table : SmbiosTable} {infoTypes : List InfoType}
    {dimmInfos : DimmInfos}
    (entries : ∀ number, dimmInfos.lookup number =
      (deviceAt table.memoryDevices number).map
        fun device => (fullInfo number device).restrict infoTypes) :
    ∃ hwInfo, getHwInfo dimmInfos.ids = .ok hwInfo ∧
      ∀ number info identifier, dimmInfos.lookup number = some info →
        info.identifier = some identifier →
        hwInfo.lookup identifier.id = some { name := dimmName number, partType := "dimm" } := by
  have decodes (place : Nat) := unmarshalIdentifier_populated _ (dimmIdentifier_separatorFree place)
  obtain ⟨hwInfo, ok⟩ := getHwInfo_isOk dimmInfos.ids ∅ (by
    intro id member
    obtain ⟨⟨number, info⟩, isEntry, hasId⟩ := List.mem_filterMap.mp member
    obtain ⟨identifier, named, rfl⟩ := Option.map_eq_some_iff.mp hasId
    obtain ⟨place, -, rfl⟩ := identifier_of_lookup entries (AList.mem_lookup_iff.mpr isEntry) named
    exact ⟨_, decodes place⟩)
  refine ⟨hwInfo, ok, fun number info identifier found named => ?_⟩
  obtain ⟨place, rfl, rfl⟩ := identifier_of_lookup entries found named
  have listed : (dimmIdentifier place).populated.id ∈ dimmInfos.ids :=
    List.mem_filterMap.mpr ⟨⟨_, info⟩, AList.mem_lookup_iff.mp found, by rw [named]; rfl⟩
  obtain ⟨decoded, unmarshalled, described⟩ := getHwInfo_lookup _ ∅ hwInfo ok _ listed
  rw [decodes] at unmarshalled
  cases unmarshalled
  exact described

/-- The response has one entry for each device, under its place in the table, with what a request
for everything has in the fields that are asked for. GetHwInfo knows every id in it. -/
theorem getMemoryInfo_exact (table : SmbiosTable) (infoTypes : List InfoType) :
    ∃ dimmInfos, getMemoryInfo (.ok table) infoTypes = .ok dimmInfos ∧
      (∀ number, dimmInfos.lookup number =
        (deviceAt table.memoryDevices number).map
          fun device => (fullInfo number device).restrict infoTypes) ∧
      ∃ hwInfo, getHwInfo dimmInfos.ids = .ok hwInfo ∧
        ∀ number info identifier, dimmInfos.lookup number = some info →
          info.identifier = some identifier →
          hwInfo.lookup identifier.id =
            some { name := dimmName number, partType := "dimm" } := by
  have entries : ∀ number,
      (table.memoryDevices.foldl (addDimmInfo infoTypes) (-1, ∅)).2.lookup number =
        (deviceAt table.memoryDevices number).map
          fun device => (fullInfo number device).restrict infoTypes := by
    intro number
    rw [(foldl_addDimmInfo infoTypes table.memoryDevices).2, funext (dimmInfo_eq infoTypes number)]
  exact ⟨_, rfl, entries, getHwInfo_describes entries⟩

end OcpDiag.HwInterface.Memory
