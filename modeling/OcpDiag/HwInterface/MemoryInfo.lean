import OcpDiag.HwInterface.MemoryConvert
import OcpDiag.HwInterface.Utils

set_option autoImplicit false

/- What the host backend reports of the memory modules: `GetMemoryInfo`. -/
namespace OcpDiag.HwInterface

namespace Memory

inductive InfoType where
  | default
  | presence
  | size
  | spdEeprom
  | dimmIdentifier
  | memoryType
  | dimmLocation
  | fwMemoryType
  | speed
  | jedec
  /-- A number without a name, which proto3 keeps. -/
  | unrecognized (number : Int)
  deriving DecidableEq, Repr

inductive FwMemoryType where
  | unknown | invalid | other | dram | edram | vram | sram | ram | rom | flash | eeprom | feprom
  | eprom | cdram | threeDram | sdram | sgram | rdram | ddr3 | ddr4 | ddr5
  deriving DecidableEq, Repr

structure Presence where
  presentInSlot : Bool := false
  presentInFirmware : Bool := false
  deriving DecidableEq, Repr

structure Location where
  slotName : String := ""
  deriving DecidableEq, Repr

structure Speed where
  firmwareSpeedMhz : Int := 0
  operatingSpeedMhz : Int := 0
  deriving DecidableEq, Repr

structure Jedec where
  manufacturerIndex : Int := 0
  deriving DecidableEq, Repr

/-- The fields that the host backend sets. -/
structure Info where
  presence : Option Presence := none
  sizeBytes : UInt64 := 0
  identifier : Option Identifier := none
  fwMemoryType : FwMemoryType := .unknown
  location : Option Location := none
  speed : Option Speed := none
  jedec : Option Jedec := none
  deriving DecidableEq, Repr

/-- The map from logical dimm numbers to dimm infos. -/
abbrev DimmInfos : Type := AList (fun _ : Int => Info)

end Memory

/-- A type-17 structure with the fields that GetMemoryInfo reads. Those that short structures do
not have are optional. -/
structure MemoryDevice extends MemoryDeviceView where
  size : UInt16
  extendedSize : Option UInt32 := none
  memoryType : UInt8
  speed : Option UInt16 := none
  configuredMemoryClockSpeed : Option UInt16 := none
  moduleManufacturerId : Option UInt16 := none
  deriving DecidableEq, Repr

/-- The structures of the DMI table that the host backend looks at. -/
structure SmbiosTable where
  memoryDeviceMappedAddresses : List MappedAddressView := []
  memoryDevices : List MemoryDevice := []
  deriving DecidableEq, Repr

namespace Memory

def kNumOfBytesInKilobyte : UInt64 := 1024
def kNumOfBytesInMegabyte : UInt64 := 1048576
def kFlagMemorySizeInExtendedSize : UInt64 := 0x7FFF
def kFlagMemorySizeUnknown : UInt64 := 0xFFFF
def kMemorySizeInKilobyteMask : UInt64 := 0x8000

def kIntToFwMemoryType : List (Nat × FwMemoryType) :=
  [(0x00, .invalid), (0x01, .other), (0x02, .unknown), (0x03, .dram), (0x04, .edram),
    (0x05, .vram), (0x06, .sram), (0x07, .ram), (0x08, .rom), (0x09, .flash), (0x0A, .eeprom),
    (0x0B, .feprom), (0x0C, .eprom), (0x0D, .cdram), (0x0E, .threeDram), (0x0F, .sdram),
    (0x10, .sgram), (0x11, .rdram), (0x18, .ddr3), (0x1A, .ddr4), (0x22, .ddr5)]

def getFwMemoryType (typeCode : Nat) : FwMemoryType :=
  (kIntToFwMemoryType.lookup typeCode).getD .unknown

def setPresence (device : MemoryDevice) (info : Info) : Info :=
  let present := device.size ≠ 0
  { info with presence := some { presentInSlot := present, presentInFirmware := present } }

/-- Where the size is in a field that the structure does not have, it stays unknown. -/
def setSizeBytes (device : MemoryDevice) (info : Info) : Info :=
  let size := device.size.toUInt64
  if size = kFlagMemorySizeInExtendedSize then
    match device.extendedSize with
    | some extendedSize =>
        { info with sizeBytes := extendedSize.toUInt64 * kNumOfBytesInMegabyte }
    | none => info
  else if size = kFlagMemorySizeUnknown then { info with sizeBytes := 0 }
  else if size &&& kMemorySizeInKilobyteMask ≠ 0 then
    { info with sizeBytes := (size &&& ~~~ kMemorySizeInKilobyteMask) * kNumOfBytesInKilobyte }
  else { info with sizeBytes := size * kNumOfBytesInMegabyte }

def dimmName (index : Int) : String := "DIMM" ++ toString index

def setIdentifier (index : Int) (info : Info) : Info :=
  let identifier := { info.identifier.getD {} with type := "dimm", name := dimmName index }
  { info with identifier := some (populateId identifier none) }

def setLocation (index : Int) (info : Info) : Info :=
  { info with location := some { slotName := dimmName index } }

def setFwMemoryType (device : MemoryDevice) (info : Info) : Info :=
  { info with fwMemoryType := getFwMemoryType device.memoryType.toNat }

def setSpeed (device : MemoryDevice) (info : Info) : Info :=
  let speed := info.speed.getD {}
  let speed :=
    match device.speed with
    | some read => { speed with firmwareSpeedMhz := read.toNat }
    | none => speed
  let speed :=
    match device.configuredMemoryClockSpeed with
    | some read => { speed with operatingSpeedMhz := read.toNat }
    | none => speed
  { info with speed := some speed }

def setJedec (device : MemoryDevice) (info : Info) : Info :=
  match device.moduleManufacturerId with
  | some read => { info with jedec := some { manufacturerIndex := read.toNat } }
  | none => info

/-- What the loop does with the entry of a device. -/
def fill (infoTypes : List InfoType) (index : Int) (device : MemoryDevice) (info : Info) : Info :=
  let info := if infoTypeHave infoTypes .presence then setPresence device info else info
  let info := if infoTypeHave infoTypes .size then setSizeBytes device info else info
  let info := if infoTypeHave infoTypes .dimmIdentifier then setIdentifier index info else info
  let info := if infoTypeHave infoTypes .dimmLocation then setLocation index info else info
  let info := if infoTypeHave infoTypes .fwMemoryType then setFwMemoryType device info else info
  let info := if infoTypeHave infoTypes .speed then setSpeed device info else info
  if infoTypeHave infoTypes .jedec then setJedec device info else info

/-- One turn of the loop, after which the index is that of the device. -/
def addDimmInfo (infoTypes : List InfoType) (state : Int × DimmInfos) (device : MemoryDevice) :
    Int × DimmInfos :=
  let index := state.1 + 1
  let info := (state.2.lookup index).getD {}
  (index, state.2.insert index (fill infoTypes index device info))

end Memory

/-- The infos of the response. -/
def getMemoryInfo (smbiosReader : StatusOr SmbiosTable) (infoTypes : List Memory.InfoType) :
    StatusOr Memory.DimmInfos := do
  let reader ← smbiosReader
  return (reader.memoryDevices.foldl (Memory.addDimmInfo infoTypes) (-1, ∅)).2

namespace Memory

/-- The entry of a device on its own. -/
def dimmInfo (infoTypes : List InfoType) (index : Int) (device : MemoryDevice) : Info :=
  fill infoTypes index device {}

theorem addDimmInfo_fresh (infoTypes : List InfoType) (index : Int) (dimmInfos : DimmInfos)
    (device : MemoryDevice) (fresh : dimmInfos.lookup (index + 1) = none) :
    addDimmInfo infoTypes (index, dimmInfos) device =
      (index + 1, dimmInfos.insert (index + 1) (dimmInfo infoTypes (index + 1) device)) := by
  simp only [addDimmInfo, fresh, Option.getD_none, dimmInfo]

/-- The device with a number, which is its place in the table. -/
def deviceAt (devices : List MemoryDevice) (number : Int) : Option MemoryDevice :=
  if 0 ≤ number then devices[number.toNat]? else none

theorem deviceAt_append_singleton (devices : List MemoryDevice) (last : MemoryDevice)
    (number : Int) :
    deviceAt (devices ++ [last]) number =
      if number = devices.length then some last else deviceAt devices number := by
  unfold deviceAt
  by_cases isLast : number = devices.length
  · subst isLast
    simp
  · rw [if_neg isLast]
    split_ifs with atLeast
    · rcases Nat.lt_or_ge number.toNat devices.length with earlier | later
      · rw [List.getElem?_append_left earlier]
      · rw [List.getElem?_eq_none later, List.getElem?_eq_none]
        simp only [List.length_append, List.length_singleton]
        omega
    · rfl

theorem foldl_addDimmInfo (infoTypes : List InfoType) (devices : List MemoryDevice) :
    (devices.foldl (addDimmInfo infoTypes) (-1, ∅)).1 = devices.length - 1 ∧
      ∀ number, (devices.foldl (addDimmInfo infoTypes) (-1, ∅)).2.lookup number =
        (deviceAt devices number).map (dimmInfo infoTypes number) := by
  induction devices using List.reverseRecOn with
  | nil =>
      refine ⟨rfl, fun number => ?_⟩
      unfold deviceAt
      split_ifs <;> simp
  | append_singleton earlier last ih =>
      obtain ⟨count, entries⟩ := ih
      have next : (earlier.length : Int) - 1 + 1 = earlier.length := by omega
      have fresh : (earlier.foldl (addDimmInfo infoTypes) (-1, ∅)).2.lookup
          ((earlier.foldl (addDimmInfo infoTypes) (-1, ∅)).1 + 1) = none := by
        rw [count, next, entries, deviceAt, if_pos (by omega), Int.toNat_natCast,
          List.getElem?_eq_none (Nat.le_refl _), Option.map_none]
      have step := addDimmInfo_fresh infoTypes _ _ last fresh
      rw [Prod.mk.eta, count, next] at step
      rw [List.foldl_append, List.foldl_cons, List.foldl_nil, step]
      refine ⟨by simp, fun number => ?_⟩
      rw [deviceAt_append_singleton]
      split_ifs with isLast
      · rw [isLast, AList.lookup_insert, Option.map_some]
      · rw [AList.lookup_insert_ne isLast, entries]

/-- What the size block leaves in an entry without a size. -/
def sizeBytes (device : MemoryDevice) : UInt64 := (setSizeBytes device {}).sizeBytes

def speedOf (device : MemoryDevice) : Speed where
  firmwareSpeedMhz := (device.speed.map (fun read => (read.toNat : Int))).getD 0
  operatingSpeedMhz :=
    (device.configuredMemoryClockSpeed.map (fun read => (read.toNat : Int))).getD 0

def jedecOf (device : MemoryDevice) : Option Jedec :=
  device.moduleManufacturerId.map (fun read => ⟨read.toNat⟩)

def dimmIdentifier (index : Int) : Identifier := { type := "dimm", name := dimmName index }

/-- The fields whose types are asked for; the others keep their defaults. -/
def Info.restrict (infoTypes : List InfoType) (info : Info) : Info where
  presence := if infoTypeHave infoTypes .presence then info.presence else none
  sizeBytes := if infoTypeHave infoTypes .size then info.sizeBytes else 0
  identifier := if infoTypeHave infoTypes .dimmIdentifier then info.identifier else none
  location := if infoTypeHave infoTypes .dimmLocation then info.location else none
  fwMemoryType := if infoTypeHave infoTypes .fwMemoryType then info.fwMemoryType else .unknown
  speed := if infoTypeHave infoTypes .speed then info.speed else none
  jedec := if infoTypeHave infoTypes .jedec then info.jedec else none

theorem setSizeBytes_eq (device : MemoryDevice) (info : Info) (unset : info.sizeBytes = 0) :
    setSizeBytes device info = { info with sizeBytes := sizeBytes device } := by
  unfold sizeBytes setSizeBytes
  dsimp only
  split_ifs
  · cases device.extendedSize with
    | some extendedSize => rfl
    | none => rw [← unset]
  · rfl
  · rfl
  · rfl

theorem setSpeed_eq (device : MemoryDevice) (info : Info) (unset : info.speed = none) :
    setSpeed device info = { info with speed := some (speedOf device) } := by
  unfold setSpeed speedOf
  rw [unset]
  cases device.speed <;> cases device.configuredMemoryClockSpeed <;> rfl

theorem setJedec_eq (device : MemoryDevice) (info : Info) (unset : info.jedec = none) :
    setJedec device info = { info with jedec := jedecOf device } := by
  unfold setJedec jedecOf
  cases device.moduleManufacturerId with
  | some read => rfl
  | none => rw [Option.map_none, ← unset]

theorem setIdentifier_eq (index : Int) (info : Info) (unset : info.identifier = none) :
    setIdentifier index info =
      { info with identifier := some (dimmIdentifier index).populated } := by
  unfold setIdentifier
  rw [unset]
  rfl

/-- The entry of a request for everything. -/
def fullInfo (index : Int) (device : MemoryDevice) : Info where
  presence := some { presentInSlot := device.size ≠ 0, presentInFirmware := device.size ≠ 0 }
  sizeBytes := sizeBytes device
  identifier := some (dimmIdentifier index).populated
  location := some { slotName := dimmName index }
  fwMemoryType := getFwMemoryType device.memoryType.toNat
  speed := some (speedOf device)
  jedec := jedecOf device

theorem dimmInfo_eq (infoTypes : List InfoType) (index : Int) (device : MemoryDevice) :
    dimmInfo infoTypes index device = (fullInfo index device).restrict infoTypes := by
  unfold dimmInfo fill Info.restrict
  cases infoTypeHave infoTypes .presence <;> cases infoTypeHave infoTypes .size <;>
    cases infoTypeHave infoTypes .dimmIdentifier <;> cases infoTypeHave infoTypes .dimmLocation <;>
    cases infoTypeHave infoTypes .fwMemoryType <;> cases infoTypeHave infoTypes .speed <;>
    cases infoTypeHave infoTypes .jedec <;>
    simp [setSizeBytes_eq, setSpeed_eq, setJedec_eq, setIdentifier_eq, setPresence, setLocation,
      setFwMemoryType, fullInfo]

end Memory

end OcpDiag.HwInterface
