import OcpDiag.HwInterface.HwInfo
import Mathlib.Algebra.Order.Ring.Nat
import Mathlib.Tactic.SplitIfs

set_option autoImplicit false

/- The lookup of a physical address in the SMBIOS tables. -/
namespace OcpDiag.HwInterface

def kExtendedAddressMarker : UInt32 := 0xFFFFFFFF
def kBytesPerKilobyte : UInt64 := 1024

/-- The fields of a type-20 structure that the lookup reads. -/
structure MappedAddressView where
  startingAddress : UInt32
  endingAddress : UInt32
  memoryDeviceHandle : UInt16
  extendedStartingAddress : UInt64
  extendedEndingAddress : UInt64
  deriving DecidableEq, Repr

/-- A type-17 structure, with the string its locator number stands for. -/
structure MemoryDeviceView where
  handle : UInt16
  deviceLocator : String
  deriving DecidableEq, Repr

structure SmbiosReader where
  memoryDeviceMappedAddresses : List MappedAddressView
  memoryDevices : List MemoryDeviceView

namespace MappedAddressView

/-- `start_address` before the multiplication. -/
def startField (view : MappedAddressView) : UInt64 :=
  if view.startingAddress = kExtendedAddressMarker then view.extendedStartingAddress
  else view.startingAddress.toUInt64

/-- `end_address` before the multiplication. -/
def endField (view : MappedAddressView) : UInt64 :=
  if view.endingAddress = kExtendedAddressMarker then view.extendedEndingAddress
  else view.endingAddress.toUInt64

end MappedAddressView

def isAddressWithinMap (address : UInt64) (view : MappedAddressView) : Bool :=
  let startAddress := view.startField * kBytesPerKilobyte
  let endAddress := view.endField * kBytesPerKilobyte
  address ≥ startAddress && address ≤ endAddress

/-- `"0x%x"`. -/
def hexadecimal (number : Nat) : String := "0x" ++ String.ofList (Nat.toDigits 16 number)

/-- The first loop; the handle is 0 when it ends without a `break`. -/
def findDeviceHandle (address : UInt64) : List MappedAddressView → UInt16
  | [] => 0
  | view :: rest =>
      if isAddressWithinMap address view then view.memoryDeviceHandle
      else findDeviceHandle address rest

/-- The second loop. -/
def findMemoryDevice (deviceHandle : UInt16) :
    List MemoryDeviceView → StatusOr (List Identifier)
  | [] => .error ⟨.notFound,
      "Unable to find memory device with handle " ++ hexadecimal deviceHandle.toNat ++ "."⟩
  | device :: rest =>
      if device.handle = deviceHandle then
        .ok [{ name := device.deviceLocator, type := "dimm" : Identifier }.populated]
      else findMemoryDevice deviceHandle rest

/-- The identifiers of the response. -/
def memoryConvert (smbiosReader : StatusOr SmbiosReader) (physicalAddress : UInt64) :
    StatusOr (List Identifier) := do
  let reader ← smbiosReader
  let deviceHandle := findDeviceHandle physicalAddress reader.memoryDeviceMappedAddresses
  if deviceHandle = 0 then
    .error ⟨.invalidArgument,
      "Unable to find physical address " ++ hexadecimal physicalAddress.toNat ++
        " in the Memory Device Mapped Address table."⟩
  else findMemoryDevice deviceHandle reader.memoryDevices

namespace MappedAddressView

/-- Both fields are in kilobytes, the second naming the last kilobyte of the range. -/
def InKilobytes (view : MappedAddressView) : Prop :=
  view.startingAddress < kExtendedAddressMarker ∧ view.endingAddress < kExtendedAddressMarker ∧
    view.startingAddress ≤ view.endingAddress

/-- Both fields are the marker: the range is in the extended fields, in bytes. -/
def InBytes (view : MappedAddressView) : Prop :=
  view.startingAddress = kExtendedAddressMarker ∧ view.endingAddress = kExtendedAddressMarker

instance (view : MappedAddressView) : Decidable view.InKilobytes :=
  inferInstanceAs (Decidable (_ ∧ _))

instance (view : MappedAddressView) : Decidable view.InBytes :=
  inferInstanceAs (Decidable (_ ∧ _))

/-- The answer for an address is whether the record maps the byte. -/
def AnsweredExactly (view : MappedAddressView) (address : UInt64) : Prop :=
  (view.InKilobytes →
    (isAddressWithinMap address view = true ↔
      view.startingAddress.toNat * 1024 ≤ address.toNat ∧
        address.toNat < (view.endingAddress.toNat + 1) * 1024)) ∧
  (view.InBytes →
    (isAddressWithinMap address view = true ↔
      view.extendedStartingAddress ≤ address ∧ address ≤ view.extendedEndingAddress))

/-- The products fit in 64 bits. -/
def NoWrap (view : MappedAddressView) : Prop :=
  view.startField.toNat * 1024 < 2 ^ 64 ∧ view.endField.toNat * 1024 < 2 ^ 64

/-- The address is none of the 1023 bytes after the first of the last kilobyte. -/
def OutsideLastKilobyte (view : MappedAddressView) (address : UInt64) : Prop :=
  address.toNat ≤ view.endingAddress.toNat * 1024 ∨
    (view.endingAddress.toNat + 1) * 1024 ≤ address.toNat

/-- A number is in both of two ranges or in neither. -/
def InBothOrNeither (first last otherFirst otherLast number : Nat) : Prop :=
  (max first otherFirst ≤ number ∧ number ≤ min last otherLast) ∨
    number < min first otherFirst ∨ max last otherLast < number ∨
    (last < number ∧ number < otherFirst) ∨ (otherLast < number ∧ number < first)

/-- Reading the extended range in kilobytes, modulo 2^64, makes no difference at the address. -/
def SameInKilobytes (view : MappedAddressView) (address : UInt64) : Prop :=
  InBothOrNeither view.extendedStartingAddress.toNat view.extendedEndingAddress.toNat
    (view.extendedStartingAddress.toNat * 1024 % 2 ^ 64)
    (view.extendedEndingAddress.toNat * 1024 % 2 ^ 64) address.toNat

end MappedAddressView

theorem isAddressWithinMap_iff (address : UInt64) (view : MappedAddressView) :
    isAddressWithinMap address view = true ↔
      view.startField.toNat * 1024 % 2 ^ 64 ≤ address.toNat ∧
        address.toNat ≤ view.endField.toNat * 1024 % 2 ^ 64 := by
  unfold isAddressWithinMap
  rw [Bool.and_eq_true, decide_eq_true_iff, decide_eq_true_iff]
  simp only [ge_iff_le, UInt64.le_iff_toNat_le, UInt64.toNat_mul]
  rfl

theorem ne_marker_of_lt {field : UInt32} (short : field < kExtendedAddressMarker) :
    field ≠ kExtendedAddressMarker := by
  intro same
  rw [same] at short
  exact absurd short (by decide)

theorem startField_toNat_of_lt (view : MappedAddressView)
    (short : view.startingAddress < kExtendedAddressMarker) :
    view.startField.toNat = view.startingAddress.toNat := by
  rw [MappedAddressView.startField, if_neg (ne_marker_of_lt short), UInt32.toNat_toUInt64]

theorem endField_toNat_of_lt (view : MappedAddressView)
    (short : view.endingAddress < kExtendedAddressMarker) :
    view.endField.toNat = view.endingAddress.toNat := by
  rw [MappedAddressView.endField, if_neg (ne_marker_of_lt short), UInt32.toNat_toUInt64]

/-- A kilobyte range is answered up to the first byte of its last kilobyte. -/
theorem isAddressWithinMap_inKilobytes (address : UInt64) (view : MappedAddressView)
    (inKilobytes : view.InKilobytes) :
    isAddressWithinMap address view = true ↔
      view.startingAddress.toNat * 1024 ≤ address.toNat ∧
        address.toNat ≤ view.endingAddress.toNat * 1024 := by
  obtain ⟨shortStart, shortEnd, _⟩ := inKilobytes
  rw [isAddressWithinMap_iff, startField_toNat_of_lt view shortStart,
    endField_toNat_of_lt view shortEnd]
  have startBound := view.startingAddress.toNat_lt
  have endBound := view.endingAddress.toNat_lt
  rw [Nat.mod_eq_of_lt (by omega), Nat.mod_eq_of_lt (by omega)]

theorem isAddressWithinMap_inBytes (address : UInt64) (view : MappedAddressView)
    (inBytes : view.InBytes) :
    isAddressWithinMap address view = true ↔
      view.extendedStartingAddress.toNat * 1024 % 2 ^ 64 ≤ address.toNat ∧
        address.toNat ≤ view.extendedEndingAddress.toNat * 1024 % 2 ^ 64 := by
  rw [isAddressWithinMap_iff, MappedAddressView.startField, MappedAddressView.endField,
    if_pos inBytes.1, if_pos inBytes.2]

theorem not_inBytes_of_inKilobytes {view : MappedAddressView} (inKilobytes : view.InKilobytes) :
    ¬ view.InBytes := by
  intro inBytes
  exact ne_marker_of_lt inKilobytes.1 inBytes.1

theorem answeredExactly_inKilobytes (view : MappedAddressView) (address : UInt64)
    (inKilobytes : view.InKilobytes) :
    view.AnsweredExactly address ↔ view.OutsideLastKilobyte address := by
  have answer := isAddressWithinMap_inKilobytes address view inKilobytes
  have ordered := UInt32.le_iff_toNat_le.mp inKilobytes.2.2
  unfold MappedAddressView.AnsweredExactly MappedAddressView.OutsideLastKilobyte
  simp only [inKilobytes, not_inBytes_of_inKilobytes inKilobytes, answer, true_imp_iff,
    false_imp_iff, and_true]
  omega

theorem answeredExactly_inBytes (view : MappedAddressView) (address : UInt64)
    (inBytes : view.InBytes) :
    view.AnsweredExactly address ↔ view.SameInKilobytes address := by
  have answer := isAddressWithinMap_inBytes address view inBytes
  have notInKilobytes : ¬ view.InKilobytes :=
    fun inKilobytes => not_inBytes_of_inKilobytes inKilobytes inBytes
  unfold MappedAddressView.AnsweredExactly MappedAddressView.SameInKilobytes
    MappedAddressView.InBothOrNeither
  simp only [inBytes, notInKilobytes, answer, true_imp_iff, false_imp_iff, true_and,
    UInt64.le_iff_toNat_le]
  omega

/-- The property at one address, in the words of the record and the address. -/
theorem answeredExactly_iff (view : MappedAddressView) (address : UInt64) :
    view.AnsweredExactly address ↔
      (view.InKilobytes → view.OutsideLastKilobyte address) ∧
        (view.InBytes → view.SameInKilobytes address) := by
  by_cases inKilobytes : view.InKilobytes
  · simp only [answeredExactly_inKilobytes view address inKilobytes, inKilobytes,
      not_inBytes_of_inKilobytes inKilobytes, true_imp_iff, false_imp_iff, and_true]
  · by_cases inBytes : view.InBytes
    · simp only [answeredExactly_inBytes view address inBytes, inBytes, inKilobytes,
        true_imp_iff, false_imp_iff, true_and]
    · simp only [MappedAddressView.AnsweredExactly, inKilobytes, inBytes, false_imp_iff,
        and_true]

/-- No kilobyte range is answered exactly at every address. -/
theorem exists_not_answeredExactly (view : MappedAddressView) (inKilobytes : view.InKilobytes) :
    ∃ address, ¬ view.AnsweredExactly address := by
  have bound := view.endingAddress.toNat_lt
  refine ⟨UInt64.ofNat (view.endingAddress.toNat * 1024 + 1), ?_⟩
  rw [answeredExactly_inKilobytes view _ inKilobytes, MappedAddressView.OutsideLastKilobyte,
    UInt64.toNat_ofNat_of_lt' (by rw [UInt64.size]; omega)]
  omega

/-- Two ranges that agree at their ends are equal or both empty. -/
theorem ranges_same_or_empty {first last otherFirst otherLast : Nat}
    (atFirst : MappedAddressView.InBothOrNeither first last otherFirst otherLast first)
    (atLast : MappedAddressView.InBothOrNeither first last otherFirst otherLast last)
    (atOtherFirst : MappedAddressView.InBothOrNeither first last otherFirst otherLast otherFirst)
    (atOtherLast : MappedAddressView.InBothOrNeither first last otherFirst otherLast otherLast) :
    (otherFirst = first ∧ otherLast = last) ∨ (last < first ∧ otherLast < otherFirst) := by
  unfold MappedAddressView.InBothOrNeither at atFirst atLast atOtherFirst atOtherLast
  omega

theorem eq_zero_of_scaled_eq {number : Nat} (bound : number < 2 ^ 64)
    (same : number * 1024 % 2 ^ 64 = number) : number = 0 := by
  omega

/-- A range that is the same in both units is the first byte alone, or empty in both. -/
theorem forall_sameInKilobytes_iff (view : MappedAddressView) :
    (∀ address, view.SameInKilobytes address) ↔
      (view.extendedStartingAddress.toNat = 0 ∧ view.extendedEndingAddress.toNat = 0) ∨
      (view.extendedEndingAddress.toNat < view.extendedStartingAddress.toNat ∧
        view.extendedEndingAddress.toNat * 1024 % 2 ^ 64 <
          view.extendedStartingAddress.toNat * 1024 % 2 ^ 64) := by
  unfold MappedAddressView.SameInKilobytes
  constructor
  · intro same
    have atNumber : ∀ number < 2 ^ 64, _ := fun number bound => by
      have atAddress := same (UInt64.ofNat number)
      rwa [UInt64.toNat_ofNat_of_lt' bound] at atAddress
    rcases ranges_same_or_empty (same view.extendedStartingAddress)
      (same view.extendedEndingAddress) (atNumber _ (Nat.mod_lt _ (by decide)))
      (atNumber _ (Nat.mod_lt _ (by decide))) with equal | empty
    · left
      exact ⟨eq_zero_of_scaled_eq view.extendedStartingAddress.toNat_lt equal.1,
        eq_zero_of_scaled_eq view.extendedEndingAddress.toNat_lt equal.2⟩
    · right
      exact empty
  · intro condition address
    unfold MappedAddressView.InBothOrNeither
    rcases condition with ⟨firstZero, lastZero⟩ | empty
    · rw [firstZero, lastZero]
      omega
    · omega

theorem forall_answeredExactly_iff (view : MappedAddressView) :
    (∀ address, view.AnsweredExactly address) ↔
      ¬ view.InKilobytes ∧ (view.InBytes →
        (view.extendedStartingAddress.toNat = 0 ∧ view.extendedEndingAddress.toNat = 0) ∨
        (view.extendedEndingAddress.toNat < view.extendedStartingAddress.toNat ∧
          view.extendedEndingAddress.toNat * 1024 % 2 ^ 64 <
            view.extendedStartingAddress.toNat * 1024 % 2 ^ 64)) := by
  rw [← forall_sameInKilobytes_iff]
  simp only [answeredExactly_iff]
  constructor
  · intro exact
    refine ⟨fun inKilobytes => ?_, fun inBytes address => (exact address).2 inBytes⟩
    obtain ⟨address, wrong⟩ := exists_not_answeredExactly view inKilobytes
    exact wrong ((answeredExactly_iff view address).mpr (exact address))
  · intro ⟨notInKilobytes, same⟩ address
    exact ⟨fun inKilobytes => absurd inKilobytes notInKilobytes,
      fun inBytes => same inBytes address⟩

theorem noWrap_iff (view : MappedAddressView) :
    view.NoWrap ↔
      (view.startingAddress = kExtendedAddressMarker →
        view.extendedStartingAddress.toNat < 2 ^ 54) ∧
      (view.endingAddress = kExtendedAddressMarker →
        view.extendedEndingAddress.toNat < 2 ^ 54) := by
  have startBound := view.startingAddress.toNat_lt
  have endBound := view.endingAddress.toNat_lt
  unfold MappedAddressView.NoWrap MappedAddressView.startField MappedAddressView.endField
  apply and_congr
  · split_ifs with marked
    · simp only [marked, true_imp_iff]
      omega
    · simp only [marked, false_imp_iff, UInt32.toNat_toUInt64, iff_true]
      omega
  · split_ifs with marked
    · simp only [marked, true_imp_iff]
      omega
    · simp only [marked, false_imp_iff, UInt32.toNat_toUInt64, iff_true]
      omega

/-- The second range begins with the kilobyte after the first. -/
def MappedAddressView.Adjacent (first second : MappedAddressView) : Prop :=
  first.InKilobytes ∧ second.InKilobytes ∧
    second.startingAddress.toNat = first.endingAddress.toNat + 1

instance (first second : MappedAddressView) : Decidable (first.Adjacent second) :=
  inferInstanceAs (Decidable (_ ∧ _))

theorem adjacent_covered_iff {first second : MappedAddressView} (adjacent : first.Adjacent second)
    (address : UInt64) (low : first.startingAddress.toNat * 1024 ≤ address.toNat)
    (high : address.toNat < (second.endingAddress.toNat + 1) * 1024) :
    (isAddressWithinMap address first = true ∨ isAddressWithinMap address second = true) ↔
      first.OutsideLastKilobyte address ∧ second.OutsideLastKilobyte address := by
  obtain ⟨firstShort, secondShort, next⟩ := adjacent
  have ordered := UInt32.le_iff_toNat_le.mp firstShort.2.2
  have secondOrdered := UInt32.le_iff_toNat_le.mp secondShort.2.2
  rw [isAddressWithinMap_inKilobytes address first firstShort,
    isAddressWithinMap_inKilobytes address second secondShort]
  unfold MappedAddressView.OutsideLastKilobyte
  omega

/-- The lookup is exact but for the end of a kilobyte range and the unit of an extended one. -/
theorem isAddressWithinMap_exact (view next : MappedAddressView) (address : UInt64) :
    (view.AnsweredExactly address ↔
      (view.InKilobytes → view.OutsideLastKilobyte address) ∧
        (view.InBytes → view.SameInKilobytes address)) ∧
    ((∀ every, view.AnsweredExactly every) ↔
      ¬ view.InKilobytes ∧ (view.InBytes →
        (view.extendedStartingAddress.toNat = 0 ∧ view.extendedEndingAddress.toNat = 0) ∨
        (view.extendedEndingAddress.toNat < view.extendedStartingAddress.toNat ∧
          view.extendedEndingAddress.toNat * 1024 % 2 ^ 64 <
            view.extendedStartingAddress.toNat * 1024 % 2 ^ 64))) ∧
    (view.Adjacent next → view.startingAddress.toNat * 1024 ≤ address.toNat →
      address.toNat < (next.endingAddress.toNat + 1) * 1024 →
      ((isAddressWithinMap address view = true ∨ isAddressWithinMap address next = true) ↔
        view.OutsideLastKilobyte address ∧ next.OutsideLastKilobyte address)) ∧
    (view.NoWrap ↔
      (view.startingAddress = kExtendedAddressMarker →
        view.extendedStartingAddress.toNat < 2 ^ 54) ∧
      (view.endingAddress = kExtendedAddressMarker →
        view.extendedEndingAddress.toNat < 2 ^ 54)) :=
  ⟨answeredExactly_iff view address, forall_answeredExactly_iff view,
    fun adjacent low high => adjacent_covered_iff adjacent address low high, noWrap_iff view⟩

/-- The sample table's first range, 3 GB from address 0. -/
def sampleView : MappedAddressView where
  startingAddress := 0
  endingAddress := 0x2FFFFF
  memoryDeviceHandle := 0x7000
  extendedStartingAddress := 0
  extendedEndingAddress := 0

/-- The kilobytes after it, up to 4 GB. -/
def nextSampleView : MappedAddressView where
  startingAddress := 0x300000
  endingAddress := 0x3FFFFF
  memoryDeviceHandle := 0x7001
  extendedStartingAddress := 0
  extendedEndingAddress := 0

/-- 4 TB from 4 TB on, in bytes. -/
def extendedView : MappedAddressView where
  startingAddress := kExtendedAddressMarker
  endingAddress := kExtendedAddressMarker
  memoryDeviceHandle := 0x7002
  extendedStartingAddress := 0x40000000000
  extendedEndingAddress := 0x7FFFFFFFFFF

theorem isAddressWithinMap_exact_sample :
    (isAddressWithinMap 0xBFFFFC00 sampleView = true ∨
      isAddressWithinMap 0xBFFFFC00 nextSampleView = true) ↔
        sampleView.OutsideLastKilobyte 0xBFFFFC00 ∧
          nextSampleView.OutsideLastKilobyte 0xBFFFFC00 :=
  (isAddressWithinMap_exact sampleView nextSampleView 0xBFFFFC00).2.2.1 (by decide) (by decide)
    (by decide)

/-- The last byte of the sample range, the first byte of the extended range, a wrapped product. -/
theorem isAddressWithinMap_not_exact :
    ¬ sampleView.AnsweredExactly 0xBFFFFFFF ∧ ¬ extendedView.AnsweredExactly 0x40000000000 ∧
      (isAddressWithinMap 0xBFFFFFFF sampleView = false ∧
        isAddressWithinMap 0xBFFFFFFF nextSampleView = false) ∧
      ¬ { extendedView with extendedEndingAddress := 0x40000000000000 }.NoWrap := by
  refine ⟨fun exact => ?_, fun exact => ?_, by decide, ?_⟩
  · have covered := (exact.1 (by decide)).mpr (by decide)
    exact absurd covered (by decide)
  · have covered := (exact.2 (by decide)).mpr (by decide)
    exact absurd covered (by decide)
  · rw [noWrap_iff]
    exact fun bounds => absurd (bounds.2 rfl) (by decide)

end OcpDiag.HwInterface
