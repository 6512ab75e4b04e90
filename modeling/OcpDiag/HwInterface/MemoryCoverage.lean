import OcpDiag.HwInterface.MemoryConvert

set_option autoImplicit false

/- What the lookup of a physical address answers, by the first record that covers it. -/
namespace OcpDiag.HwInterface

/-- The identifier of a memory device. -/
def MemoryDeviceView.identifier (device : MemoryDeviceView) : Identifier :=
  { name := device.deviceLocator, type := "dimm" : Identifier }.populated

/-- The first record that covers the address. -/
def SmbiosReader.covering (reader : SmbiosReader) (address : UInt64) : Option MappedAddressView :=
  reader.memoryDeviceMappedAddresses.find? (isAddressWithinMap address)

/-- The answer is the device of the first covering record, if there are the two. -/
structure AnswersByCoverage (reader : SmbiosReader) (address : UInt64) : Prop where
  device : ∀ view, reader.covering address = some view →
    ∀ device ∈ reader.memoryDevices, device.handle = view.memoryDeviceHandle →
      memoryConvert (.ok reader) address = .ok [device.identifier]
  notFound : ∀ view, reader.covering address = some view →
    ((∃ message, memoryConvert (.ok reader) address = .error ⟨.notFound, message⟩) ↔
      ∀ device ∈ reader.memoryDevices, device.handle ≠ view.memoryDeviceHandle)
  invalidArgument :
    (∃ message, memoryConvert (.ok reader) address = .error ⟨.invalidArgument, message⟩) ↔
      ∀ view ∈ reader.memoryDeviceMappedAddresses, isAddressWithinMap address view = false

theorem findDeviceHandle_eq (address : UInt64) (views : List MappedAddressView) :
    findDeviceHandle address views =
      ((views.find? (isAddressWithinMap address)).map (·.memoryDeviceHandle)).getD 0 := by
  induction views with
  | nil => rfl
  | cons view rest ih =>
      rw [findDeviceHandle, List.find?_cons, ih]
      cases isAddressWithinMap address view <;> rfl

def uncoveredStatus (address : UInt64) : Status :=
  ⟨.invalidArgument,
    "Unable to find physical address " ++ hexadecimal address.toNat ++
      " in the Memory Device Mapped Address table."⟩

theorem memoryConvert_uncovered (reader : SmbiosReader) (address : UInt64)
    (uncovered : reader.covering address = none) :
    memoryConvert (.ok reader) address = .error (uncoveredStatus address) := by
  unfold SmbiosReader.covering at uncovered
  simp only [memoryConvert, bind, Except.bind, findDeviceHandle_eq, uncovered, Option.map_none,
    Option.getD_none, if_true, uncoveredStatus]

/-- A handle 0 is taken for the mark that no record covers the address. -/
theorem memoryConvert_covered (reader : SmbiosReader) (address : UInt64) (view : MappedAddressView)
    (covered : reader.covering address = some view) :
    memoryConvert (.ok reader) address =
      if view.memoryDeviceHandle = 0 then .error (uncoveredStatus address)
      else findMemoryDevice view.memoryDeviceHandle reader.memoryDevices := by
  unfold SmbiosReader.covering at covered
  simp only [memoryConvert, bind, Except.bind, findDeviceHandle_eq, covered, Option.map_some,
    Option.getD_some, uncoveredStatus]

/-- The second loop stops at the only device with the handle. -/
theorem findMemoryDevice_of_mem (handle : UInt16) (devices : List MemoryDeviceView)
    (distinct : (devices.map (·.handle)).Nodup) (device : MemoryDeviceView)
    (member : device ∈ devices) (same : device.handle = handle) :
    findMemoryDevice handle devices = .ok [device.identifier] := by
  induction devices with
  | nil => cases member
  | cons first rest ih =>
      rw [List.map_cons, List.nodup_cons] at distinct
      rw [findMemoryDevice]
      rcases List.mem_cons.mp member with rfl | later
      · rw [if_pos same]
        rfl
      · have other : first.handle ≠ handle := by
          intro equal
          refine distinct.1 (List.mem_map.mpr ⟨device, later, ?_⟩)
          rw [same, equal]
        rw [if_neg other, ih distinct.2 later]

theorem findMemoryDevice_notFound_iff (handle : UInt16) (devices : List MemoryDeviceView) :
    (∃ message, findMemoryDevice handle devices = .error ⟨.notFound, message⟩) ↔
      ∀ device ∈ devices, device.handle ≠ handle := by
  induction devices with
  | nil => simp [findMemoryDevice]
  | cons first rest ih =>
      rw [findMemoryDevice, List.forall_mem_cons]
      by_cases same : first.handle = handle
      · simp [same]
      · rw [if_neg same, ih]
        exact ⟨fun others => ⟨same, others⟩, fun all => all.2⟩

theorem findMemoryDevice_ne_invalidArgument (handle : UInt16) (devices : List MemoryDeviceView)
    (message : String) :
    findMemoryDevice handle devices ≠ .error ⟨.invalidArgument, message⟩ := by
  induction devices with
  | nil => simp [findMemoryDevice]
  | cons first rest ih =>
      rw [findMemoryDevice]
      by_cases same : first.handle = handle
      · simp [same]
      · simpa only [if_neg same] using ih

/-- The answer goes by coverage unless the first covering record has the handle 0. -/
theorem answersByCoverage_iff (reader : SmbiosReader) (address : UInt64)
    (distinct : (reader.memoryDevices.map (·.handle)).Nodup) :
    AnswersByCoverage reader address ↔
      ∀ view, reader.covering address = some view → view.memoryDeviceHandle ≠ 0 := by
  cases covering : reader.covering address with
  | none =>
      have answer := memoryConvert_uncovered reader address covering
      have uncovered := List.find?_eq_none.mp covering
      refine iff_of_true ⟨?_, ?_, ?_⟩ (fun _ absent => by cases absent)
      · intro view isView
        rw [covering] at isView
        cases isView
      · intro view isView
        rw [covering] at isView
        cases isView
      · rw [answer]
        simpa [uncoveredStatus] using uncovered
  | some view =>
      have answer := memoryConvert_covered reader address view covering
      have covered : ¬ ∀ view ∈ reader.memoryDeviceMappedAddresses,
          isAddressWithinMap address view = false := by
        intro uncovered
        have within := List.find?_some covering
        rw [uncovered view (List.mem_of_find?_eq_some covering)] at within
        cases within
      constructor
      · intro answers other isOther zero
        obtain rfl := Option.some.inj isOther
        rw [if_pos zero] at answer
        exact covered (answers.invalidArgument.mp ⟨_, answer⟩)
      · intro nonzero
        rw [if_neg (nonzero view rfl)] at answer
        refine ⟨?_, ?_, ?_⟩
        · intro other isOther device member same
          obtain rfl := Option.some.inj (covering.symm.trans isOther)
          rw [answer]
          exact findMemoryDevice_of_mem _ _ distinct device member same
        · intro other isOther
          obtain rfl := Option.some.inj (covering.symm.trans isOther)
          rw [answer]
          exact findMemoryDevice_notFound_iff _ _
        · rw [answer]
          refine iff_of_false ?_ covered
          rintro ⟨message, invalid⟩
          exact findMemoryDevice_ne_invalidArgument _ _ _ invalid

/-- The sample tables, with two devices. -/
def sampleReader : SmbiosReader where
  memoryDeviceMappedAddresses := [sampleView, nextSampleView]
  memoryDevices := [⟨0x7000, "DIMM1"⟩, ⟨0x7001, "DIMM2"⟩]

theorem answersByCoverage_iff_sample : AnswersByCoverage sampleReader 1 :=
  (answersByCoverage_iff sampleReader 1 (by decide)).mpr (by
    intro view isView
    obtain rfl : sampleView = view := Option.some.inj isView
    decide)

/-- The device of the sample range with the handle 0. -/
def zeroHandleReader : SmbiosReader where
  memoryDeviceMappedAddresses := [{ sampleView with memoryDeviceHandle := 0 }]
  memoryDevices := [⟨0, "DIMM0"⟩]

theorem memoryConvert_not_byCoverage :
    memoryConvert (.ok zeroHandleReader) 1 = .error (uncoveredStatus 1) ∧
      ¬ AnswersByCoverage zeroHandleReader 1 := by
  refine ⟨by decide, fun answers => ?_⟩
  have refused := answers.invalidArgument.mp ⟨_, rfl⟩
  exact absurd (refused _ List.mem_cons_self) (by decide)

end OcpDiag.HwInterface
