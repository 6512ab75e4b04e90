import OcpDiag.Lib.Trace
import OcpDiag.Results.RunStart

set_option autoImplicit false

/- The ids through which artifacts refer to the infos of a DutInfo. -/
namespace OcpDiag.Results

open ThreadPool

inductive Reference where
  | hardware (id : String)
  | software (id : String)
  deriving DecidableEq, Repr

namespace Pb

/-- A hardware_info_id that is not set is empty. -/
def hardwareReference (id : String) : List Reference := if id.isEmpty then [] else [.hardware id]

def Error.references (proto : Error) : List Reference := proto.softwareInfoIds.map .software

def TestStepVariant.references : TestStepVariant → List Reference
  | .measurement proto => hardwareReference proto.hardwareInfoId
  | .measurementSeriesStart proto => hardwareReference proto.hardwareInfoId
  | .diagnosis proto => hardwareReference proto.hardwareInfoId
  | .error proto => proto.references
  | _ => []

def DutInfo.references (proto : DutInfo) : List Reference :=
  proto.hardwareInfos.map (.hardware ·.hardwareInfoId) ++
    proto.softwareInfos.map (.software ·.softwareInfoId)

/-- The hardware_info_ids and software_info_ids that occur in an artifact. -/
def OutputVariant.references : OutputVariant → List Reference
  | .testRunArtifact (.testRunStart start) =>
      match start.dutInfo with
      | none => []
      | some dut => dut.references
  | .testRunArtifact (.error proto) => proto.references
  | .testStepArtifact proto => proto.artifact.references
  | _ => []

end Pb

def hardwareReferences (hardwareInfo : Option RegisteredHardwareInfo) : List Reference :=
  (hardwareInfo.map fun reference => .hardware reference.id).toList

def Error.references (error : Error) : List Reference :=
  error.softwareInfos.map fun reference => .software reference.id

/-- What a test passes to the library in a call. -/
def Call.references : Call → List Reference
  | .addPreStartError error => error.references
  | .addMeasurement _ measurement => hardwareReferences measurement.hardwareInfo
  | .addDiagnosis _ diagnosis => hardwareReferences diagnosis.hardwareInfo
  | .addError _ error => error.references
  | .newMeasurementSeries _ start => hardwareReferences start.hardwareInfo
  | _ => []

def TestRun.Frame.references : TestRun.Frame → List Reference
  | .addPreStartError error => error.references
  | .writePreStartError proto => proto.references
  | _ => []

def TestStep.Frame.references : TestStep.Frame → List Reference
  | .notifyFailureDiagnosis added | .setError added | .notifyError added | .checkEnded added _
  | .assignIdAndEmit added _ => added.variant.references
  | _ => []

def MeasurementSeries.Frame.references : MeasurementSeries.Frame → List Reference
  | .checkStep start | .emitStart start => hardwareReferences start.hardwareInfo
  | _ => []

/-- What a thread has been passed and not written yet. -/
def Frame.references : Frame → List Reference
  | .run frame => frame.references
  | .step _ frame => frame.references
  | .series _ frame => frame.references
  | _ => []

namespace Process

section

variable {settings : Settings} {thread : ThreadId} {label : Label} {process next : Process}
  {frame after : Frame}

end

/-- The infos of a DutInfo are those that the test has got references for. -/
structure Tables (process : Process) (ref : DutRef) : Prop where
  numbered : (process.dutInfos ref).Numbered
  hardware : ∀ info id, (ref, info, ⟨id⟩) ∈ process.hardwareReturned ↔
    ⟨info, id⟩ ∈ (process.dutInfos ref).hardwareInfos
  software : ∀ info id, (ref, info, ⟨id⟩) ∈ process.softwareReturned ↔
    ⟨info, id⟩ ∈ (process.dutInfos ref).softwareInfos

/-- What a call of a DutInfo adds to it is what it returns. -/
structure Extends (ref : DutRef) (before after : DutInfo)
    (hardware : List (DutRef × HardwareInfo × RegisteredHardwareInfo))
    (software : List (DutRef × SoftwareInfo × RegisteredSoftwareInfo)) : Prop where
  numbered : before.Numbered → after.Numbered
  hardwareInfos : after.hardwareInfos =
    before.hardwareInfos ++ hardware.map fun entry => ⟨entry.2.1, entry.2.2.id⟩
  softwareInfos : after.softwareInfos =
    before.softwareInfos ++ software.map fun entry => ⟨entry.2.1, entry.2.2.id⟩
  hardwareOwn : ∀ entry ∈ hardware, entry.1 = ref
  softwareOwn : ∀ entry ∈ software, entry.1 = ref

/-- What a step does to the DutInfos: nothing but perhaps to hand one on, or it makes one, or the
test calls one that it holds. -/
inductive DutMove (process next : Process) : Prop
  | same : next.dutInfos = process.dutInfos → next.dutCount = process.dutCount →
      next.hardwareReturned = process.hardwareReturned →
      next.softwareReturned = process.softwareReturned →
      (∀ ref, next.dutOwner ref ≠ .nobody → process.dutOwner ref ≠ .nobody) →
      (∀ ref, next.dutOwner ref = .caller → process.dutOwner ref = .caller) → DutMove process next
  | born (name id : String) :
      next.dutInfos = Function.update process.dutInfos process.dutCount { name, id } →
      next.dutCount = process.dutCount + 1 →
      next.hardwareReturned = process.hardwareReturned →
      next.softwareReturned = process.softwareReturned →
      next.dutOwner = Function.update process.dutOwner process.dutCount .caller →
      DutMove process next
  | called (ref : DutRef) (dutInfo : DutInfo)
      (hardware : List (DutRef × HardwareInfo × RegisteredHardwareInfo))
      (software : List (DutRef × SoftwareInfo × RegisteredSoftwareInfo)) :
      process.dutOwner ref = .caller →
      Extends ref (process.dutInfos ref) dutInfo hardware software →
      next.dutInfos = Function.update process.dutInfos ref dutInfo →
      next.dutCount = process.dutCount →
      next.hardwareReturned = process.hardwareReturned ++ hardware →
      next.softwareReturned = process.softwareReturned ++ software →
      next.dutOwner = process.dutOwner → DutMove process next

section

variable {settings : Settings} {thread : ThreadId} {label : Label} {process next : Process}
  {frame after : Frame}

/-- The DutInfos, and the one that the run has, against the stream. -/
structure Recorded (settings : Settings) (process : Process) : Prop where
  owned : ∀ ref, process.dutOwner ref ≠ .nobody → ref < process.dutCount
  hardware : ∀ entry ∈ process.hardwareReturned, entry.1 < process.dutCount
  software : ∀ entry ∈ process.softwareReturned, entry.1 < process.dutCount
  tables : ∀ ref, ref < process.dutCount → process.Tables ref
  registered : ∀ ref, process.run.dutInfo = some ref →
    ref < process.dutCount ∧ process.dutOwner ref ≠ .caller
  start : ∀ start, .testRunArtifact (.testRunStart start) ∈ process.artifacts →
    ∀ ref, process.run.dutInfo = some ref → ∃ dut, start.dutInfo = some dut ∧
      dutInfoToProto settings.protobuf (process.dutInfos ref) = .ok dut

theorem Extends.tables {ref : DutRef} {dutInfo : DutInfo}
    {hardware : List (DutRef × HardwareInfo × RegisteredHardwareInfo)}
    {software : List (DutRef × SoftwareInfo × RegisteredSoftwareInfo)}
    (extended : Extends ref (process.dutInfos ref) dutInfo hardware software)
    (tables : process.Tables ref) (same : next.dutInfos ref = dutInfo)
    (hardwareReturned : next.hardwareReturned = process.hardwareReturned ++ hardware)
    (softwareReturned : next.softwareReturned = process.softwareReturned ++ software) :
    next.Tables ref := by
  refine ⟨?_, fun info id => ?_, fun info id => ?_⟩
  · rw [same]
    exact extended.numbered tables.numbered
  · rw [same, extended.hardwareInfos, hardwareReturned, List.mem_append, List.mem_append,
      tables.hardware info id]
    refine or_congr_right ⟨fun member => List.mem_map.mpr ⟨_, member, rfl⟩, fun member => ?_⟩
    obtain ⟨⟨owner, entryInfo, reference⟩, isMember, sameEntry⟩ := List.mem_map.mp member
    obtain rfl := extended.hardwareOwn _ isMember
    cases sameEntry
    exact isMember
  · rw [same, extended.softwareInfos, softwareReturned, List.mem_append, List.mem_append,
      tables.software info id]
    refine or_congr_right ⟨fun member => List.mem_map.mpr ⟨_, member, rfl⟩, fun member => ?_⟩
    obtain ⟨⟨owner, entryInfo, reference⟩, isMember, sameEntry⟩ := List.mem_map.mp member
    obtain rfl := extended.softwareOwn _ isMember
    cases sameEntry
    exact isMember

/-- The other DutInfos keep what they have. -/
theorem Tables.of_same {ref : DutRef} (tables : process.Tables ref)
    (same : next.dutInfos ref = process.dutInfos ref)
    (hardware : ∀ info reference, (ref, info, reference) ∈ next.hardwareReturned ↔
      (ref, info, reference) ∈ process.hardwareReturned)
    (software : ∀ info reference, (ref, info, reference) ∈ next.softwareReturned ↔
      (ref, info, reference) ∈ process.softwareReturned) : next.Tables ref := by
  refine ⟨same ▸ tables.numbered, fun info id => ?_, fun info id => ?_⟩
  · rw [same, hardware]
    exact tables.hardware info id
  · rw [same, software]
    exact tables.software info id

theorem DutMove.tables (move : DutMove process next) (recorded : process.Recorded settings)
    (ref : DutRef) (allocated : ref < next.dutCount) : next.Tables ref := by
  cases move with
  | same dutInfos dutCount hardware software _ _ =>
      exact (recorded.tables ref (dutCount ▸ allocated)).of_same (by rw [dutInfos])
        (by simp [hardware]) (by simp [software])
  | born name id dutInfos dutCount hardware software _ =>
      by_cases new : ref = process.dutCount
      · subst new
        refine ⟨?_, fun info id => ?_, fun info id => ?_⟩
        · rw [dutInfos, Function.update_self]
          exact ⟨Registry.numbered_nil, Registry.numbered_nil⟩
        · rw [dutInfos, Function.update_self, hardware]
          refine ⟨fun member => absurd (recorded.hardware _ member) (Nat.lt_irrefl _), nofun⟩
        · rw [dutInfos, Function.update_self, software]
          refine ⟨fun member => absurd (recorded.software _ member) (Nat.lt_irrefl _), nofun⟩
      · have below : ref < process.dutCount + 1 := dutCount ▸ allocated
        have older : ref < process.dutCount := Nat.lt_of_le_of_ne (Nat.lt_succ_iff.mp below) new
        exact (recorded.tables ref older).of_same (by rw [dutInfos, Function.update_of_ne new])
          (by simp [hardware]) (by simp [software])
  | called owner dutInfo hardware software isCaller extended dutInfos dutCount hardwareReturned
      softwareReturned _ =>
      have tables := recorded.tables ref (dutCount ▸ allocated)
      by_cases self : ref = owner
      · subst self
        exact extended.tables tables (by rw [dutInfos, Function.update_self]) hardwareReturned
          softwareReturned
      · refine tables.of_same (by rw [dutInfos, Function.update_of_ne self]) ?_ ?_
        · intro info reference
          rw [hardwareReturned, List.mem_append, or_iff_left]
          exact fun member => self (extended.hardwareOwn _ member)
        · intro info reference
          rw [softwareReturned, List.mem_append, or_iff_left]
          exact fun member => self (extended.softwareOwn _ member)

/-- What the test has once got it keeps. -/
structure KeepsReturned (before after : Process) : Prop where
  hardware : before.hardwareReturned ⊆ after.hardwareReturned
  software : before.softwareReturned ⊆ after.softwareReturned

/-- The DutInfo of the run is out of reach for the test. -/
theorem DutMove.registered (move : DutMove process next) (ref : DutRef)
    (allocated : ref < process.dutCount) (given : process.dutOwner ref ≠ .caller) :
    next.dutInfos ref = process.dutInfos ref ∧ ref < next.dutCount ∧
      next.dutOwner ref ≠ .caller := by
  cases move with
  | same dutInfos dutCount _ _ _ caller =>
      exact ⟨by rw [dutInfos], dutCount ▸ allocated, fun isCaller => given (caller ref isCaller)⟩
  | born name id dutInfos dutCount _ _ owner =>
      have older : ref ≠ process.dutCount := Nat.ne_of_lt allocated
      refine ⟨by rw [dutInfos, Function.update_of_ne older],
        dutCount ▸ Nat.lt_succ_of_lt allocated, ?_⟩
      rwa [owner, Function.update_of_ne older]
  | called other dutInfo hardware software isCaller extended dutInfos dutCount _ _ owner =>
      have different : ref ≠ other := by
        rintro rfl
        exact given isCaller
      refine ⟨by rw [dutInfos, Function.update_of_ne different], dutCount ▸ allocated, ?_⟩
      rwa [owner]

theorem DutMove.recorded (move : DutMove process next) (recorded : process.Recorded settings) :
    (∀ ref, next.dutOwner ref ≠ .nobody → ref < next.dutCount) ∧
    (∀ entry ∈ next.hardwareReturned, entry.1 < next.dutCount) ∧
    ∀ entry ∈ next.softwareReturned, entry.1 < next.dutCount := by
  cases move with
  | same _ dutCount hardware software held _ =>
      rw [dutCount, hardware, software]
      exact ⟨fun ref isHeld => recorded.owned ref (held ref isHeld), recorded.hardware,
        recorded.software⟩
  | born name id _ dutCount hardware software owner =>
      rw [dutCount, hardware, software, owner]
      refine ⟨fun ref isHeld => ?_, fun entry member => ?_, fun entry member => ?_⟩
      · by_cases new : ref = process.dutCount
        · exact new ▸ Nat.lt_succ_self _
        · rw [Function.update_of_ne new] at isHeld
          exact Nat.lt_succ_of_lt (recorded.owned ref isHeld)
      · exact Nat.lt_succ_of_lt (recorded.hardware entry member)
      · exact Nat.lt_succ_of_lt (recorded.software entry member)
  | called ref dutInfo hardware software isCaller extended _ dutCount hardwareReturned
      softwareReturned owner =>
      have allocated : ref < process.dutCount := recorded.owned ref (by simp [isCaller])
      rw [dutCount, hardwareReturned, softwareReturned, owner]
      refine ⟨recorded.owned, fun entry member => ?_, fun entry member => ?_⟩
      · rcases List.mem_append.mp member with old | new
        · exact recorded.hardware entry old
        · exact extended.hardwareOwn entry new ▸ allocated
      · rcases List.mem_append.mp member with old | new
        · exact recorded.software entry old
        · exact extended.softwareOwn entry new ▸ allocated

end

/-- The test has got the reference from the DutInfo. -/
def Returned (process : Process) (dutInfo : DutRef) : Reference → Prop
  | .hardware id => ∃ info, (dutInfo, info, ⟨id⟩) ∈ process.hardwareReturned
  | .software id => ∃ info, (dutInfo, info, ⟨id⟩) ∈ process.softwareReturned

theorem Returned.keeps {before after : Process} {dutInfo : DutRef} {reference : Reference}
    (keeps : KeepsReturned before after) (returned : before.Returned dutInfo reference) :
    after.Returned dutInfo reference := by
  cases reference with
  | hardware id => exact returned.imp fun _ member => keeps.hardware member
  | software id => exact returned.imp fun _ member => keeps.software member

theorem dutInfoToProto_infos {protobuf : Protobuf} {dutInfo : DutInfo} {dut : Pb.DutInfo}
    (converted : dutInfoToProto protobuf dutInfo = .ok dut) :
    dut.hardwareInfos = dutInfo.hardwareInfos.map (·.structToProto) ∧
      dut.softwareInfos = dutInfo.softwareInfos.map (·.structToProto) := by
  simp only [dutInfoToProto, Outcome.bind_eq_ok, Outcome.pure_eq_ok, Outcome.ok.injEq] at converted
  obtain ⟨_, _, rfl⟩ := converted
  exact ⟨rfl, rfl⟩

/-- The infos that the TestRunStart lists are themselves those that were returned. -/
theorem Tables.returned {process : Process} {protobuf : Protobuf} {ref : DutRef} {dut : Pb.DutInfo}
    {reference : Reference} (tables : process.Tables ref)
    (converted : dutInfoToProto protobuf (process.dutInfos ref) = .ok dut)
    (occurs : reference ∈ dut.references) : process.Returned ref reference := by
  obtain ⟨hardwareInfos, softwareInfos⟩ := dutInfoToProto_infos converted
  simp only [Pb.DutInfo.references, hardwareInfos, softwareInfos, List.map_map] at occurs
  rcases List.mem_append.mp occurs with isHardware | isSoftware
  · obtain ⟨⟨info, id⟩, member, rfl⟩ := List.mem_map.mp isHardware
    exact ⟨info, (tables.hardware info id).mpr member⟩
  · obtain ⟨⟨info, id⟩, member, rfl⟩ := List.mem_map.mp isSoftware
    exact ⟨info, (tables.software info id).mpr member⟩

end Process

end OcpDiag.Results
