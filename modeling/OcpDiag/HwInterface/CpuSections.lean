import OcpDiag.HwInterface.CpuInfo
import OcpDiag.HwInterface.CpuIdentity

set_option autoImplicit false

/- The sections of a `GetCpuInfo` response do not depend on each other. -/
namespace OcpDiag.HwInterface

namespace Cpu

/-- The sections that the types name; the other ones are empty. -/
def Info.restrict (infoTypes : List Int) (info : Info) : Info where
  topology := if infoTypeHave infoTypes InfoType.topology.number then info.topology else none
  signature := if infoTypeHave infoTypes InfoType.signature.number then info.signature else none
  lpuInfo := if infoTypeHave infoTypes InfoType.lpuInfo.number then info.lpuInfo else ∅
  frequency := if infoTypeHave infoTypes InfoType.frequency.number then info.frequency else ∅
  thermalThrottleCount :=
    if infoTypeHave infoTypes InfoType.throttleInfo.number then info.thermalThrottleCount else ∅
  lpuIdentifiers :=
    if infoTypeHave infoTypes InfoType.lpuIdentifier.number then info.lpuIdentifiers else ∅
  socketIdentifiers :=
    if infoTypeHave infoTypes InfoType.socketIdentifier.number then info.socketIdentifiers else ∅
  packageIdentifiers :=
    if infoTypeHave infoTypes InfoType.packageIdentifier.number then info.packageIdentifiers
    else ∅

theorem restrict_empty (infoTypes : List Int) : ({} : Info).restrict infoTypes = {} := by
  simp [Info.restrict]

section Gather

variable (host : HostFiles)

/-- A second Gather gives what the first one gave. -/
theorem topology_gather_again :
    (CpuTopology.gather host {}).2.gather host = CpuTopology.gather host {} := rfl

theorem signature_gather_again :
    (CpuSignature.gather host {}).2.gather host = CpuSignature.gather host {} := rfl

/-- The objects are new, or they are gathered. -/
structure Query.Settled (query : Query) : Prop where
  topology : query.topology = {} ∨ query.topology = (CpuTopology.gather host {}).2
  sig : query.sig = {} ∨ query.sig = (CpuSignature.gather host {}).2

variable {host} {query : Query}

theorem gatherTopology_eq (settled : query.Settled host) :
    query.gatherTopology host =
      (CpuTopology.gather host {}).1.map fun _ =>
        { query with topology := (CpuTopology.gather host {}).2 } := by
  have same : query.topology.gather host = CpuTopology.gather host {} := by
    rcases settled.topology with new | gathered
    · rw [new]
    · rw [gathered, topology_gather_again]
  unfold Query.gatherTopology
  rw [same]
  rcases CpuTopology.gather host {} with ⟨status | done, topology⟩ <;> rfl

theorem gatherSignature_eq (settled : query.Settled host) :
    query.gatherSignature host =
      (CpuSignature.gather host {}).1.map fun _ =>
        { query with sig := (CpuSignature.gather host {}).2 } := by
  have same : query.sig.gather host = CpuSignature.gather host {} := by
    rcases settled.sig with new | gathered
    · rw [new]
    · rw [gathered, signature_gather_again]
  unfold Query.gatherSignature
  rw [same]
  rcases CpuSignature.gather host {} with ⟨status | done, sig⟩ <;> rfl

end Gather

/-- The section of a type: how it is read and written, and that it is the type's alone. -/
structure Part (type : InfoType) where
  Contents : Type
  get : Info → Contents
  set : Contents → Info → Info
  get_restrict : ∀ infoTypes, infoTypeHave infoTypes type.number = true →
    ∀ info, get (info.restrict infoTypes) = get info
  set_restrict : ∀ infoTypes, infoTypeHave infoTypes type.number = true →
    ∀ value info, set value (info.restrict infoTypes) = (set value info).restrict infoTypes
  restrict_set : ∀ infoTypes, infoTypeHave infoTypes type.number = false →
    ∀ value info, (set value info).restrict infoTypes = info.restrict infoTypes

def InfoType.part : (type : InfoType) → Part type
  | .topology =>
      { Contents := Option Topology
        get := (·.topology)
        set := fun topology info => { info with topology }
        get_restrict := fun _ wanted info => by simp [Info.restrict, wanted]
        set_restrict := fun _ wanted value info => by simp [Info.restrict, wanted]
        restrict_set := fun _ unwanted value info => by simp [Info.restrict, unwanted] }
  | .signature =>
      { Contents := Option Signature
        get := (·.signature)
        set := fun signature info => { info with signature }
        get_restrict := fun _ wanted info => by simp [Info.restrict, wanted]
        set_restrict := fun _ wanted value info => by simp [Info.restrict, wanted]
        restrict_set := fun _ unwanted value info => by simp [Info.restrict, unwanted] }
  | .lpuInfo =>
      { Contents := LpuMap LpuInfo
        get := (·.lpuInfo)
        set := fun lpuInfo info => { info with lpuInfo }
        get_restrict := fun _ wanted info => by simp [Info.restrict, wanted]
        set_restrict := fun _ wanted value info => by simp [Info.restrict, wanted]
        restrict_set := fun _ unwanted value info => by simp [Info.restrict, unwanted] }
  | .frequency =>
      { Contents := LpuMap LpuFrequency
        get := (·.frequency)
        set := fun frequency info => { info with frequency }
        get_restrict := fun _ wanted info => by simp [Info.restrict, wanted]
        set_restrict := fun _ wanted value info => by simp [Info.restrict, wanted]
        restrict_set := fun _ unwanted value info => by simp [Info.restrict, unwanted] }
  | .throttleInfo =>
      { Contents := LpuMap Int
        get := (·.thermalThrottleCount)
        set := fun thermalThrottleCount info => { info with thermalThrottleCount }
        get_restrict := fun _ wanted info => by simp [Info.restrict, wanted]
        set_restrict := fun _ wanted value info => by simp [Info.restrict, wanted]
        restrict_set := fun _ unwanted value info => by simp [Info.restrict, unwanted] }
  | .lpuIdentifier =>
      { Contents := LpuMap Identifier
        get := (·.lpuIdentifiers)
        set := fun lpuIdentifiers info => { info with lpuIdentifiers }
        get_restrict := fun _ wanted info => by simp [Info.restrict, wanted]
        set_restrict := fun _ wanted value info => by simp [Info.restrict, wanted]
        restrict_set := fun _ unwanted value info => by simp [Info.restrict, unwanted] }
  | .socketIdentifier =>
      { Contents := LpuMap Identifier
        get := (·.socketIdentifiers)
        set := fun socketIdentifiers info => { info with socketIdentifiers }
        get_restrict := fun _ wanted info => by simp [Info.restrict, wanted]
        set_restrict := fun _ wanted value info => by simp [Info.restrict, wanted]
        restrict_set := fun _ unwanted value info => by simp [Info.restrict, unwanted] }
  | .packageIdentifier =>
      { Contents := LpuMap Identifier
        get := (·.packageIdentifiers)
        set := fun packageIdentifiers info => { info with packageIdentifiers }
        get_restrict := fun _ wanted info => by simp [Info.restrict, wanted]
        set_restrict := fun _ wanted value info => by simp [Info.restrict, wanted]
        restrict_set := fun _ unwanted value info => by simp [Info.restrict, unwanted] }

section Block

variable (host : HostFiles) (infoTypes : List Int) (type : InfoType) (info : Info)

/-- What a block makes of the response, whatever was gathered before it. -/
def Fill.outcome : Fill → StatusOr Info
  | .ofTopology fill => do
      (CpuTopology.gather host {}).1
      fill host (CpuTopology.gather host {}).2 info
  | .ofSignature fill => do
      (CpuSignature.gather host {}).1
      return fill (CpuSignature.gather host {}).2 info
  | .ofBoth fill => do
      (CpuTopology.gather host {}).1
      (CpuSignature.gather host {}).1
      return fill (CpuTopology.gather host {}).2 (CpuSignature.gather host {}).2 info

variable {host infoTypes type info}

/-- The variables that a block leaves, when it succeeds. -/
def Fill.after (host : HostFiles) (query : Query) (info : Info) : Fill → Query
  | .ofTopology _ => { query with topology := (CpuTopology.gather host {}).2, info }
  | .ofSignature _ => { query with sig := (CpuSignature.gather host {}).2, info }
  | .ofBoth _ =>
      { topology := (CpuTopology.gather host {}).2, sig := (CpuSignature.gather host {}).2, info }

theorem after_settled {query : Query} (settled : query.Settled host) (fill : Fill) :
    (fill.after host query info).Settled host := by
  cases fill with
  | ofTopology fill => exact ⟨.inr rfl, settled.sig⟩
  | ofSignature fill => exact ⟨settled.topology, .inr rfl⟩
  | ofBoth fill => exact ⟨.inr rfl, .inr rfl⟩

theorem run_eq {query : Query} (settled : query.Settled host) (fill : Fill) :
    fill.run host query =
      (fill.outcome host query.info).map fun info => fill.after host query info := by
  cases fill with
  | ofTopology fill =>
      simp only [Fill.run, Fill.outcome, gatherTopology_eq settled]
      cases (CpuTopology.gather host {}).1 with
      | error status => rfl
      | ok done =>
          simp only [Except.map, bind, Except.bind]
          cases fill host (CpuTopology.gather host {}).2 query.info <;> rfl
  | ofSignature fill =>
      simp only [Fill.run, Fill.outcome, gatherSignature_eq settled]
      cases (CpuSignature.gather host {}).1 <;> rfl
  | ofBoth fill =>
      simp only [Fill.run, Fill.outcome, gatherTopology_eq settled]
      cases (CpuTopology.gather host {}).1 with
      | error status => rfl
      | ok done =>
          have still : Query.Settled host
              { query with topology := (CpuTopology.gather host {}).2 } :=
            ⟨.inr rfl, settled.sig⟩
          simp only [Except.map, bind, Except.bind, gatherSignature_eq still]
          cases (CpuSignature.gather host {}).1 <;> rfl

@[simp] theorem after_info (query : Query) (info : Info) (fill : Fill) :
    (fill.after host query info).info = info := by
  cases fill <;> rfl

/-- A block that computes its section once a Gather has succeeded. -/
theorem gathered_section (type : InfoType) (gathered : StatusOr Unit)
    (change : type.part.Contents → type.part.Contents) :
    ∃ load : type.part.Contents → StatusOr type.part.Contents, ∀ info,
      (gathered >>= fun _ => .ok (type.part.set (change (type.part.get info)) info)) =
        (load (type.part.get info)).map fun value => type.part.set value info := by
  refine ⟨fun contents => gathered.map fun _ => change contents, fun info => ?_⟩
  cases gathered <;> rfl

/-- A block that goes through files once a Gather has succeeded. -/
theorem loop_section (type : InfoType) (gathered : StatusOr Unit)
    (loop : type.part.Contents → StatusOr type.part.Contents) :
    ∃ load : type.part.Contents → StatusOr type.part.Contents, ∀ info,
      (gathered >>= fun _ => loop (type.part.get info) >>= fun value =>
          pure (type.part.set value info)) =
        (load (type.part.get info)).map fun value => type.part.set value info := by
  refine ⟨fun contents => gathered >>= fun _ => loop contents, fun info => ?_⟩
  cases gathered with
  | error status => rfl
  | ok done =>
      simp only [bind, Except.bind]
      cases loop (type.part.get info) <;> rfl

/-- What a block writes into its section depends on nothing but the host and the section. -/
theorem outcome_section (host : HostFiles) (type : InfoType) :
    ∃ load : type.part.Contents → StatusOr type.part.Contents, ∀ info,
      type.fill.outcome host info =
        (load (type.part.get info)).map fun value => type.part.set value info := by
  let topology := (CpuTopology.gather host {}).2
  let topologyStatus := (CpuTopology.gather host {}).1
  let sig := (CpuSignature.gather host {}).2
  let sigStatus := (CpuSignature.gather host {}).1
  cases type with
  | topology =>
      exact gathered_section .topology topologyStatus fun _ => (fillTopology topology {}).topology
  | signature =>
      exact gathered_section .signature sigStatus fun _ => (fillSignature sig {}).signature
  | lpuInfo =>
      obtain ⟨load, loads⟩ := gathered_section .lpuInfo (topologyStatus >>= fun _ => sigStatus)
        fun entries => topology.lpus.foldl (addLpuInfo sig) entries
      exact ⟨load, fun info => (bind_assoc topologyStatus _ _).symm.trans (loads info)⟩
  | frequency =>
      exact loop_section .frequency topologyStatus fun entries =>
        topology.lpus.foldlM (addFrequency host) entries
  | throttleInfo =>
      exact loop_section .throttleInfo topologyStatus fun entries =>
        topology.lpus.foldlM (addThrottleInfo host) entries
  | lpuIdentifier =>
      exact gathered_section .lpuIdentifier topologyStatus fun entries =>
        addIdentifiers CpuLpu.name topology entries
  | socketIdentifier =>
      exact gathered_section .socketIdentifier topologyStatus fun entries =>
        addIdentifiers CpuLpu.socketName topology entries
  | packageIdentifier =>
      exact gathered_section .packageIdentifier topologyStatus fun entries =>
        addIdentifiers CpuLpu.socketName topology entries

/-- A block that succeeds fills its section, and as it would wherever the section is the same. -/
theorem filled_section {filled : Info} (outcome : type.fill.outcome host info = .ok filled) :
    ∃ contents, filled = type.part.set contents info ∧
      ∀ other, type.part.get other = type.part.get info →
        type.fill.outcome host other = .ok (type.part.set contents other) := by
  obtain ⟨load, loads⟩ := outcome_section host type
  rw [loads] at outcome
  cases value : load (type.part.get info) with
  | error status =>
      rw [value] at outcome
      cases outcome
  | ok contents =>
      rw [value] at outcome
      refine ⟨contents, (Except.ok.inj outcome).symm, fun other same => ?_⟩
      rw [loads, same, value]
      rfl

/-- A block does to the named sections what it does to all of them. -/
theorem outcome_restrict (wanted : infoTypeHave infoTypes type.number = true) {filled : Info}
    (outcome : type.fill.outcome host info = .ok filled) :
    type.fill.outcome host (info.restrict infoTypes) = .ok (filled.restrict infoTypes) := by
  obtain ⟨contents, rfl, same⟩ := filled_section outcome
  rw [same _ (type.part.get_restrict infoTypes wanted info),
    type.part.set_restrict infoTypes wanted contents info]

/-- A block fills no section but its own. -/
theorem restrict_of_unwanted (unwanted : infoTypeHave infoTypes type.number = false)
    {filled : Info} (outcome : type.fill.outcome host info = .ok filled) :
    filled.restrict infoTypes = info.restrict infoTypes := by
  obtain ⟨contents, rfl, -⟩ := filled_section outcome
  exact type.part.restrict_set infoTypes unwanted contents info

end Block

/-- The call for all sections, and the one for the named sections. -/
structure Restricts (host : HostFiles) (infoTypes : List Int) (full named : Query) : Prop where
  fullSettled : full.Settled host
  namedSettled : named.Settled host
  info : named.info = full.info.restrict infoTypes

theorem runBlock_restricts {host : HostFiles} {infoTypes : List Int} {type : InfoType}
    {full named next : Query} (restricts : Restricts host infoTypes full named)
    (ran : runBlock host [] full type = .ok next) :
    ∃ other, runBlock host infoTypes named type = .ok other ∧
      Restricts host infoTypes next other := by
  have all : type.fill.run host full = .ok next := ran
  rw [run_eq restricts.fullSettled] at all
  cases outcome : type.fill.outcome host full.info with
  | error status =>
      rw [outcome] at all
      cases all
  | ok filled =>
      rw [outcome] at all
      obtain rfl := Except.ok.inj all
      have settled : (type.fill.after host full filled).Settled host :=
        after_settled restricts.fullSettled type.fill
      unfold runBlock
      cases wanted : infoTypeHave infoTypes type.number with
      | true =>
          have sameOutcome := outcome_restrict wanted outcome
          rw [← restricts.info] at sameOutcome
          rw [if_pos rfl, run_eq restricts.namedSettled, sameOutcome]
          exact ⟨_, rfl, settled, after_settled restricts.namedSettled type.fill, by simp⟩
      | false =>
          have untouched := restrict_of_unwanted wanted outcome
          exact ⟨named, rfl, settled, restricts.namedSettled, by simp [restricts.info, untouched]⟩

/-- The induction is on the blocks that are still to come. -/
theorem foldlM_restricts {host : HostFiles} {infoTypes : List Int} (types : List InfoType)
    {full named last : Query} (restricts : Restricts host infoTypes full named)
    (ran : types.foldlM (runBlock host []) full = .ok last) :
    ∃ other, types.foldlM (runBlock host infoTypes) named = .ok other ∧
      Restricts host infoTypes last other := by
  induction types generalizing full named with
  | nil =>
      obtain rfl := Except.ok.inj ran
      exact ⟨named, rfl, restricts⟩
  | cons type types ih =>
      rw [List.foldlM_cons] at ran
      cases here : runBlock host [] full type with
      | error status =>
          rw [here] at ran
          cases ran
      | ok next =>
          rw [here] at ran
          obtain ⟨other, ranOther, restrictsNext⟩ := runBlock_restricts restricts here
          obtain ⟨final, ranFinal, restrictsFinal⟩ := ih restrictsNext ran
          refine ⟨final, ?_, restrictsFinal⟩
          rw [List.foldlM_cons, ranOther]
          exact ranFinal

end Cpu

open Cpu

/-- A call for some sections gives what the call for all sections has in them. -/
theorem getCpuInfo_restrict (host : HostFiles) (infoTypes : List Int) (resp : GetCpuInfoResponse)
    (full : getCpuInfo host { infoTypes := [] } = .ok resp) :
    getCpuInfo host { infoTypes } = .ok { info := resp.info.restrict infoTypes } := by
  unfold getCpuInfo at full ⊢
  cases ran : blocks.foldlM (runBlock host []) {} with
  | error status =>
      simp only [ran] at full
      cases full
  | ok last =>
      simp only [ran] at full
      obtain rfl := Except.ok.inj full
      have start : Restricts host infoTypes {} {} :=
        ⟨⟨.inl rfl, .inl rfl⟩, ⟨.inl rfl, .inl rfl⟩, (restrict_empty infoTypes).symm⟩
      obtain ⟨other, ranOther, restricts⟩ := foldlM_restricts blocks start ran
      simp only [ranOther]
      rw [← restricts.info]
      rfl

/-- One CPU without frequency scaling. -/
def oneCpuHost : HostFiles :=
  hostOfFiles
    ([("/sys/devices/system/node/online", "0"), ("/sys/devices/system/node/node0/cpulist", "0"),
      ("/proc/cpuinfo", "vendor_id\t: GenuineIntel\nmicrocode\t: 0x1f\n"),
      (sysfsCpuPath 0 ++ "/tsc_freq_khz", "2400000"),
      (sysfsCpuPath 0 ++ "/thermal_throttle/core_throttle_count", "3")] ++ cpuFiles "0" "0" "0")

theorem getCpuInfo_restrict_frequency :
    ∃ resp, getCpuInfo oneCpuHost { infoTypes := [] } = .ok resp ∧
      getCpuInfo oneCpuHost { infoTypes := [4, 99, 4] } =
        .ok { info := resp.info.restrict [4, 99, 4] } := by
  have succeeds : (getCpuInfo oneCpuHost { infoTypes := [] }).toOption.isSome = true := by decide
  cases full : getCpuInfo oneCpuHost { infoTypes := [] } with
  | error status =>
      rw [full] at succeeds
      cases succeeds
  | ok resp => exact ⟨resp, rfl, getCpuInfo_restrict oneCpuHost [4, 99, 4] resp full⟩

end OcpDiag.HwInterface
