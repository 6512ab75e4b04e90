import OcpDiag.Lib.MapFill
import OcpDiag.HwInterface.CpuSections
import OcpDiag.HwInterface.HwInfo

set_option autoImplicit false

/- The sections of one `GetCpuInfo` response tell of the same logical CPUs. -/
namespace OcpDiag.HwInterface.Cpu

open MapFill (Filled)

def LpuInfo.ofLpu (sig : CpuSignature) (lpu : CpuLpu) : LpuInfo where
  socketId := lpu.socketId
  dieId := lpu.dieId
  coreId := lpu.coreId
  threadId := lpu.threadId
  numaNodeId := lpu.numaNodeId
  microcodeRevision := sig.microcode

/-- An identifier that has a name alone. -/
def named (name : String) : Identifier := Identifier.populated { name }

theorem filled_lpuInfo (sig : CpuSignature) (lpus : List CpuLpu) :
    Filled CpuLpu.cpuId (fun lpu info => info = .ofLpu sig lpu) lpus
      (lpus.foldl (addLpuInfo sig) ∅) :=
  MapFill.filled_foldl (fun _ _ lpu _ => ⟨.ofLpu sig lpu, rfl, rfl⟩) lpus

/-- A name that is set again is set on an identifier with nothing but a name. -/
theorem filled_identifiers (name : CpuLpu → String) (topology : CpuTopology) :
    Filled CpuLpu.cpuId (fun lpu id => id = named (name lpu)) topology.lpus
      (addIdentifiers name topology ∅) := by
  refine MapFill.filled_foldl (fun lpus entries lpu filled => ?_) topology.lpus
  refine ⟨named (name lpu), ?_, rfl⟩
  unfold LpuMap.update
  cases before : entries.lookup lpu.cpuId with
  | none => rfl
  | some id =>
      obtain ⟨other, rfl⟩ := filled.lookup before
      rfl

theorem frequency_gather_cpuId {host : HostFiles} {freq gathered : CpuFrequency}
    (ok : freq.gather host = .ok gathered) : gathered.cpuId = freq.cpuId := by
  unfold CpuFrequency.gather at ok
  cases cpuinfo : host "/proc/cpuinfo" with
  | error status => rw [cpuinfo] at ok; cases ok
  | ok text =>
      cases design : parseIntegerFile host (sysfsCpuPath freq.cpuId ++ "/tsc_freq_khz") with
      | error status => simp only [cpuinfo, design, bind, Except.bind] at ok; cases ok
      | ok designFreq =>
          simp only [cpuinfo, design, bind, Except.bind] at ok
          split at ok
          · split at ok
            · cases ok
            · cases ok
              rfl
          · split at ok
            · cases ok
              rfl
            · cases ok

theorem throttle_gather_cpuId {host : HostFiles} {throttle gathered : CpuThrottleInfo}
    (ok : throttle.gather host = .ok gathered) : gathered.cpuId = throttle.cpuId := by
  unfold CpuThrottleInfo.gather at ok
  cases count : parseIntegerFile host
      (sysfsCpuPath throttle.cpuId ++ "/thermal_throttle/core_throttle_count") with
  | error status => rw [count] at ok; cases ok
  | ok coreThrottleCount =>
      rw [count] at ok
      cases ok
      rfl

theorem filled_frequency {host : HostFiles} {lpus : List CpuLpu}
    {frequency : LpuMap LpuFrequency}
    (ok : lpus.foldlM (addFrequency host) ∅ = .ok frequency) :
    Filled CpuLpu.cpuId (fun _ _ => True) lpus frequency := by
  refine MapFill.filled_foldlM (fun lpus entries lpu next _ added => ?_) lpus frequency ok
  unfold addFrequency at added
  cases gathered : CpuFrequency.gather host { cpuId := lpu.cpuId } with
  | error status => rw [gathered] at added; cases added
  | ok cpuFreq =>
      rw [gathered] at added
      cases added
      rw [LpuMap.update, frequency_gather_cpuId gathered]
      exact ⟨_, rfl, trivial⟩

theorem filled_throttleInfo {host : HostFiles} {lpus : List CpuLpu}
    {thermalThrottleCount : LpuMap Int}
    (ok : lpus.foldlM (addThrottleInfo host) ∅ = .ok thermalThrottleCount) :
    Filled CpuLpu.cpuId (fun _ _ => True) lpus thermalThrottleCount := by
  refine MapFill.filled_foldlM (fun lpus entries lpu next _ added => ?_) lpus _ ok
  unfold addThrottleInfo at added
  cases gathered : CpuThrottleInfo.gather host { cpuId := lpu.cpuId } with
  | error status => rw [gathered] at added; cases added
  | ok cpuThrottle =>
      rw [gathered] at added
      cases added
      rw [throttle_gather_cpuId gathered]
      exact ⟨_, rfl, trivial⟩

section Blocks

variable {host : HostFiles} {info filled : Info}

theorem fill_of_ofTopology {fill : HostFiles → CpuTopology → Info → StatusOr Info}
    (ok : (Fill.ofTopology fill).outcome host info = .ok filled) :
    fill host (CpuTopology.gather host {}).2 info = .ok filled := by
  unfold Fill.outcome at ok
  cases gathered : (CpuTopology.gather host {}).1 with
  | error status => rw [gathered] at ok; cases ok
  | ok done => rw [gathered] at ok; exact ok

theorem fill_of_ofSignature {fill : CpuSignature → Info → Info}
    (ok : (Fill.ofSignature fill).outcome host info = .ok filled) :
    fill (CpuSignature.gather host {}).2 info = filled := by
  unfold Fill.outcome at ok
  cases gathered : (CpuSignature.gather host {}).1 with
  | error status => rw [gathered] at ok; cases ok
  | ok done => rw [gathered] at ok; exact Except.ok.inj ok

theorem fill_of_ofBoth {fill : CpuTopology → CpuSignature → Info → Info}
    (ok : (Fill.ofBoth fill).outcome host info = .ok filled) :
    fill (CpuTopology.gather host {}).2 (CpuSignature.gather host {}).2 info = filled := by
  unfold Fill.outcome at ok
  cases gathered : (CpuTopology.gather host {}).1 with
  | error status => rw [gathered] at ok; cases ok
  | ok done =>
      rw [gathered] at ok
      cases signed : (CpuSignature.gather host {}).1 with
      | error status => rw [signed] at ok; cases ok
      | ok done => rw [signed] at ok; exact Except.ok.inj ok

/-- The first block of a full request, and the request that goes on from what it has filled. -/
theorem foldlM_cons_full {type : InfoType} {types : List InfoType} {query final : Query}
    (has : query.info = info) (settled : query.Settled host)
    (ran : (type :: types).foldlM (runBlock host []) query = .ok final) :
    ∃ filled, ∃ next : Query, type.fill.outcome host info = .ok filled ∧ next.info = filled ∧
      next.Settled host ∧ types.foldlM (runBlock host []) next = .ok final := by
  subst has
  rw [List.foldlM_cons] at ran
  have first : runBlock host [] query type = type.fill.run host query := rfl
  rw [first, run_eq settled] at ran
  cases outcome : type.fill.outcome host query.info with
  | error status => rw [outcome] at ran; cases ran
  | ok filled =>
      rw [outcome] at ran
      exact ⟨filled, type.fill.after host query filled, rfl, after_info query filled type.fill,
        after_settled settled type.fill, ran⟩

theorem fillFrequency_eq_ok {topology : CpuTopology}
    (ok : fillFrequency host topology info = .ok filled) :
    ∃ frequency, topology.lpus.foldlM (addFrequency host) info.frequency = .ok frequency ∧
      { info with frequency } = filled := by
  unfold fillFrequency at ok
  cases looped : topology.lpus.foldlM (addFrequency host) info.frequency with
  | error status => rw [looped] at ok; cases ok
  | ok frequency => rw [looped] at ok; exact ⟨frequency, rfl, Except.ok.inj ok⟩

theorem fillThrottleInfo_eq_ok {topology : CpuTopology}
    (ok : fillThrottleInfo host topology info = .ok filled) :
    ∃ thermalThrottleCount,
      topology.lpus.foldlM (addThrottleInfo host) info.thermalThrottleCount =
        .ok thermalThrottleCount ∧
      { info with thermalThrottleCount } = filled := by
  unfold fillThrottleInfo at ok
  cases looped : topology.lpus.foldlM (addThrottleInfo host) info.thermalThrottleCount with
  | error status => rw [looped] at ok; cases ok
  | ok thermalThrottleCount =>
      rw [looped] at ok
      exact ⟨thermalThrottleCount, rfl, Except.ok.inj ok⟩

end Blocks

/-- What every map of the response comes from. -/
structure OfLpus (host : HostFiles) (sig : CpuSignature) (lpus : List CpuLpu) (info : Info) :
    Prop where
  lpuInfo : Filled CpuLpu.cpuId (fun lpu entry => entry = .ofLpu sig lpu) lpus info.lpuInfo
  frequency : Filled CpuLpu.cpuId (fun _ _ => True) lpus info.frequency
  thermalThrottleCount : Filled CpuLpu.cpuId (fun _ _ => True) lpus info.thermalThrottleCount
  lpuIdentifiers :
    Filled CpuLpu.cpuId (fun lpu id => id = named lpu.name) lpus info.lpuIdentifiers
  socketIdentifiers :
    Filled CpuLpu.cpuId (fun lpu id => id = named lpu.socketName) lpus info.socketIdentifiers
  packageIdentifiers : info.packageIdentifiers = info.socketIdentifiers

theorem ofLpus_of_full {host : HostFiles} {resp : GetCpuInfoResponse}
    (full : getCpuInfo host { infoTypes := [] } = .ok resp) :
    ∃ sig lpus, OfLpus host sig lpus resp.info := by
  unfold getCpuInfo at full
  cases ran : blocks.foldlM (runBlock host []) {} with
  | error status => rw [ran] at full; cases full
  | ok final =>
      rw [ran] at full
      obtain rfl := Except.ok.inj full
      have start : Query.Settled host {} := ⟨.inl rfl, .inl rfl⟩
      obtain ⟨_, _, topology, has, settled, ran⟩ := foldlM_cons_full rfl start ran
      cases fill_of_ofTopology topology
      obtain ⟨_, _, signature, has, settled, ran⟩ := foldlM_cons_full has settled ran
      cases fill_of_ofSignature signature
      obtain ⟨_, _, lpuInfo, has, settled, ran⟩ := foldlM_cons_full has settled ran
      cases fill_of_ofBoth lpuInfo
      obtain ⟨_, _, frequency, has, settled, ran⟩ := foldlM_cons_full has settled ran
      obtain ⟨frequencies, read, rfl⟩ := fillFrequency_eq_ok (fill_of_ofTopology frequency)
      obtain ⟨_, _, throttleInfo, has, settled, ran⟩ := foldlM_cons_full has settled ran
      obtain ⟨counts, counted, rfl⟩ := fillThrottleInfo_eq_ok (fill_of_ofTopology throttleInfo)
      obtain ⟨_, _, lpuIdentifier, has, settled, ran⟩ := foldlM_cons_full has settled ran
      cases fill_of_ofTopology lpuIdentifier
      obtain ⟨_, _, socketIdentifier, has, settled, ran⟩ := foldlM_cons_full has settled ran
      cases fill_of_ofTopology socketIdentifier
      obtain ⟨_, _, packageIdentifier, has, settled, ran⟩ := foldlM_cons_full has settled ran
      cases fill_of_ofTopology packageIdentifier
      cases ran
      refine ⟨(CpuSignature.gather host {}).2, (CpuTopology.gather host {}).2.lpus, ?_⟩
      rw [has]
      exact ⟨filled_lpuInfo _ _, filled_frequency read, filled_throttleInfo counted,
        filled_identifiers CpuLpu.name _, filled_identifiers CpuLpu.socketName _, rfl⟩

def LpuInfo.name (cpuId : Int) (lpu : LpuInfo) : String :=
  "/CPU" ++ toString lpu.socketId ++ "/die" ++ toString lpu.dieId ++ "/core" ++
    toString lpu.coreId ++ "/thread" ++ toString lpu.threadId ++ "#processor" ++ toString cpuId

def LpuInfo.socketName (lpu : LpuInfo) : String := "CPU" ++ toString lpu.socketId

theorem separator_not_mem_toString (value : Int) : '%' ∉ (toString value).toList := by
  cases value with
  | ofNat value => exact fun held => absurd (toString_digits value '%' held) (by decide)
  | negSucc lower =>
      have text : (toString (Int.negSucc lower)).toList =
          '-' :: (toString ((lower + 1 : Nat) : Int)).toList := by
        rw [← List.singleton_append]
        exact String.toList_append
      rw [text]
      intro held
      rcases List.mem_cons.mp held with sign | digit
      · exact absurd sign (by decide)
      · exact absurd (toString_digits (lower + 1) '%' digit) (by decide)

theorem unmarshalIdentifier_named (name : String) (free : '%' ∉ name.toList) :
    unmarshalIdentifier (named name).id = .ok (named name) := by
  refine unmarshalIdentifier_populated { name } fun component member => ?_
  simp only [Identifier.components, List.mem_cons, List.not_mem_nil, or_false] at member
  rcases member with rfl | rfl | rfl | rfl | rfl
  · decide
  · decide
  · exact free
  · decide
  · decide

theorem name_separatorFree (cpuId : Int) (lpu : LpuInfo) : '%' ∉ (lpu.name cpuId).toList := by
  delta LpuInfo.name
  simp only [String.toList_append, List.mem_append, separator_not_mem_toString, or_false]
  decide

theorem socketName_separatorFree (lpu : LpuInfo) : '%' ∉ lpu.socketName.toList := by
  simp only [LpuInfo.socketName, String.toList_append, List.mem_append,
    separator_not_mem_toString, or_false]
  decide

/-- The maps of a full response have the same CPUs. The identifiers of a CPU are named after what
the response tells of it, and the id of each decodes to the identifier itself. -/
theorem getCpuInfo_agrees (host : HostFiles) (resp : GetCpuInfoResponse)
    (full : getCpuInfo host { infoTypes := [] } = .ok resp) (cpuId : Int) :
    resp.info.lpuIdentifiers.lookup cpuId =
        (resp.info.lpuInfo.lookup cpuId).map (fun lpu => named (lpu.name cpuId)) ∧
    resp.info.socketIdentifiers.lookup cpuId =
        (resp.info.lpuInfo.lookup cpuId).map (fun lpu => named lpu.socketName) ∧
    resp.info.packageIdentifiers.lookup cpuId = resp.info.socketIdentifiers.lookup cpuId ∧
    (resp.info.frequency.lookup cpuId).isSome = (resp.info.lpuInfo.lookup cpuId).isSome ∧
    (resp.info.thermalThrottleCount.lookup cpuId).isSome =
      (resp.info.lpuInfo.lookup cpuId).isSome ∧
    ∀ identifier, resp.info.lpuIdentifiers.lookup cpuId = some identifier ∨
        resp.info.socketIdentifiers.lookup cpuId = some identifier →
      unmarshalIdentifier identifier.id = .ok identifier := by
  obtain ⟨sig, lpus, ofLpus⟩ := ofLpus_of_full full
  have lpuNames : resp.info.lpuIdentifiers.lookup cpuId =
      (resp.info.lpuInfo.lookup cpuId).map (fun lpu => named (lpu.name cpuId)) :=
    MapFill.Filled.lookup_eq_map (fun cpuId lpu => named (LpuInfo.name cpuId lpu))
      ofLpus.lpuInfo ofLpus.lpuIdentifiers (fun _ => rfl) cpuId
  have socketNames : resp.info.socketIdentifiers.lookup cpuId =
      (resp.info.lpuInfo.lookup cpuId).map (fun lpu => named lpu.socketName) :=
    MapFill.Filled.lookup_eq_map (fun _ lpu => named lpu.socketName)
      ofLpus.lpuInfo ofLpus.socketIdentifiers (fun _ => rfl) cpuId
  refine ⟨lpuNames, socketNames, by rw [ofLpus.packageIdentifiers],
    ofLpus.frequency.isSome_eq ofLpus.lpuInfo cpuId,
    ofLpus.thermalThrottleCount.isSome_eq ofLpus.lpuInfo cpuId, fun identifier found => ?_⟩
  rw [lpuNames, socketNames] at found
  rcases found with found | found
  · obtain ⟨lpu, -, rfl⟩ := Option.map_eq_some_iff.mp found
    exact unmarshalIdentifier_named _ (name_separatorFree cpuId lpu)
  · obtain ⟨lpu, -, rfl⟩ := Option.map_eq_some_iff.mp found
    exact unmarshalIdentifier_named _ (socketName_separatorFree lpu)

theorem getCpuInfo_agrees_oneCpu :
    ∃ resp, getCpuInfo oneCpuHost { infoTypes := [] } = .ok resp ∧
      (resp.info.frequency.lookup 0).isSome = (resp.info.lpuInfo.lookup 0).isSome := by
  have succeeds : (getCpuInfo oneCpuHost { infoTypes := [] }).toOption.isSome = true := by decide
  cases full : getCpuInfo oneCpuHost { infoTypes := [] } with
  | error status =>
      rw [full] at succeeds
      cases succeeds
  | ok resp => exact ⟨resp, rfl, (getCpuInfo_agrees oneCpuHost resp full 0).2.2.2.1⟩

end OcpDiag.HwInterface.Cpu
