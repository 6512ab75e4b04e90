import OcpDiag.Lib.Pointwise
import OcpDiag.HwInterface.Cpu

set_option autoImplicit false

/- What a Gather that succeeds has read, loop by loop. -/
namespace OcpDiag.HwInterface

/-- The files of a logical CPU, as they are parsed. -/
structure LpuFiles (host : HostFiles) (cpuId packageId dieId coreId : Int)
    (threadSiblings : List Int) : Prop where
  package : parseIntegerFile host (sysfsCpuPath cpuId ++ "/topology/physical_package_id") =
    .ok packageId
  die : parseIntegerFile host (sysfsCpuPath cpuId ++ "/topology/die_id") = .ok dieId
  core : parseIntegerFile host (sysfsCpuPath cpuId ++ "/topology/core_id") = .ok coreId
  siblings : parseRangeListFile host (sysfsCpuPath cpuId ++ "/topology/thread_siblings_list") =
    .ok threadSiblings

theorem lpu_doRealGather_iff (host : HostFiles) (lpu gathered : CpuLpu) :
    lpu.doRealGather host = .ok gathered ↔
      ∃ packageId dieId coreId threadSiblings thread,
        LpuFiles host lpu.cpuId packageId dieId coreId threadSiblings ∧
        threadSiblings.idxOf? lpu.cpuId = some thread ∧
        gathered = { lpu with socketId := packageId, dieId, coreId, threadId := thread } := by
  constructor
  · intro ok
    unfold CpuLpu.doRealGather at ok
    simp only [bind, Except.bind] at ok
    split at ok
    · cases ok
    rename_i packageId packageRead
    split at ok
    · cases ok
    rename_i dieId dieRead
    split at ok
    · cases ok
    rename_i coreId coreRead
    split at ok
    · cases ok
    rename_i threadSiblings siblingsRead
    split at ok
    · cases ok
    rename_i thread found
    exact ⟨packageId, dieId, coreId, threadSiblings, thread,
      ⟨packageRead, dieRead, coreRead, siblingsRead⟩, found, (Except.ok.inj ok).symm⟩
  · rintro ⟨packageId, dieId, coreId, threadSiblings, thread, files, found, rfl⟩
    unfold CpuLpu.doRealGather
    simp only [bind, Except.bind, files.package, files.die, files.core, files.siblings, found]

/-- The CPU of this id and node is gathered. -/
def GathersLpu (host : HostFiles) (numaNodeId cpuId : Int) (lpu : CpuLpu) : Prop :=
  CpuLpu.doRealGather host { cpuId, numaNodeId } = .ok lpu

theorem gathersLpu_cpuId (host : HostFiles) (numaNodeId cpuId : Int) (lpu : CpuLpu)
    (gathers : GathersLpu host numaNodeId cpuId lpu) : lpu.cpuId = cpuId := by
  obtain ⟨_, _, _, _, _, -, -, rfl⟩ := (lpu_doRealGather_iff host _ lpu).mp gathers
  rfl

theorem gatherLpus_iff (host : HostFiles) (cpuIds : List Int) (node gathered : CpuNumaNode) :
    node.gatherLpus host cpuIds = .ok gathered ↔
      ∃ lpus, List.Forall₂ (GathersLpu host node.numaNodeId) cpuIds lpus ∧
        gathered = { node with
          physicalProcessingUnitCount :=
            node.physicalProcessingUnitCount + lpus.countP (fun lpu => lpu.threadId = 0)
          lpus := node.lpus ++ lpus } := by
  induction cpuIds generalizing node with
  | nil =>
      simp only [CpuNumaNode.gatherLpus, List.forall₂_nil_left_iff, exists_eq_left,
        List.countP_nil, List.append_nil, Except.ok.injEq]
      simp [eq_comm]
  | cons cpuId rest ih =>
      simp only [CpuNumaNode.gatherLpus, List.forall₂_cons_left_iff]
      cases read : CpuLpu.doRealGather host { cpuId, numaNodeId := node.numaNodeId } with
      | error status =>
          refine iff_of_false (fun ok => by cases ok) ?_
          rintro ⟨_, ⟨lpu, _, reads, -, -⟩, -⟩
          rw [GathersLpu, read] at reads
          cases reads
      | ok lpu =>
          have counted (lpus : List CpuLpu) :
              node.physicalProcessingUnitCount + (if lpu.threadId = 0 then 1 else 0) +
                  lpus.countP (fun lpu => lpu.threadId = 0) =
                node.physicalProcessingUnitCount +
                  (lpu :: lpus).countP (fun lpu => lpu.threadId = 0) := by
            by_cases first : lpu.threadId = 0
            · simp [first]
              omega
            · simp [first]
          refine (ih _).trans ?_
          constructor
          · rintro ⟨lpus, reads, rfl⟩
            refine ⟨lpu :: lpus, ⟨lpu, lpus, read, reads, rfl⟩, ?_⟩
            rw [← counted, List.append_assoc, List.singleton_append]
          · rintro ⟨_, ⟨other, lpus, reads, readsRest, rfl⟩, rfl⟩
            obtain rfl := Except.ok.inj (read.symm.trans reads)
            refine ⟨lpus, readsRest, ?_⟩
            rw [← counted, List.append_assoc, List.singleton_append]

def nodeCpuListPath (numaNodeId : Int) : String :=
  "/sys/devices/system/node/node" ++ toString numaNodeId ++ "/cpulist"

/-- The node with these CPUs, as it is after the loop. -/
def CpuNumaNode.ofLpus (numaNodeId : Int) (lpus : List CpuLpu) : CpuNumaNode where
  numaNodeId
  physicalProcessingUnitCount := lpus.countP (fun lpu => lpu.threadId = 0)
  lpus

/-- The node of this id is gathered. -/
def GathersNode (host : HostFiles) (numaNodeId : Int) (node : CpuNumaNode) : Prop :=
  CpuNumaNode.doRealGather host { numaNodeId } = .ok node

theorem gathersNode_iff (host : HostFiles) (numaNodeId : Int) (node : CpuNumaNode) :
    GathersNode host numaNodeId node ↔
      ∃ cpuIds lpus, parseRangeListFile host (nodeCpuListPath numaNodeId) = .ok cpuIds ∧
        List.Forall₂ (GathersLpu host numaNodeId) cpuIds lpus ∧
        node = .ofLpus numaNodeId lpus := by
  unfold GathersNode CpuNumaNode.doRealGather nodeCpuListPath
  simp only [bind, Except.bind]
  cases read : parseRangeListFile host
    ("/sys/devices/system/node/node" ++ toString numaNodeId ++ "/cpulist") with
  | error status => simp
  | ok cpuIds =>
      simp only [gatherLpus_iff, Except.ok.injEq, exists_and_left, exists_eq_left', zero_add,
        List.nil_append, CpuNumaNode.ofLpus]

/-- The node and the CPUs in it, by their ids. -/
def CpuNumaNode.ids (node : CpuNumaNode) : Int × List Int :=
  (node.numaNodeId, node.lpus.map (·.cpuId))

theorem gathersNode_ids (host : HostFiles) (numaNodeId : Int) (cpuIds : List Int)
    (node : CpuNumaNode) (gathers : GathersNode host numaNodeId node)
    (read : parseRangeListFile host (nodeCpuListPath numaNodeId) = .ok cpuIds) :
    node.ids = (numaNodeId, cpuIds) := by
  obtain ⟨others, lpus, readOthers, reads, rfl⟩ := (gathersNode_iff host numaNodeId node).mp gathers
  obtain rfl := Except.ok.inj (read.symm.trans readOthers)
  have same := Pointwise.map_eq reads id (·.cpuId)
    (fun cpuId _ lpu gathersLpu => gathersLpu_cpuId host numaNodeId cpuId lpu gathersLpu)
  rw [List.map_id] at same
  simp only [CpuNumaNode.ids, CpuNumaNode.ofLpus, same]

theorem gatherNumaNodes_iff (host : HostFiles) (numaNodeIds : List Int)
    (nodes gathered : List CpuNumaNode) :
    gatherNumaNodes host nodes numaNodeIds = (.ok (), gathered) ↔
      ∃ more, List.Forall₂ (GathersNode host) numaNodeIds more ∧ gathered = nodes ++ more := by
  induction numaNodeIds generalizing nodes with
  | nil => simp [gatherNumaNodes, eq_comm]
  | cons numaId rest ih =>
      simp only [gatherNumaNodes, List.forall₂_cons_left_iff]
      cases read : CpuNumaNode.doRealGather host { numaNodeId := numaId } with
      | error status =>
          refine iff_of_false (fun ok => by cases ok) ?_
          rintro ⟨_, ⟨node, _, reads, -, -⟩, -⟩
          rw [GathersNode, read] at reads
          cases reads
      | ok node =>
          refine (ih _).trans ?_
          constructor
          · rintro ⟨more, reads, rfl⟩
            exact ⟨node :: more, ⟨node, more, read, reads, rfl⟩, by simp⟩
          · rintro ⟨_, ⟨other, more, reads, readsRest, rfl⟩, rfl⟩
            obtain rfl := Except.ok.inj (read.symm.trans reads)
            exact ⟨more, readsRest, by simp⟩

/-- The topology of the gathered nodes. -/
def CpuTopology.ofNodes (nodes : List CpuNumaNode) : CpuTopology where
  result := some (.ok ())
  numaNodes := normalizeTopology nodes
  socketLpusMap := ((normalizeTopology nodes).flatMap (·.lpus)).foldl addSocketLpu ∅

/-- A Gather on a new object succeeds when each online node is gathered. -/
theorem gather_ofNodes (host : HostFiles) (numaNodeIds : List Int) (nodes : List CpuNumaNode)
    (online : parseRangeListFile host "/sys/devices/system/node/online" = .ok numaNodeIds)
    (reads : List.Forall₂ (GathersNode host) numaNodeIds nodes) :
    CpuTopology.gather host {} = (.ok (), .ofNodes nodes) := by
  have all := (gatherNumaNodes_iff host numaNodeIds [] nodes).mpr ⟨nodes, reads, rfl⟩
  simp only [CpuTopology.gather, CpuTopology.doRealGather, online, all]
  rfl

theorem gather_ok (host : HostFiles) (ok : (CpuTopology.gather host {}).1 = .ok ()) :
    ∃ numaNodeIds nodes,
      parseRangeListFile host "/sys/devices/system/node/online" = .ok numaNodeIds ∧
        List.Forall₂ (GathersNode host) numaNodeIds nodes := by
  unfold CpuTopology.gather CpuTopology.doRealGather at ok
  cases online : parseRangeListFile host "/sys/devices/system/node/online" with
  | error status => simp [online] at ok
  | ok numaNodeIds =>
      rcases gathered : gatherNumaNodes host [] numaNodeIds with ⟨status, nodes⟩
      cases status with
      | error status => simp [online, gathered] at ok
      | ok _ =>
          obtain ⟨more, reads, -⟩ := (gatherNumaNodes_iff host numaNodeIds [] nodes).mp gathered
          exact ⟨numaNodeIds, more, rfl, reads⟩

end OcpDiag.HwInterface
