import OcpDiag.Lib.Renumbering
import OcpDiag.HwInterface.CpuGather

set_option autoImplicit false

/- What the renumbering of the CPUs keeps: sockets on the whole machine, cores within a node. -/
namespace OcpDiag.HwInterface

open Renumbering

/-- The map numbers these ids in the order of their first appearance. -/
def IdNumbering.Numbers (numbering : IdNumbering) (ids : List Int) : Prop :=
  Numbered ids (fun id => numbering.ids.lookup id) numbering.num

theorem numbers_nil : IdNumbering.Numbers {} [] :=
  numbered_nil _ (fun _ => rfl)

theorem visit_numbers {numbering : IdNumbering} {ids : List Int}
    (numbers : numbering.Numbers ids) (id : Int) :
    (numbering.visit id).Numbers (ids ++ [id]) := by
  unfold IdNumbering.visit
  by_cases member : id ∈ ids
  · rw [numbers.seen id member]
    exact numbers.again member
  · rw [numbers.unseen id member]
    exact numbers.add member _ (AList.lookup_insert numbering.ids)
      (fun _ different => AList.lookup_insert_ne different)

theorem visitLpus_numbers {sockets cores : IdNumbering} {socketIds coreIds : List Int}
    (lpus : List CpuLpu) (socketNumbers : sockets.Numbers socketIds)
    (coreNumbers : cores.Numbers coreIds) :
    (visitLpus sockets cores lpus).1.Numbers (socketIds ++ lpus.map (·.socketId)) ∧
      (visitLpus sockets cores lpus).2.Numbers (coreIds ++ lpus.map (·.coreId)) := by
  induction lpus generalizing sockets cores socketIds coreIds with
  | nil => simpa [visitLpus] using And.intro socketNumbers coreNumbers
  | cons lpu rest ih =>
      simpa [visitLpus, List.append_assoc] using
        ih (visit_numbers socketNumbers lpu.socketId) (visit_numbers coreNumbers lpu.coreId)

def CpuNumaNode.socketIds (node : CpuNumaNode) : List Int := node.lpus.map (·.socketId)
def CpuNumaNode.coreIds (node : CpuNumaNode) : List Int := node.lpus.map (·.coreId)

/-- The ids become places among the machine's sockets and among the node's cores. -/
def CpuLpu.renumbered (lpu : CpuLpu) (socketIds coreIds : List Int) : CpuLpu :=
  { lpu with
    socketId := place socketIds lpu.socketId
    coreId := place coreIds lpu.coreId }

def CpuNumaNode.renumbered (node : CpuNumaNode) (socketIds : List Int) : CpuNumaNode :=
  { node with lpus := node.lpus.map (·.renumbered socketIds node.coreIds) }

/-- The sockets that later nodes add do not change the numbers of those already seen. -/
theorem normalizeNodes_eq {sockets : IdNumbering} {socketIds : List Int}
    (nodes : List CpuNumaNode) (numbers : sockets.Numbers socketIds) :
    normalizeNodes sockets nodes =
      nodes.map (·.renumbered (socketIds ++ nodes.flatMap (·.socketIds))) := by
  induction nodes generalizing sockets socketIds with
  | nil => rfl
  | cons node rest ih =>
      obtain ⟨socketNumbers, coreNumbers⟩ := visitLpus_numbers node.lpus numbers numbers_nil
      have same : node.normalizeNumaNode (visitLpus sockets {} node.lpus).1.ids
          (visitLpus sockets {} node.lpus).2.ids =
          node.renumbered (socketIds ++ (node.socketIds ++ rest.flatMap (·.socketIds))) := by
        unfold CpuNumaNode.normalizeNumaNode CpuNumaNode.renumbered
        congr 1
        refine List.map_congr_left fun lpu member => ?_
        have socketSeen : lpu.socketId ∈ socketIds ++ node.socketIds :=
          List.mem_append_right _ (List.mem_map_of_mem member)
        have coreSeen : lpu.coreId ∈ [] ++ node.coreIds := List.mem_map_of_mem member
        unfold CpuLpu.normalizeCpuLpu CpuLpu.renumbered
        rw [socketNumbers.seen _ socketSeen, coreNumbers.seen _ coreSeen, ← List.append_assoc,
          place_append_of_mem socketSeen]
        rfl
      simp only [normalizeNodes, List.map_cons, List.flatMap_cons, same]
      rw [ih socketNumbers]
      simp only [CpuNumaNode.socketIds, List.append_assoc]

theorem normalizeTopology_eq (nodes : List CpuNumaNode) :
    normalizeTopology nodes = nodes.map (·.renumbered (nodes.flatMap (·.socketIds))) :=
  normalizeNodes_eq nodes numbers_nil

/-- The socket, die and core of a logical CPU. -/
def CpuLpu.location (lpu : CpuLpu) : Int × Int × Int := (lpu.socketId, lpu.dieId, lpu.coreId)

/-- What sysfs has for the package, die and core of a CPU. -/
def rawLocation (host : HostFiles) (cpuId : Int) : StatusOr (Int × Int × Int) := do
  let packageId ← parseIntegerFile host (sysfsCpuPath cpuId ++ "/topology/physical_package_id")
  let dieId ← parseIntegerFile host (sysfsCpuPath cpuId ++ "/topology/die_id")
  let coreId ← parseIntegerFile host (sysfsCpuPath cpuId ++ "/topology/core_id")
  return (packageId, dieId, coreId)

/-- The nodes that sysfs shows, before the normalisation. -/
def rawNodes (host : HostFiles) : List CpuNumaNode :=
  match parseRangeListFile host "/sys/devices/system/node/online" with
  | .error _ => []
  | .ok numaNodeIds => (gatherNumaNodes host [] numaNodeIds).2

/-- The ids of the CPU are those in the files. -/
def CpuLpu.Raw (host : HostFiles) (lpu : CpuLpu) : Prop :=
  rawLocation host lpu.cpuId = .ok lpu.location

theorem doRealGather_raw (host : HostFiles) (lpu gathered : CpuLpu)
    (ok : lpu.doRealGather host = .ok gathered) : gathered.Raw host := by
  obtain ⟨packageId, dieId, coreId, threadSiblings, thread, files, -, rfl⟩ :=
    (lpu_doRealGather_iff host lpu gathered).mp ok
  unfold CpuLpu.Raw rawLocation
  simp only [bind, Except.bind, files.package, files.die, files.core]
  rfl

/-- A Gather that succeeds has gathered each of the online nodes. -/
theorem gather_rawNodes (host : HostFiles) (ok : (CpuTopology.gather host {}).1 = .ok ()) :
    CpuTopology.gather host {} = (.ok (), .ofNodes (rawNodes host)) ∧
      ∃ numaNodeIds,
        parseRangeListFile host "/sys/devices/system/node/online" = .ok numaNodeIds ∧
        List.Forall₂ (GathersNode host) numaNodeIds (rawNodes host) := by
  obtain ⟨numaNodeIds, nodes, online, reads⟩ := gather_ok host ok
  have gathered := (gatherNumaNodes_iff host numaNodeIds [] nodes).mpr ⟨nodes, reads, rfl⟩
  have raw : rawNodes host = nodes := by simp only [rawNodes, online, gathered]
  rw [raw]
  exact ⟨gather_ofNodes host numaNodeIds nodes online reads, numaNodeIds, online, reads⟩

theorem rawNodes_raw (host : HostFiles) (ok : (CpuTopology.gather host {}).1 = .ok ()) :
    ∀ node ∈ rawNodes host, ∀ lpu ∈ node.lpus, lpu.Raw host := by
  obtain ⟨-, numaNodeIds, -, reads⟩ := gather_rawNodes host ok
  intro node member lpu inside
  obtain ⟨numaNodeId, -, gathers⟩ := Pointwise.mem_right reads member
  obtain ⟨cpuIds, lpus, -, readsLpus, rfl⟩ := (gathersNode_iff host numaNodeId node).mp gathers
  obtain ⟨cpuId, -, gathersLpu⟩ := Pointwise.mem_right readsLpus inside
  exact doRealGather_raw host _ lpu gathersLpu

/-- A successful Gather normalises the nodes it has read. -/
theorem gather_numaNodes (host : HostFiles) (ok : (CpuTopology.gather host {}).1 = .ok ()) :
    (CpuTopology.gather host {}).2.numaNodes = normalizeTopology (rawNodes host) := by
  rw [(gather_rawNodes host ok).1]
  rfl

/-- Two logical CPUs of the result have the same triple just when sysfs has the same for both. -/
def KeepsCoreIdentity (host : HostFiles) (topology : CpuTopology) : Prop :=
  ∀ first ∈ topology.lpus, ∀ second ∈ topology.lpus,
    first.location = second.location ↔
      rawLocation host first.cpuId = rawLocation host second.cpuId

/-- Where a package and die have CPUs in several nodes, a core id comes at one place among the
core ids of each of them, and different core ids come at different places. -/
def CoreOrdersAgree (nodes : List CpuNumaNode) : Prop :=
  ∀ first ∈ nodes, ∀ second ∈ nodes, ∀ lpu ∈ first.lpus, ∀ other ∈ second.lpus,
    lpu.socketId = other.socketId → lpu.dieId = other.dieId →
      (lpu.coreId = other.coreId ↔
        place first.coreIds lpu.coreId = place second.coreIds other.coreId)

/-- The CPUs of a package and die are in one node. -/
def NodesApart (nodes : List CpuNumaNode) : Prop :=
  ∀ first ∈ nodes, ∀ second ∈ nodes, ∀ lpu ∈ first.lpus, ∀ other ∈ second.lpus,
    lpu.socketId = other.socketId → lpu.dieId = other.dieId → first = second

/-- Within a node the places tell the cores apart. -/
theorem coreOrdersAgree_of_nodesApart {nodes : List CpuNumaNode} (apart : NodesApart nodes) :
    CoreOrdersAgree nodes := by
  intro first firstMember second secondMember lpu inFirst other inSecond sameSocket sameDie
  obtain rfl := apart first firstMember second secondMember lpu inFirst other inSecond
    sameSocket sameDie
  exact (place_inj (List.mem_map_of_mem inFirst) other.coreId).symm

theorem mem_lpus_normalized {topology : CpuTopology} {nodes : List CpuNumaNode}
    (normalized : topology.numaNodes = normalizeTopology nodes) (lpu : CpuLpu) :
    lpu ∈ topology.lpus ↔ ∃ node ∈ nodes, ∃ raw ∈ node.lpus,
      raw.renumbered (nodes.flatMap (·.socketIds)) node.coreIds = lpu := by
  simp only [CpuTopology.lpus, normalized, normalizeTopology_eq, List.mem_flatMap, List.mem_map,
    CpuNumaNode.renumbered]
  constructor
  · rintro ⟨_, ⟨node, member, rfl⟩, inside⟩
    exact ⟨node, member, List.mem_map.mp inside⟩
  · rintro ⟨node, member, inside⟩
    exact ⟨_, ⟨node, member, rfl⟩, List.mem_map.mpr inside⟩

/-- The triples of two renumbered CPUs, in the words of the raw ids. -/
theorem renumbered_location_iff {nodes : List CpuNumaNode} {first second : CpuNumaNode}
    (firstMember : first ∈ nodes) {lpu other : CpuLpu} (inFirst : lpu ∈ first.lpus) :
    (lpu.renumbered (nodes.flatMap (·.socketIds)) first.coreIds).location =
        (other.renumbered (nodes.flatMap (·.socketIds)) second.coreIds).location ↔
      lpu.socketId = other.socketId ∧ lpu.dieId = other.dieId ∧
        place first.coreIds lpu.coreId = place second.coreIds other.coreId := by
  have seen : lpu.socketId ∈ nodes.flatMap (·.socketIds) :=
    List.mem_flatMap.mpr ⟨first, firstMember, List.mem_map_of_mem inFirst⟩
  simp only [CpuLpu.location, CpuLpu.renumbered, Prod.mk.injEq, Int.natCast_inj,
    place_inj seen]

/-- A Gather that succeeds keeps the identity of the cores just when the orders agree. -/
theorem coreIdentity_iff (host : HostFiles) (ok : (CpuTopology.gather host {}).1 = .ok ()) :
    KeepsCoreIdentity host (CpuTopology.gather host {}).2 ↔ CoreOrdersAgree (rawNodes host) := by
  have members := mem_lpus_normalized (gather_numaNodes host ok)
  have locations := rawNodes_raw host ok
  constructor
  · intro keeps first firstMember second secondMember lpu inFirst other inSecond sameSocket sameDie
    have same := keeps _ ((members _).mpr ⟨first, firstMember, lpu, inFirst, rfl⟩)
      _ ((members _).mpr ⟨second, secondMember, other, inSecond, rfl⟩)
    rw [renumbered_location_iff firstMember inFirst] at same
    have raw : rawLocation host lpu.cpuId = rawLocation host other.cpuId ↔
        lpu.coreId = other.coreId := by
      rw [locations first firstMember lpu inFirst, locations second secondMember other inSecond]
      simp [CpuLpu.location, sameSocket, sameDie]
    rw [← raw]
    exact ⟨fun sameRaw => (same.mpr sameRaw).2.2,
      fun samePlace => same.mp ⟨sameSocket, sameDie, samePlace⟩⟩
  · intro agree result inResult otherResult otherInResult
    obtain ⟨first, firstMember, lpu, inFirst, rfl⟩ := (members result).mp inResult
    obtain ⟨second, secondMember, other, inSecond, rfl⟩ := (members otherResult).mp otherInResult
    rw [renumbered_location_iff firstMember inFirst]
    have raw : rawLocation host lpu.cpuId = rawLocation host other.cpuId ↔
        lpu.socketId = other.socketId ∧ lpu.dieId = other.dieId ∧ lpu.coreId = other.coreId := by
      rw [locations first firstMember lpu inFirst, locations second secondMember other inSecond]
      simp [CpuLpu.location]
    have cores := agree first firstMember second secondMember lpu inFirst other inSecond
    refine Iff.trans ?_ raw.symm
    constructor
    · intro ⟨sameSocket, sameDie, samePlace⟩
      exact ⟨sameSocket, sameDie, (cores sameSocket sameDie).mpr samePlace⟩
    · intro ⟨sameSocket, sameDie, sameCore⟩
      exact ⟨sameSocket, sameDie, (cores sameSocket sameDie).mp sameCore⟩

/-- The files of a host, by path. -/
def hostOfFiles (files : List (String × String)) : HostFiles := fun path =>
  match files.lookup path with
  | some contents => .ok contents
  | none => .error ⟨.notFound, path⟩

def cpuFiles (cpuId packageId coreId : String) : List (String × String) :=
  [("/sys/devices/system/cpu/cpu" ++ cpuId ++ "/topology/physical_package_id", packageId),
    ("/sys/devices/system/cpu/cpu" ++ cpuId ++ "/topology/die_id", "0"),
    ("/sys/devices/system/cpu/cpu" ++ cpuId ++ "/topology/core_id", coreId),
    ("/sys/devices/system/cpu/cpu" ++ cpuId ++ "/topology/thread_siblings_list", cpuId)]

/-- Two nodes of one CPU each. -/
def twoNodeHost (otherPackageId otherCoreId : String) : HostFiles :=
  hostOfFiles
    ([("/sys/devices/system/node/online", "0-1"),
      ("/sys/devices/system/node/node0/cpulist", "0"),
      ("/sys/devices/system/node/node1/cpulist", "1")] ++
      cpuFiles "0" "0" "0" ++ cpuFiles "1" otherPackageId otherCoreId)

theorem coreIdentity_iff_twoSockets :
    KeepsCoreIdentity (twoNodeHost "1" "0") (CpuTopology.gather (twoNodeHost "1" "0") {}).2 ↔
      CoreOrdersAgree (rawNodes (twoNodeHost "1" "0")) :=
  coreIdentity_iff (twoNodeHost "1" "0") (by decide)

/-- Two cores of one socket in two nodes get one triple. -/
theorem coreIdentity_lost_between_nodes :
    (CpuTopology.gather (twoNodeHost "0" "1") {}).1 = .ok () ∧
      (CpuTopology.gather (twoNodeHost "0" "1") {}).2.lpus.map (·.location) =
        [(0, 0, 0), (0, 0, 0)] ∧
      rawLocation (twoNodeHost "0" "1") 0 = .ok (0, 0, 0) ∧
      rawLocation (twoNodeHost "0" "1") 1 = .ok (0, 0, 1) ∧
      ¬ KeepsCoreIdentity (twoNodeHost "0" "1")
        (CpuTopology.gather (twoNodeHost "0" "1") {}).2 := by
  refine ⟨by decide, by decide, by decide, by decide, fun keeps => ?_⟩
  have same := keeps ⟨0, 0, 0, 0, 0, 0⟩ (by decide) ⟨1, 0, 0, 0, 0, 1⟩ (by decide)
  exact absurd (same.mp rfl) (by decide)

end OcpDiag.HwInterface
