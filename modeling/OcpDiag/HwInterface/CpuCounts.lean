import OcpDiag.Lib.Counting
import OcpDiag.HwInterface.SysfsTree
import Mathlib.Order.Lattice.Nat

set_option autoImplicit false

/- The counts of the topology, and the online CPUs that they count. -/
namespace OcpDiag.HwInterface

open Counting Renumbering

/-- The numbers in a list file. -/
def listedIn (host : HostFiles) (path : String) : List Int :=
  match parseRangeListFile host path with
  | .ok numbers => numbers
  | .error _ => []

def onlineNodes (host : HostFiles) : List Int := listedIn host "/sys/devices/system/node/online"

def nodeCpus (host : HostFiles) (numaNodeId : Int) : List Int :=
  listedIn host (nodeCpuListPath numaNodeId)

def threadSiblings (host : HostFiles) (cpuId : Int) : List Int :=
  listedIn host (sysfsCpuPath cpuId ++ "/topology/thread_siblings_list")

def physicalPackageId (host : HostFiles) (cpuId : Int) : StatusOr Int :=
  parseIntegerFile host (sysfsCpuPath cpuId ++ "/topology/physical_package_id")

/-- The online CPUs are those the online nodes list, each in one node, and the sibling files give
the groups in increasing order. -/
structure CpuLayout (host : HostFiles) (online : Finset Int) (groups : Finpartition online) :
    Prop where
  listed : ∀ cpuId ∈ online, ∃! node, node ∈ onlineNodes host ∧ cpuId ∈ nodeCpus host node
  listsOnline : ∀ node ∈ onlineNodes host, ∀ cpuId ∈ nodeCpus host node, cpuId ∈ online
  siblings : ∀ group ∈ groups.parts, ∀ cpuId ∈ group,
    (threadSiblings host cpuId).Pairwise (· < ·) ∧ (threadSiblings host cpuId).toFinset = group

/-- The counts are those of the online CPUs, of the sibling groups and of the packages. -/
structure CpuTopology.CountsOf (topology : CpuTopology) (host : HostFiles) (online : Finset Int)
    (groups : Finpartition online) : Prop where
  logical : topology.logicalCoresCount = online.card
  physical : topology.physicalCoresCount = groups.parts.card
  sockets : topology.socketsCount = (online.image (physicalPackageId host)).card
  maxPerSocket : topology.logicalCoresMaxPerSocket =
    (online.sup fun cpuId => (online.filter fun other =>
      physicalPackageId host other = physicalPackageId host cpuId).card : Nat)

theorem listedIn_ok {host : HostFiles} {path : String} {numbers : List Int}
    (read : parseRangeListFile host path = .ok numbers) : listedIn host path = numbers := by
  rw [listedIn, read]

theorem listedIn_nodup (host : HostFiles) (path : String) : (listedIn host path).Nodup := by
  unfold listedIn
  split
  next numbers read =>
      unfold parseRangeListFile at read
      simp only [bind, Except.bind] at read
      split at read
      · cases read
      · split at read
        next others parsed =>
            obtain rfl := Except.ok.inj read
            exact parseRangeList_nodup _ _ parsed
        next => cases read
  next => exact List.nodup_nil

/-- A list text of the kernel holds the numbers of its items. -/
theorem listedIn_text (host : HostFiles) (path : String) (list : KernelList)
    (shown : host path = .ok list.text) : listedIn host path = list.numbers := by
  have read := parseRangeListFile_text host path list shown
  by_cases nothing : list.items = []
  · unfold listedIn
    split
    next numbers parsed => exact absurd nothing ((read numbers).mp parsed).1
    next => rw [KernelList.numbers, nothing, List.flatMap_nil]
  · exact listedIn_ok ((read _).mpr ⟨nothing, rfl⟩)

/-- The CPUs of the machine, as the nodes list them. -/
def listedCpus (host : HostFiles) : List Int := (onlineNodes host).flatMap (nodeCpus host)

section Layout

variable {host : HostFiles} {online : Finset Int} {groups : Finpartition online}

theorem CpuLayout.listedCpus_nodup (layout : CpuLayout host online groups) :
    (listedCpus host).Nodup := by
  refine List.nodup_flatMap.mpr ⟨fun node _ => listedIn_nodup host _, ?_⟩
  refine (listedIn_nodup host "/sys/devices/system/node/online").pairwise_of_forall_ne ?_
  intro node member other otherMember different cpuId inNode inOther
  have only := layout.listed cpuId (layout.listsOnline node member cpuId inNode)
  exact different (only.unique ⟨member, inNode⟩ ⟨otherMember, inOther⟩)

theorem CpuLayout.listedCpus_toFinset (layout : CpuLayout host online groups) :
    (listedCpus host).toFinset = online := by
  ext cpuId
  rw [List.mem_toFinset, listedCpus, List.mem_flatMap]
  constructor
  · rintro ⟨node, member, inNode⟩
    exact layout.listsOnline node member cpuId inNode
  · intro member
    obtain ⟨node, ⟨inNodes, inNode⟩, -⟩ := layout.listed cpuId member
    exact ⟨node, inNodes, inNode⟩

/-- The CPUs before the normalisation. -/
def rawLpus (host : HostFiles) : List CpuLpu := (rawNodes host).flatMap (·.lpus)

theorem rawLpus_cpuId (ok : (CpuTopology.gather host {}).1 = .ok ()) :
    (rawLpus host).map (·.cpuId) = listedCpus host := by
  obtain ⟨-, numaNodeIds, onlineRead, reads⟩ := gather_rawNodes host ok
  have cpus : (rawNodes host).map (fun node => node.lpus.map (·.cpuId)) =
      numaNodeIds.map (nodeCpus host) := by
    refine Pointwise.map_eq reads _ _ fun numaNodeId _ node gathers => ?_
    obtain ⟨cpuIds, _, read, -, -⟩ := (gathersNode_iff host numaNodeId node).mp gathers
    have ids := gathersNode_ids host numaNodeId cpuIds node gathers read
    rw [nodeCpus, listedIn_ok read]
    exact congrArg Prod.snd ids
  rw [rawLpus, List.map_flatMap, List.flatMap_def, cpus, listedCpus, onlineNodes,
    listedIn_ok onlineRead, List.flatMap_def]

theorem rawLpus_gathers (ok : (CpuTopology.gather host {}).1 = .ok ()) {lpu : CpuLpu}
    (member : lpu ∈ rawLpus host) : ∃ numaNodeId cpuId, GathersLpu host numaNodeId cpuId lpu := by
  obtain ⟨-, numaNodeIds, -, reads⟩ := gather_rawNodes host ok
  obtain ⟨node, inNodes, inNode⟩ := List.mem_flatMap.mp member
  obtain ⟨numaNodeId, -, gathers⟩ := Pointwise.mem_right reads inNodes
  obtain ⟨_, lpus, -, readsLpus, rfl⟩ := (gathersNode_iff host numaNodeId node).mp gathers
  obtain ⟨cpuId, -, gathersLpu⟩ := Pointwise.mem_right readsLpus inNode
  exact ⟨numaNodeId, cpuId, gathersLpu⟩

/-- The thread of a CPU is 0 just when the CPU leads its sibling group. -/
theorem CpuLayout.threadId_eq_zero_iff (layout : CpuLayout host online groups)
    {numaNodeId cpuId : Int} {lpu : CpuLpu} (gathers : GathersLpu host numaNodeId cpuId lpu)
    (member : cpuId ∈ online) : lpu.threadId = 0 ↔ Leads groups cpuId := by
  obtain ⟨_, _, _, siblings, thread, files, found, rfl⟩ :=
    (lpu_doRealGather_iff host _ lpu).mp gathers
  have inParts := groups.part_mem.mpr member
  have inPart := groups.mem_part member
  obtain ⟨increasing, members⟩ := layout.siblings _ inParts cpuId inPart
  rw [threadSiblings, listedIn_ok files.siblings] at increasing members
  have least := idxOf?_eq_zero_iff increasing found
  rw [leads_iff groups inParts inPart, ← members]
  simp only [List.mem_toFinset, ← least, Int.natCast_eq_zero]

theorem CpuLayout.mem_online (layout : CpuLayout host online groups)
    (ok : (CpuTopology.gather host {}).1 = .ok ()) (cpuId : Int) :
    cpuId ∈ online ↔ ∃ lpu ∈ rawLpus host, lpu.cpuId = cpuId := by
  rw [← layout.listedCpus_toFinset, List.mem_toFinset, ← rawLpus_cpuId ok, List.mem_map]

/-- The gathered CPUs are counted among the online ones. -/
theorem CpuLayout.countP_rawLpus (layout : CpuLayout host online groups)
    (ok : (CpuTopology.gather host {}).1 = .ok ()) (chosen : Int → Prop) [DecidablePred chosen] :
    (rawLpus host).countP (fun lpu => chosen lpu.cpuId) = (online.filter chosen).card := by
  have cpuIds := rawLpus_cpuId ok
  have distinct := layout.listedCpus_nodup
  rw [← cpuIds] at distinct
  rw [countP_eq_card_filter _ _ distinct, cpuIds, layout.listedCpus_toFinset]

theorem CpuLayout.countP_threadId (layout : CpuLayout host online groups)
    (ok : (CpuTopology.gather host {}).1 = .ok ()) :
    (rawLpus host).countP (fun lpu => lpu.threadId = 0) = groups.parts.card := by
  rw [← card_leads, ← layout.countP_rawLpus ok]
  refine List.countP_congr fun lpu member => ?_
  obtain ⟨numaNodeId, cpuId, gathers⟩ := rawLpus_gathers ok member
  have here := gathersLpu_cpuId host numaNodeId cpuId lpu gathers
  have inside := (layout.mem_online ok cpuId).mpr ⟨lpu, member, here⟩
  rw [decide_eq_true_eq, decide_eq_true_eq, here]
  exact layout.threadId_eq_zero_iff gathers inside

theorem foldl_counts (nodes : List CpuNumaNode) (count : CpuNumaNode → Int)
    (chosen : CpuLpu → Bool) (counts : ∀ node ∈ nodes, count node = node.lpus.countP chosen)
    (start : Int) :
    nodes.foldl (fun acc node => count node + acc) start =
      start + (nodes.flatMap (·.lpus)).countP chosen := by
  induction nodes generalizing start with
  | nil => simp
  | cons node rest ih =>
      obtain ⟨here, others⟩ := List.forall_mem_cons.mp counts
      rw [List.foldl_cons, ih others, List.flatMap_cons, List.countP_append, here]
      omega

theorem logicalCoresCount_ofNodes (nodes : List CpuNumaNode) :
    (CpuTopology.ofNodes nodes).logicalCoresCount = (nodes.flatMap (·.lpus)).length := by
  have sum := foldl_counts nodes (fun node => node.logicalProcessingUnitCount) (fun _ => true)
    (fun node _ => by simp [CpuNumaNode.logicalProcessingUnitCount]) 0
  rw [List.countP_true, zero_add] at sum
  rw [← sum, CpuTopology.logicalCoresCount, CpuTopology.ofNodes, normalizeTopology_eq,
    List.foldl_map]
  simp only [CpuNumaNode.logicalProcessingUnitCount, CpuNumaNode.renumbered, List.length_map]

theorem physicalCoresCount_ofNodes (nodes : List CpuNumaNode)
    (counts : ∀ node ∈ nodes, node.physicalProcessingUnitCount =
      node.lpus.countP (fun lpu => lpu.threadId = 0)) :
    (CpuTopology.ofNodes nodes).physicalCoresCount =
      (nodes.flatMap (·.lpus)).countP (fun lpu => lpu.threadId = 0) := by
  have sum := foldl_counts nodes (·.physicalProcessingUnitCount) _ counts 0
  rw [zero_add] at sum
  rw [← sum, CpuTopology.physicalCoresCount, CpuTopology.ofNodes, normalizeTopology_eq,
    List.foldl_map]
  rfl

theorem rawNodes_physical (ok : (CpuTopology.gather host {}).1 = .ok ()) :
    ∀ node ∈ rawNodes host, node.physicalProcessingUnitCount =
      node.lpus.countP (fun lpu => lpu.threadId = 0) := by
  obtain ⟨-, numaNodeIds, -, reads⟩ := gather_rawNodes host ok
  intro node member
  obtain ⟨numaNodeId, -, gathers⟩ := Pointwise.mem_right reads member
  obtain ⟨_, _, -, -, rfl⟩ := (gathersNode_iff host numaNodeId node).mp gathers
  rfl

/-- The number that the normalisation gives to the package of a CPU. -/
def socketNumber (nodes : List CpuNumaNode) (lpu : CpuLpu) : Int :=
  place (nodes.flatMap (·.socketIds)) lpu.socketId

/-- The sockets are buckets of the CPUs, by the number of their package. -/
theorem socketLpusMap_ofNodes (nodes : List CpuNumaNode) :
    (CpuTopology.ofNodes nodes).socketLpusMap =
      fill (socketNumber nodes) (·.cpuId) (nodes.flatMap (·.lpus)) := by
  have pairs : ((normalizeTopology nodes).flatMap (·.lpus)).map
      (fun lpu => (lpu.socketId, lpu.cpuId)) =
      (nodes.flatMap (·.lpus)).map (fun lpu => (socketNumber nodes lpu, lpu.cpuId)) := by
    rw [normalizeTopology_eq, List.flatMap_map, List.map_flatMap, List.map_flatMap]
    simp only [CpuNumaNode.renumbered, List.map_map]
    rfl
  have folded (lpus : List CpuLpu) (number : CpuLpu → Int) :
      lpus.foldl (fun buckets lpu => put buckets (number lpu) lpu.cpuId) ∅ =
        (lpus.map (fun lpu => (number lpu, lpu.cpuId))).foldl
          (fun buckets pair => put buckets pair.1 pair.2) ∅ := by
    rw [List.foldl_map]
  rw [fill, folded, ← pairs, ← folded]
  rfl

/-- Two CPUs are in one socket just when they have the same package. -/
theorem socketNumber_inj (ok : (CpuTopology.gather host {}).1 = .ok ()) {lpu : CpuLpu}
    (member : lpu ∈ rawLpus host) {other : CpuLpu} (otherMember : other ∈ rawLpus host) :
    socketNumber (rawNodes host) lpu = socketNumber (rawNodes host) other ↔
      physicalPackageId host lpu.cpuId = physicalPackageId host other.cpuId := by
  have package {gathered : CpuLpu} (inside : gathered ∈ rawLpus host) :
      physicalPackageId host gathered.cpuId = .ok gathered.socketId := by
    obtain ⟨numaNodeId, cpuId, gathers⟩ := rawLpus_gathers ok inside
    obtain ⟨_, _, _, _, _, files, -, rfl⟩ := (lpu_doRealGather_iff host _ gathered).mp gathers
    exact files.package
  have seen : lpu.socketId ∈ (rawNodes host).flatMap (·.socketIds) := by
    obtain ⟨node, inNodes, inNode⟩ := List.mem_flatMap.mp member
    exact List.mem_flatMap.mpr ⟨node, inNodes, List.mem_map_of_mem inNode⟩
  rw [package member, package otherMember, socketNumber, socketNumber, Int.natCast_inj,
    place_inj seen, Except.ok.injEq]

theorem CpuLayout.socketsCount (layout : CpuLayout host online groups)
    (ok : (CpuTopology.gather host {}).1 = .ok ()) :
    (CpuTopology.ofNodes (rawNodes host)).socketsCount =
      (online.image (physicalPackageId host)).card := by
  have packages : ((rawLpus host).map (fun lpu => physicalPackageId host lpu.cpuId)).toFinset =
      online.image (physicalPackageId host) := by
    ext package
    simp only [List.mem_toFinset, List.mem_map, Finset.mem_image]
    constructor
    · rintro ⟨lpu, member, rfl⟩
      exact ⟨lpu.cpuId, (layout.mem_online ok _).mpr ⟨lpu, member, rfl⟩, rfl⟩
    · rintro ⟨cpuId, inside, rfl⟩
      obtain ⟨lpu, member, rfl⟩ := (layout.mem_online ok cpuId).mp inside
      exact ⟨lpu, member, rfl⟩
  rw [CpuTopology.socketsCount, socketLpusMap_ofNodes, length_fill, ← packages]
  congr 1
  exact card_keys_congr (rawLpus host) _ _ fun lpu member other otherMember =>
    socketNumber_inj ok member otherMember

theorem CpuLayout.logicalCoresMaxPerSocket (layout : CpuLayout host online groups)
    (ok : (CpuTopology.gather host {}).1 = .ok ()) :
    (CpuTopology.ofNodes (rawNodes host)).logicalCoresMaxPerSocket =
      (online.sup fun cpuId => (online.filter fun other =>
        physicalPackageId host other = physicalPackageId host cpuId).card : Nat) := by
  have sharing {lpu : CpuLpu} (member : lpu ∈ rawLpus host) :
      (rawLpus host).countP (fun other =>
          socketNumber (rawNodes host) other = socketNumber (rawNodes host) lpu) =
        (online.filter fun other =>
          physicalPackageId host other = physicalPackageId host lpu.cpuId).card := by
    rw [← layout.countP_rawLpus ok]
    refine List.countP_congr fun other otherMember => ?_
    rw [decide_eq_true_eq, decide_eq_true_eq]
    exact socketNumber_inj ok otherMember member
  rw [CpuTopology.logicalCoresMaxPerSocket, socketLpusMap_ofNodes]
  refine foldl_max_eq _ (fun entry : (_ : Int) × List Int => entry.2.length) _ fun bound => ?_
  rw [Finset.sup_le_iff, fill_le_iff]
  constructor
  · intro few lpu member
    refine le_of_eq_of_le (sharing member) ?_
    exact few lpu.cpuId ((layout.mem_online ok _).mpr ⟨lpu, member, rfl⟩)
  · intro few cpuId inside
    obtain ⟨lpu, member, rfl⟩ := (layout.mem_online ok cpuId).mp inside
    exact le_of_eq_of_le (sharing member).symm (few lpu member)

/-- A Gather that succeeds counts the CPUs, groups and packages of the host. -/
theorem gather_counts (layout : CpuLayout host online groups)
    (ok : (CpuTopology.gather host {}).1 = .ok ()) :
    (CpuTopology.gather host {}).2.CountsOf host online groups := by
  rw [(gather_rawNodes host ok).1]
  refine ⟨?_, ?_, layout.socketsCount ok, layout.logicalCoresMaxPerSocket ok⟩
  · have all := layout.countP_rawLpus ok (fun _ => True)
    rw [Finset.filter_true] at all
    rw [logicalCoresCount_ofNodes, ← all]
    simp [rawLpus]
  · rw [physicalCoresCount_ofNodes _ (rawNodes_physical ok)]
    exact congrArg Nat.cast (layout.countP_threadId ok)

end Layout

def pairFrom (first : Nat) (bounded : first + 1 < 2 ^ 31 - 1) : KernelList :=
  ⟨[.range first (first + 1)], by simp [ListItem.first, ListItem.last], by simp,
    by simpa [ListItem.last] using bounded⟩

def lowPair : KernelList := pairFrom 0 (by decide)
def highPair : KernelList := pairFrom 2 (by decide)

/-- Two nodes that share the sibling groups, and a package with CPUs in both of them. -/
def sharedHost : HostFiles :=
  let cpu (cpuId packageId siblings : String) : List (String × String) :=
    [("/sys/devices/system/cpu/cpu" ++ cpuId ++ "/topology/physical_package_id", packageId),
      ("/sys/devices/system/cpu/cpu" ++ cpuId ++ "/topology/die_id", "0"),
      ("/sys/devices/system/cpu/cpu" ++ cpuId ++ "/topology/core_id", "0"),
      ("/sys/devices/system/cpu/cpu" ++ cpuId ++ "/topology/thread_siblings_list", siblings)]
  hostOfFiles
    ([("/sys/devices/system/node/online", lowPair.text),
      ("/sys/devices/system/node/node0/cpulist", lowPair.text),
      ("/sys/devices/system/node/node1/cpulist", highPair.text)] ++
      cpu "0" "7" "0,2" ++ cpu "1" "9" "1,3" ++ cpu "2" "7" "0,2" ++ cpu "3" "7" "1,3")

def sharedGroups : Finpartition ({0, 1, 2, 3} : Finset Int) where
  parts := {{0, 2}, {1, 3}}
  supIndep := by decide
  sup_parts := by decide
  bot_notMem := by decide

theorem sharedHost_lists :
    onlineNodes sharedHost = [0, 1] ∧ nodeCpus sharedHost 0 = [0, 1] ∧
      nodeCpus sharedHost 1 = [2, 3] :=
  ⟨listedIn_text sharedHost _ lowPair (by decide), listedIn_text sharedHost _ lowPair (by decide),
    listedIn_text sharedHost _ highPair (by decide)⟩

theorem gather_counts_shared :
    (CpuTopology.gather sharedHost {}).2.CountsOf sharedHost {0, 1, 2, 3} sharedGroups := by
  obtain ⟨nodes, first, second⟩ := sharedHost_lists
  have somewhere : ∀ cpuId ∈ ({0, 1, 2, 3} : Finset Int),
      ∃ node ∈ onlineNodes sharedHost, cpuId ∈ nodeCpus sharedHost node := by
    simp [nodes, first, second]
  have once : ∀ node ∈ onlineNodes sharedHost, ∀ other ∈ onlineNodes sharedHost,
      ∀ cpuId ∈ nodeCpus sharedHost node, cpuId ∈ nodeCpus sharedHost other → node = other := by
    simp [nodes, first, second]
  refine gather_counts ⟨fun cpuId member => ?_, by simp [nodes, first, second], by decide⟩
    (by decide)
  obtain ⟨node, inNodes, inNode⟩ := somewhere cpuId member
  refine ⟨node, ⟨inNodes, inNode⟩, fun other listed => ?_⟩
  exact once other listed.1 node inNodes cpuId listed.2 inNode

end OcpDiag.HwInterface
