import OcpDiag.HwInterface.Utils
import Mathlib.Data.List.AList

set_option autoImplicit false

/- The host's CPUs as sysfs shows them, and the renumbering of their ids. -/
namespace OcpDiag.HwInterface

/-- HostAdapter::Read, on files that do not change. -/
abbrev HostFiles : Type := String → StatusOr String

def parseRangeListFile (host : HostFiles) (path : String) : StatusOr (List Int) := do
  let listRange ← host path
  match parseRangeList listRange with
  | .ok numbers => .ok numbers
  | .error status =>
      .error ⟨.internal, "File parsed failed: " ++ path ++ " : " ++ status.message⟩

def parseIntegerFile (host : HostFiles) (path : String) : StatusOr Int := do
  let text ← host path
  match simpleAtoi text with
  | some number => .ok number
  | none => .error ⟨.internal, "File parsed failed: " ++ path⟩

structure CpuLpu where
  cpuId : Int
  socketId : Int := 0
  dieId : Int := 0
  coreId : Int := 0
  threadId : Int := 0
  numaNodeId : Int := 0
  deriving DecidableEq, Repr

structure CpuNumaNode where
  numaNodeId : Int
  physicalProcessingUnitCount : Int := 0
  lpus : List CpuLpu := []
  deriving DecidableEq, Repr

def sysfsCpuPath (cpuId : Int) : String := "/sys/devices/system/cpu/cpu" ++ toString cpuId

def CpuLpu.doRealGather (host : HostFiles) (lpu : CpuLpu) : StatusOr CpuLpu := do
  let path := sysfsCpuPath lpu.cpuId
  let socketId ← parseIntegerFile host (path ++ "/topology/physical_package_id")
  let dieId ← parseIntegerFile host (path ++ "/topology/die_id")
  let coreId ← parseIntegerFile host (path ++ "/topology/core_id")
  let threadSiblings ← parseRangeListFile host (path ++ "/topology/thread_siblings_list")
  match threadSiblings.idxOf? lpu.cpuId with
  | none =>
      .error ⟨.internal,
        "Cpu id: " ++ toString lpu.cpuId ++ " not in it's thread_siblings_list"⟩
  | some thread => .ok { lpu with socketId, dieId, coreId, threadId := thread }

/-- The loop over the node's CPUs. -/
def CpuNumaNode.gatherLpus (host : HostFiles) (node : CpuNumaNode) :
    List Int → StatusOr CpuNumaNode
  | [] => .ok node
  | cpuId :: rest => do
      let lpu ← CpuLpu.doRealGather host { cpuId, numaNodeId := node.numaNodeId }
      CpuNumaNode.gatherLpus host
        { node with
          physicalProcessingUnitCount :=
            node.physicalProcessingUnitCount + (if lpu.threadId = 0 then 1 else 0)
          lpus := node.lpus ++ [lpu] } rest

def CpuNumaNode.doRealGather (host : HostFiles) (node : CpuNumaNode) : StatusOr CpuNumaNode := do
  let cpuIds ← parseRangeListFile host
    ("/sys/devices/system/node/node" ++ toString node.numaNodeId ++ "/cpulist")
  node.gatherLpus host cpuIds

/-- `absl::flat_hash_map<int, int>`. -/
abbrev IdsMap : Type := AList (fun _ : Int => Int)

/-- A map of ids with its counter. -/
structure IdNumbering where
  ids : IdsMap := ∅
  num : Int := 0

/-- `find`, and `insert` of the counter's value where nothing is found. -/
def IdNumbering.visit (numbering : IdNumbering) (id : Int) : IdNumbering :=
  match numbering.ids.lookup id with
  | some _ => numbering
  | none => ⟨numbering.ids.insert id numbering.num, numbering.num + 1⟩

/-- `operator[]` reads 0 for an id that is not in the map. -/
def CpuLpu.normalizeCpuLpu (lpu : CpuLpu) (socketIdsMap coreIdsMap : IdsMap) : CpuLpu :=
  { lpu with
    socketId := (socketIdsMap.lookup lpu.socketId).getD 0
    coreId := (coreIdsMap.lookup lpu.coreId).getD 0 }

def CpuNumaNode.normalizeNumaNode (node : CpuNumaNode) (socketIdsMap coreIdsMap : IdsMap) :
    CpuNumaNode :=
  { node with lpus := node.lpus.map (·.normalizeCpuLpu socketIdsMap coreIdsMap) }

/-- The loop over a node's CPUs, with the sockets seen so far and the node's own cores. -/
def visitLpus (sockets cores : IdNumbering) : List CpuLpu → IdNumbering × IdNumbering
  | [] => (sockets, cores)
  | lpu :: rest => visitLpus (sockets.visit lpu.socketId) (cores.visit lpu.coreId) rest

def normalizeNodes (sockets : IdNumbering) : List CpuNumaNode → List CpuNumaNode
  | [] => []
  | node :: rest =>
      let visited := visitLpus sockets {} node.lpus
      node.normalizeNumaNode visited.1.ids visited.2.ids :: normalizeNodes visited.1 rest

def normalizeTopology (nodes : List CpuNumaNode) : List CpuNumaNode := normalizeNodes {} nodes

structure CpuTopology where
  result : Option (StatusOr Unit) := none
  numaNodes : List CpuNumaNode := []
  socketLpusMap : AList (fun _ : Int => List Int) := ∅

def CpuTopology.lpus (topology : CpuTopology) : List CpuLpu :=
  topology.numaNodes.flatMap (·.lpus)

def CpuNumaNode.logicalProcessingUnitCount (node : CpuNumaNode) : Int := node.lpus.length

def CpuTopology.physicalCoresCount (topology : CpuTopology) : Int :=
  topology.numaNodes.foldl (fun acc node => node.physicalProcessingUnitCount + acc) 0

def CpuTopology.logicalCoresCount (topology : CpuTopology) : Int :=
  topology.numaNodes.foldl (fun acc node => node.logicalProcessingUnitCount + acc) 0

def CpuTopology.logicalCoresMaxPerSocket (topology : CpuTopology) : Int :=
  topology.socketLpusMap.entries.foldl
    (fun maxPerSocket entry => max maxPerSocket (entry.2.length : Int)) 0

def CpuTopology.socketsCount (topology : CpuTopology) : Int :=
  topology.socketLpusMap.entries.length

/-- The loop over the online nodes: its status and the nodes gathered until it ends. -/
def gatherNumaNodes (host : HostFiles) (nodes : List CpuNumaNode) :
    List Int → StatusOr Unit × List CpuNumaNode
  | [] => (.ok (), nodes)
  | numaId :: rest =>
      match CpuNumaNode.doRealGather host { numaNodeId := numaId } with
      | .error status => (.error status, nodes)
      | .ok node => gatherNumaNodes host (nodes ++ [node]) rest

def addSocketLpu (socketLpusMap : AList (fun _ : Int => List Int)) (lpu : CpuLpu) :
    AList (fun _ : Int => List Int) :=
  socketLpusMap.insert lpu.socketId
    ((socketLpusMap.lookup lpu.socketId).getD [] ++ [lpu.cpuId])

def CpuTopology.doRealGather (host : HostFiles) (topology : CpuTopology) :
    StatusOr Unit × CpuTopology :=
  match parseRangeListFile host "/sys/devices/system/node/online" with
  | .error status => (.error status, topology)
  | .ok numaNodeIds =>
      match gatherNumaNodes host topology.numaNodes numaNodeIds with
      | (.error status, nodes) => (.error status, { topology with numaNodes := nodes })
      | (.ok (), nodes) =>
          let normalized := { topology with numaNodes := normalizeTopology nodes }
          (.ok (), { normalized with
            socketLpusMap := normalized.lpus.foldl addSocketLpu normalized.socketLpusMap })

/-- The files are read only the first time. -/
def CpuTopology.gather (host : HostFiles) (topology : CpuTopology) : StatusOr Unit × CpuTopology :=
  match topology.result with
  | some result => (result, topology)
  | none =>
      let (status, gathered) := topology.doRealGather host
      (status, { gathered with result := some status })

end OcpDiag.HwInterface
