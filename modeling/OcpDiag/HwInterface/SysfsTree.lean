import OcpDiag.HwInterface.CpuIdentity
import OcpDiag.HwInterface.RangeList

set_option autoImplicit false

/- The trees the kernel shows, and when they are gathered. -/
namespace OcpDiag.HwInterface

/-- What a tree shows of the online nodes and their CPUs. -/
structure SysfsTree where
  online : KernelList
  cpuList : Int → KernelList
  packageId : Int → Int
  dieId : Int → Int
  coreId : Int → Int
  threadSiblings : Int → KernelList

/-- The file holds an `int` in decimal, with a newline after it or without. -/
def HoldsDecimal (host : HostFiles) (path : String) (value : Int) : Prop :=
  (-2 ^ 31 ≤ value ∧ value < 2 ^ 31) ∧
    (host path = .ok (toString value) ∨ host path = .ok (toString value ++ "\n"))

instance (host : HostFiles) (path : String) (value : Int) :
    Decidable (HoldsDecimal host path value) :=
  inferInstanceAs (Decidable (_ ∧ _))

namespace SysfsTree

/-- The files of a CPU are those of the tree, and its siblings contain it. -/
def ShowsCpu (tree : SysfsTree) (host : HostFiles) (cpuId : Int) : Prop :=
  HoldsDecimal host (sysfsCpuPath cpuId ++ "/topology/physical_package_id")
      (tree.packageId cpuId) ∧
    HoldsDecimal host (sysfsCpuPath cpuId ++ "/topology/die_id") (tree.dieId cpuId) ∧
    HoldsDecimal host (sysfsCpuPath cpuId ++ "/topology/core_id") (tree.coreId cpuId) ∧
    host (sysfsCpuPath cpuId ++ "/topology/thread_siblings_list") =
      .ok (tree.threadSiblings cpuId).text ∧
    cpuId ∈ (tree.threadSiblings cpuId).numbers

instance (tree : SysfsTree) (host : HostFiles) (cpuId : Int) :
    Decidable (tree.ShowsCpu host cpuId) :=
  inferInstanceAs (Decidable (_ ∧ _))

/-- The files of the host are those of the tree. -/
structure ShownBy (tree : SysfsTree) (host : HostFiles) : Prop where
  online : host "/sys/devices/system/node/online" = .ok tree.online.text
  cpuList : ∀ node ∈ tree.online.numbers,
    host (nodeCpuListPath node) = .ok (tree.cpuList node).text
  cpus : ∀ node ∈ tree.online.numbers, ∀ cpuId ∈ (tree.cpuList node).numbers,
    tree.ShowsCpu host cpuId

/-- Gather returns OK, with the online nodes and the CPUs of their lists. -/
def GatheredFrom (tree : SysfsTree) (host : HostFiles) : Prop :=
  (CpuTopology.gather host {}).1 = .ok () ∧
    (CpuTopology.gather host {}).2.numaNodes.map
        (fun node => (node.numaNodeId, node.lpus.map (·.cpuId))) =
      tree.online.numbers.map (fun node => (node, (tree.cpuList node).numbers))

instance (tree : SysfsTree) (host : HostFiles) : Decidable (tree.GatheredFrom host) :=
  inferInstanceAs (Decidable (_ ∧ _))

end SysfsTree

theorem parseIntegerFile_decimal (host : HostFiles) (path : String) (value : Int)
    (holds : HoldsDecimal host path value) : parseIntegerFile host path = .ok value := by
  obtain ⟨fits, contents⟩ := holds
  have read (blank : List Char) (spaces : ∀ char ∈ blank, isSpace char = true) :
      simpleAtoi (String.ofList ((toString value).toList ++ blank)) = some value := by
    rw [simpleAtoi_decimal value blank spaces, int32, signedInt, if_pos fits]
  unfold parseIntegerFile
  rcases contents with bare | ended
  · have number := read [] (fun _ absent => absurd absent List.not_mem_nil)
    rw [List.append_nil, String.ofList_toList] at number
    simp only [bare, bind, Except.bind, number]
  · have newline : (toString value ++ "\n" : String) =
        String.ofList ((toString value).toList ++ ['\n']) := by
      refine String.toList_inj.mp ?_
      rw [String.toList_append, String.toList_ofList, String.toList_ofList]
    have number := read ['\n'] (by simp [isSpace])
    rw [← newline] at number
    simp only [ended, bind, Except.bind, number]

theorem parseRangeListFile_text (host : HostFiles) (path : String) (list : KernelList)
    (shown : host path = .ok list.text) (numbers : List Int) :
    parseRangeListFile host path = .ok numbers ↔ list.items ≠ [] ∧ numbers = list.numbers := by
  unfold parseRangeListFile
  simp only [shown, bind, Except.bind]
  by_cases nothing : list.items = []
  · simp [parseRangeList_empty list nothing, nothing]
  · simp [parseRangeList_text list nothing, nothing, eq_comm]

/-- The CPU whose files a tree shows is gathered. -/
theorem exists_gathersLpu (tree : SysfsTree) (host : HostFiles) (numaNodeId cpuId : Int)
    (shown : tree.ShowsCpu host cpuId) : ∃ lpu, GathersLpu host numaNodeId cpuId lpu := by
  obtain ⟨package, die, core, siblings, own⟩ := shown
  have nonempty : (tree.threadSiblings cpuId).items ≠ [] := by
    intro nothing
    rw [KernelList.numbers, nothing] at own
    cases own
  have read := (parseRangeListFile_text host _ _ siblings _).mpr ⟨nonempty, rfl⟩
  cases place : (tree.threadSiblings cpuId).numbers.idxOf? cpuId with
  | none => exact absurd own (List.idxOf?_eq_none_iff.mp place)
  | some thread =>
      exact ⟨_, (lpu_doRealGather_iff host _ _).mpr ⟨_, _, _, _, thread,
        ⟨parseIntegerFile_decimal host _ _ package, parseIntegerFile_decimal host _ _ die,
          parseIntegerFile_decimal host _ _ core, read⟩, place, rfl⟩⟩

theorem normalizeTopology_ids (nodes : List CpuNumaNode) :
    (normalizeTopology nodes).map (·.ids) = nodes.map (·.ids) := by
  rw [normalizeTopology_eq, List.map_map]
  refine List.map_congr_left fun node _ => ?_
  simp only [Function.comp_apply, CpuNumaNode.ids, CpuNumaNode.renumbered, List.map_map,
    CpuLpu.renumbered, Function.comp_def]

/-- The node of a tree is gathered just when its list holds a number. -/
theorem exists_gathersNode_iff (tree : SysfsTree) (host : HostFiles) (shown : tree.ShownBy host)
    (node : Int) (online : node ∈ tree.online.numbers) :
    (∃ gathered, GathersNode host node gathered) ↔ (tree.cpuList node).items ≠ [] := by
  have read := parseRangeListFile_text host _ _ (shown.cpuList node online)
  constructor
  · rintro ⟨gathered, gathers⟩
    obtain ⟨cpuIds, -, readCpus, -⟩ := (gathersNode_iff host node gathered).mp gathers
    exact ((read cpuIds).mp readCpus).1
  · intro nonempty
    obtain ⟨lpus, reads⟩ := Pointwise.exists_iff.mpr fun cpuId member =>
      exists_gathersLpu tree host node cpuId (shown.cpus node online cpuId member)
    exact ⟨_, (gathersNode_iff host node _).mpr ⟨_, lpus, (read _).mpr ⟨nonempty, rfl⟩, reads, rfl⟩⟩

/-- A tree is gathered just when neither the online list nor that of an online node is empty. -/
theorem gatheredFrom_iff (tree : SysfsTree) (host : HostFiles) (shown : tree.ShownBy host) :
    tree.GatheredFrom host ↔
      tree.online.items ≠ [] ∧
        ∀ node ∈ tree.online.numbers, (tree.cpuList node).items ≠ [] := by
  have readOnline := parseRangeListFile_text host _ _ shown.online
  have gatherable := exists_gathersNode_iff tree host shown
  constructor
  · rintro ⟨ok, -⟩
    obtain ⟨numaNodeIds, nodes, online, reads⟩ := gather_ok host ok
    obtain ⟨nonempty, rfl⟩ := (readOnline numaNodeIds).mp online
    exact ⟨nonempty, fun node member =>
      (gatherable node member).mp (Pointwise.exists_iff.mp ⟨nodes, reads⟩ node member)⟩
  · rintro ⟨nonempty, cpus⟩
    obtain ⟨nodes, reads⟩ := Pointwise.exists_iff.mpr fun node member =>
      (gatherable node member).mpr (cpus node member)
    have gathered := gather_ofNodes host _ nodes ((readOnline _).mpr ⟨nonempty, rfl⟩) reads
    refine ⟨by rw [gathered], ?_⟩
    have ids := Pointwise.map_eq reads (fun node => (node, (tree.cpuList node).numbers)) (·.ids)
      (fun node member result gathers => gathersNode_ids host node _ result gathers
        ((parseRangeListFile_text host _ _ (shown.cpuList node member) _).mpr
          ⟨cpus node member, rfl⟩))
    rw [gathered, ← ids]
    exact normalizeTopology_ids nodes

/-- Node 0 has CPU 0, and node 1 only memory or CPU 1. -/
def twoNodeTree (second : KernelList) : SysfsTree where
  online := ⟨[.range 0 1], by decide, by decide, by decide⟩
  cpuList node := if node = 0 then ⟨[.number 0], by decide, by decide, by decide⟩ else second
  packageId _ := 0
  dieId _ := 0
  coreId cpuId := cpuId
  threadSiblings cpuId :=
    if cpuId = 0 then ⟨[.number 0], by decide, by decide, by decide⟩
    else ⟨[.number 1], by decide, by decide, by decide⟩

def sysfsCpuFiles (cpuId : String) : List (String × String) :=
  [("/sys/devices/system/cpu/cpu" ++ cpuId ++ "/topology/physical_package_id", "0\n"),
    ("/sys/devices/system/cpu/cpu" ++ cpuId ++ "/topology/die_id", "0\n"),
    ("/sys/devices/system/cpu/cpu" ++ cpuId ++ "/topology/core_id", cpuId ++ "\n"),
    ("/sys/devices/system/cpu/cpu" ++ cpuId ++ "/topology/thread_siblings_list", cpuId ++ "\n")]

def twoNodeFiles (second : String) : HostFiles :=
  hostOfFiles
    ([("/sys/devices/system/node/online", "0-1\n"),
      ("/sys/devices/system/node/node0/cpulist", "0\n"),
      ("/sys/devices/system/node/node1/cpulist", second)] ++
      sysfsCpuFiles "0" ++ sysfsCpuFiles "1")

theorem gatheredFrom_iff_twoNodes :
    (twoNodeTree ⟨[.number 1], by decide, by decide, by decide⟩).GatheredFrom
      (twoNodeFiles "1\n") :=
  (gatheredFrom_iff _ _ ⟨by decide, by decide, by decide⟩).mpr (by decide)

/-- A node that has only memory has no numbers in its list. -/
theorem gatheredFrom_not_memoryOnly :
    ¬ ∀ (tree : SysfsTree) (host : HostFiles), tree.ShownBy host → tree.GatheredFrom host := by
  intro gathers
  exact absurd (gathers (twoNodeTree .empty) (twoNodeFiles "\n")
    ⟨by decide, by decide, by decide⟩) (by decide)

end OcpDiag.HwInterface
