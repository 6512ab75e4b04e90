import Mathlib.Data.List.Infix
import OcpDiag.HwInterface.Cpu
import OcpDiag.HwInterface.HwInfo

set_option autoImplicit false

/- The host backend's `GetCpuInfo`, with the signature and the frequencies of the CPUs. -/
namespace OcpDiag.HwInterface

namespace Cpu

/-- Those that the host backend gives. -/
inductive InfoType where
  | topology
  | signature
  | lpuInfo
  | frequency
  | throttleInfo
  | lpuIdentifier
  | socketIdentifier
  | packageIdentifier
  deriving DecidableEq, Repr

/-- A request holds numbers, as it may name types of a later schema. -/
def InfoType.number : InfoType → Int
  | .topology => 1
  | .signature => 2
  | .lpuInfo => 3
  | .frequency => 4
  | .throttleInfo => 5
  | .lpuIdentifier => 6
  | .socketIdentifier => 7
  | .packageIdentifier => 9

structure Topology where
  socketsEnabled : Int := 0
  logicalCoresEnabled : Int := 0
  physicalCoresEnabled : Int := 0
  logicalCoresMaxPerSocket : Int := 0
  deriving DecidableEq, Repr

/-- Those that the host backend gives. -/
inductive Vendor where
  | unknown
  | intel
  | amd
  | apm
  | qualcomm
  | arm
  deriving DecidableEq, Repr

structure Signature where
  family : Int := 0
  model : Int := 0
  stepping : Int := 0
  vendor : Vendor := .unknown
  deriving DecidableEq, Repr

structure LpuInfo where
  socketId : Int := 0
  dieId : Int := 0
  coreId : Int := 0
  threadId : Int := 0
  numaNodeId : Int := 0
  microcodeRevision : Nat := 0
  deriving DecidableEq, Repr

/-- A double holds every int. -/
structure LpuFrequency where
  designFreq : Int := 0
  curFreq : Int := 0
  maxFreq : Int := 0
  deriving DecidableEq, Repr

/-- A map from the ids of the logical CPUs. -/
abbrev LpuMap (β : Type) : Type := AList (fun _ : Int => β)

structure Info where
  topology : Option Topology := none
  signature : Option Signature := none
  lpuInfo : LpuMap LpuInfo := ∅
  frequency : LpuMap LpuFrequency := ∅
  thermalThrottleCount : LpuMap Int := ∅
  lpuIdentifiers : LpuMap Identifier := ∅
  socketIdentifiers : LpuMap Identifier := ∅
  packageIdentifiers : LpuMap Identifier := ∅

end Cpu

structure GetCpuInfoRequest where
  infoTypes : List Int := []
  deriving DecidableEq, Repr

structure GetCpuInfoResponse where
  info : Cpu.Info := {}

/-- `[[:xdigit:]]` in a pattern. -/
def hexChar (char : Char) : Bool :=
  char.isDigit || ('a' ≤ char && char ≤ 'f') || ('A' ≤ char && char ≤ 'F')

def hexCharValue (char : Char) : Nat :=
  if char.isDigit then char.toNat - '0'.toNat
  else if 'a' ≤ char then char.toNat - 'a'.toNat + 10
  else char.toNat - 'A'.toNat + 10

/-- Whether the digits fit in a `uint64_t`, and the number that they set. -/
def simpleHexAtoi (hex : List Char) : Bool × Nat :=
  let value := hex.foldl (fun value char => 16 * value + hexCharValue char) 0
  if value < 2 ^ 64 then (true, value) else (false, 2 ^ 64 - 1)

/-- The pattern of a label and a class with a plus and a newline behind it, where the newline is not
in the class. What is captured is the run of the class. -/
def matchHere (label : List Char) (inClass : Char → Bool) (text : List Char) :
    Option (List Char) :=
  let rest := text.drop label.length
  let run := rest.takeWhile inClass
  if label.isPrefixOf text && !run.isEmpty && (rest.drop run.length).head? = some '\n' then some run
  else none

/-- The first match. -/
def partialMatch (label : List Char) (inClass : Char → Bool) : List Char → Option (List Char)
  | [] => none
  | char :: rest =>
      (matchHere label inClass (char :: rest)).orElse fun _ => partialMatch label inClass rest

/-- A number that does not fit leaves the argument as it is. -/
def partialMatchInt (label : String) (text : List Char) (argument : Int) : Int :=
  match (partialMatch label.toList Char.isDigit text).bind digitsValue with
  | none => argument
  | some value => (int32 value).getD argument

example : partialMatchInt "model\t\t: " "model\t\t: 85\nmodel name\t: X\n".toList 0 = 85 := by decide

structure CpuSignature where
  vendor : Cpu.Vendor := .unknown
  family : Int := 0
  model : Int := 0
  stepping : Int := 0
  microcode : Nat := 0
  result : Option (StatusOr Unit) := none
  deriving Repr

namespace CpuSignature

/-- The microcode is read last, and may be too long. -/
def parseMicrocode (sig : CpuSignature) (cpuinfo : List Char) : StatusOr Unit × CpuSignature :=
  match partialMatch "microcode\t: 0x".toList hexChar cpuinfo with
  | none => (.ok (), sig)
  | some microcode =>
      let (fits, value) := simpleHexAtoi microcode
      let sig := { sig with microcode := value }
      if fits then (.ok (), sig)
      else (.error ⟨.internal, "microcode in /proc/cpuinfo is not a hex. " ++
        String.ofList microcode⟩, sig)

def parseX86 (sig : CpuSignature) (cpuinfo vendorId : List Char) :
    StatusOr Unit × CpuSignature :=
  let vendor :=
    if vendorId = "GenuineIntel".toList then .intel
    else if vendorId = "AuthenticAMD".toList then .amd
    else .unknown
  parseMicrocode
    { sig with
      vendor
      family := partialMatchInt "cpu family\t: " cpuinfo sig.family
      model := partialMatchInt "model\t\t: " cpuinfo sig.model
      stepping := partialMatchInt "stepping\t: " cpuinfo sig.stepping } cpuinfo

def implementerVendor (implementerCode : Nat) : Cpu.Vendor :=
  if implementerCode = 'A'.toNat then .arm
  else if implementerCode = 'P'.toNat then .apm
  else if implementerCode = 'Q'.toNat then .qualcomm
  else .unknown

def parseImplementer (sig : CpuSignature) (cpuinfo : List Char) : StatusOr Unit × CpuSignature :=
  let implementer := (partialMatch "CPU implementer\t: 0x".toList hexChar cpuinfo).getD []
  let (fits, implementerCode) := simpleHexAtoi implementer
  if implementer.isEmpty || !fits then
    (.error ⟨.internal, "implementer in /proc/cpuinfo is not a hex. " ++
      String.ofList implementer⟩, sig)
  else (.ok (), { sig with vendor := implementerVendor implementerCode })

def parseFromCpuInfo (sig : CpuSignature) (cpuinfo : List Char) : StatusOr Unit × CpuSignature :=
  match partialMatch "vendor_id\t: ".toList wordChar cpuinfo with
  | some vendorId => sig.parseX86 cpuinfo vendorId
  | none =>
      if "BogoMIPS".toList <:+: cpuinfo then sig.parseImplementer cpuinfo
      else (.ok (), { sig with vendor := .unknown })

def doRealGather (host : HostFiles) (sig : CpuSignature) : StatusOr Unit × CpuSignature :=
  match host "/proc/cpuinfo" with
  | .error status => (.error status, sig)
  | .ok cpuinfo => sig.parseFromCpuInfo cpuinfo.toList

/-- The file is read only the first time. -/
def gather (host : HostFiles) (sig : CpuSignature) : StatusOr Unit × CpuSignature :=
  match sig.result with
  | some result => (result, sig)
  | none =>
      let (status, gathered) := sig.doRealGather host
      (status, { gathered with result := some status })

end CpuSignature

structure CpuFrequency where
  cpuId : Int
  designFreq : Int := 0
  curFreq : Int := 0
  maxFreq : Int := 0
  deriving DecidableEq, Repr

/-- Without the scaling the CPU runs at the frequency of its design. -/
def CpuFrequency.gather (host : HostFiles) (freq : CpuFrequency) : StatusOr CpuFrequency := do
  let _ ← host "/proc/cpuinfo"
  let path := sysfsCpuPath freq.cpuId
  let designFreq ← parseIntegerFile host (path ++ "/tsc_freq_khz")
  match parseIntegerFile host (path ++ "/cpufreq/scaling_cur_freq") with
  | .ok curFreq =>
      let maxFreq ← parseIntegerFile host (path ++ "/cpufreq/scaling_max_freq")
      return { freq with designFreq, curFreq, maxFreq }
  | .error status =>
      if status.code = .notFound then
        return { freq with designFreq, curFreq := designFreq, maxFreq := designFreq }
      else .error status

structure CpuThrottleInfo where
  cpuId : Int
  coreThrottleCount : Int := 0
  deriving DecidableEq, Repr

def CpuThrottleInfo.gather (host : HostFiles) (throttle : CpuThrottleInfo) :
    StatusOr CpuThrottleInfo := do
  let coreThrottleCount ← parseIntegerFile host
    (sysfsCpuPath throttle.cpuId ++ "/thermal_throttle/core_throttle_count")
  return { throttle with coreThrottleCount }

def CpuLpu.name (lpu : CpuLpu) : String :=
  "/CPU" ++ toString lpu.socketId ++ "/die" ++ toString lpu.dieId ++ "/core" ++
    toString lpu.coreId ++ "/thread" ++ toString lpu.threadId ++ "#processor" ++
    toString lpu.cpuId

def CpuLpu.socketName (lpu : CpuLpu) : String := "CPU" ++ toString lpu.socketId

namespace Cpu

/-- `operator[]` makes an empty entry where there is none. -/
def LpuMap.update {β : Type} (entries : LpuMap β) (empty : β) (cpuId : Int) (change : β → β) :
    LpuMap β :=
  entries.insert cpuId (change ((entries.lookup cpuId).getD empty))

def fillTopology (topology : CpuTopology) (info : Info) : Info :=
  { info with
    topology := some
      { socketsEnabled := topology.socketsCount
        logicalCoresEnabled := topology.logicalCoresCount
        physicalCoresEnabled := topology.physicalCoresCount
        logicalCoresMaxPerSocket := topology.logicalCoresMaxPerSocket } }

def fillSignature (sig : CpuSignature) (info : Info) : Info :=
  { info with
    signature := some
      { vendor := sig.vendor, family := sig.family, model := sig.model,
        stepping := sig.stepping } }

def addLpuInfo (sig : CpuSignature) (lpuInfo : LpuMap LpuInfo) (hostLpu : CpuLpu) :
    LpuMap LpuInfo :=
  lpuInfo.update {} hostLpu.cpuId fun lpu =>
    { lpu with
      socketId := hostLpu.socketId
      dieId := hostLpu.dieId
      coreId := hostLpu.coreId
      threadId := hostLpu.threadId
      numaNodeId := hostLpu.numaNodeId
      microcodeRevision := sig.microcode }

def fillLpuInfo (topology : CpuTopology) (sig : CpuSignature) (info : Info) : Info :=
  { info with lpuInfo := topology.lpus.foldl (addLpuInfo sig) info.lpuInfo }

def addFrequency (host : HostFiles) (frequency : LpuMap LpuFrequency) (hostLpu : CpuLpu) :
    StatusOr (LpuMap LpuFrequency) := do
  let cpuFreq ← CpuFrequency.gather host { cpuId := hostLpu.cpuId }
  return frequency.update {} cpuFreq.cpuId fun freq =>
    { freq with
      designFreq := cpuFreq.designFreq
      curFreq := cpuFreq.curFreq
      maxFreq := cpuFreq.maxFreq }

def fillFrequency (host : HostFiles) (topology : CpuTopology) (info : Info) : StatusOr Info := do
  let frequency ← topology.lpus.foldlM (addFrequency host) info.frequency
  return { info with frequency }

def addThrottleInfo (host : HostFiles) (thermalThrottleCount : LpuMap Int) (hostLpu : CpuLpu) :
    StatusOr (LpuMap Int) := do
  let cpuThrottle ← CpuThrottleInfo.gather host { cpuId := hostLpu.cpuId }
  return thermalThrottleCount.insert cpuThrottle.cpuId cpuThrottle.coreThrottleCount

def fillThrottleInfo (host : HostFiles) (topology : CpuTopology) (info : Info) :
    StatusOr Info := do
  let thermalThrottleCount ←
    topology.lpus.foldlM (addThrottleInfo host) info.thermalThrottleCount
  return { info with thermalThrottleCount }

/-- The loop of the three blocks of identifiers. -/
def addIdentifiers (name : CpuLpu → String) (topology : CpuTopology)
    (identifiers : LpuMap Identifier) : LpuMap Identifier :=
  topology.lpus.foldl (fun identifiers hostLpu =>
    identifiers.update {} hostLpu.cpuId fun id =>
      populateId { id with name := name hostLpu } none) identifiers

def fillLpuIdentifiers (topology : CpuTopology) (info : Info) : Info :=
  { info with lpuIdentifiers := addIdentifiers CpuLpu.name topology info.lpuIdentifiers }

def fillSocketIdentifiers (topology : CpuTopology) (info : Info) : Info :=
  { info with
    socketIdentifiers := addIdentifiers CpuLpu.socketName topology info.socketIdentifiers }

/-- The socket is taken for the package. -/
def fillPackageIdentifiers (topology : CpuTopology) (info : Info) : Info :=
  { info with
    packageIdentifiers := addIdentifiers CpuLpu.socketName topology info.packageIdentifiers }

/-- The variables of the call. -/
structure Query where
  topology : CpuTopology := {}
  sig : CpuSignature := {}
  info : Info := {}

def Query.gatherTopology (host : HostFiles) (query : Query) : StatusOr Query :=
  match query.topology.gather host with
  | (.error status, _) => .error status
  | (.ok (), topology) => .ok { query with topology }

def Query.gatherSignature (host : HostFiles) (query : Query) : StatusOr Query :=
  match query.sig.gather host with
  | (.error status, _) => .error status
  | (.ok (), sig) => .ok { query with sig }

/-- What a block gathers, and what it adds to the response then. -/
inductive Fill where
  | ofTopology (fill : HostFiles → CpuTopology → Info → StatusOr Info)
  | ofSignature (fill : CpuSignature → Info → Info)
  | ofBoth (fill : CpuTopology → CpuSignature → Info → Info)

def Fill.run (host : HostFiles) (query : Query) : Fill → StatusOr Query
  | .ofTopology fill => do
      let query ← query.gatherTopology host
      let info ← fill host query.topology query.info
      return { query with info }
  | .ofSignature fill => do
      let query ← query.gatherSignature host
      return { query with info := fill query.sig query.info }
  | .ofBoth fill => do
      let query ← query.gatherTopology host
      let query ← query.gatherSignature host
      return { query with info := fill query.topology query.sig query.info }

/-- The body of the `if` for each type. -/
def InfoType.fill : InfoType → Fill
  | .topology => .ofTopology fun _ topology info => .ok (fillTopology topology info)
  | .signature => .ofSignature fillSignature
  | .lpuInfo => .ofBoth fillLpuInfo
  | .frequency => .ofTopology fillFrequency
  | .throttleInfo => .ofTopology fillThrottleInfo
  | .lpuIdentifier => .ofTopology fun _ topology info => .ok (fillLpuIdentifiers topology info)
  | .socketIdentifier =>
      .ofTopology fun _ topology info => .ok (fillSocketIdentifiers topology info)
  | .packageIdentifier =>
      .ofTopology fun _ topology info => .ok (fillPackageIdentifiers topology info)

def runBlock (host : HostFiles) (infoTypes : List Int) (query : Query) (type : InfoType) :
    StatusOr Query :=
  if infoTypeHave infoTypes type.number then type.fill.run host query else .ok query

/-- The types in the order of their blocks. -/
def blocks : List InfoType :=
  [.topology, .signature, .lpuInfo, .frequency, .throttleInfo, .lpuIdentifier, .socketIdentifier,
    .packageIdentifier]

end Cpu

/-- HostBackend::GetCpuInfo. -/
def getCpuInfo (host : HostFiles) (req : GetCpuInfoRequest) : StatusOr GetCpuInfoResponse := do
  let query ← Cpu.blocks.foldlM (Cpu.runBlock host req.infoTypes) {}
  return { info := query.info }

end OcpDiag.HwInterface
