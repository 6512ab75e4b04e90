import OcpDiag.Lib.Trace
import OcpDiag.Results.IntIncrementer
import OcpDiag.Results.OutputModel
import OcpDiag.Results.StructValidators

set_option autoImplicit false

namespace OcpDiag.Results

/-- A DutInfo object. That only one exists at a time is kept by a flag of the process. -/
structure DutInfo where
  name : String
  id : String
  metadataJson : String := ""
  hardwareInfos : List HardwareInfoOutput := []
  softwareInfos : List SoftwareInfoOutput := []
  platformInfos : List PlatformInfo := []
  hardwareInfoId : IntIncrementer := {}
  softwareInfoId : IntIncrementer := {}
  deriving DecidableEq, Repr

namespace DutInfo

/-- The constructor, given whether an instance exists already. -/
def construct (singletonInitialized : Bool) (name id : String) : Outcome DutInfo := do
  check (!name.isEmpty) "!name_.empty()" "Must specify a name for the DutInfo"
  check (!id.isEmpty) "!id_.empty()" "Must specify an id for the DutInfo"
  check (!singletonInitialized) "!singleton_initialized"
    "Only one DutInfo instance can exist at a time"
  return { name, id }

def addHardwareInfo (dut : DutInfo) (hardwareInfo : HardwareInfo) :
    Outcome (RegisteredHardwareInfo × DutInfo) := do
  hardwareInfo.validateStructOrDie
  let (number, counter) ← dut.hardwareInfoId.next
  let reference : RegisteredHardwareInfo := { id := strCat number }
  return (reference, { dut with
    hardwareInfoId := counter
    hardwareInfos := dut.hardwareInfos ++ [⟨hardwareInfo, reference.id⟩] })

def addSoftwareInfo (dut : DutInfo) (softwareInfo : SoftwareInfo) :
    Outcome (RegisteredSoftwareInfo × DutInfo) := do
  softwareInfo.validateStructOrDie
  let (number, counter) ← dut.softwareInfoId.next
  let reference : RegisteredSoftwareInfo := { id := strCat number }
  return (reference, { dut with
    softwareInfoId := counter
    softwareInfos := dut.softwareInfos ++ [⟨softwareInfo, reference.id⟩] })

def addPlatformInfo (dut : DutInfo) (platformInfo : PlatformInfo) : Outcome DutInfo := do
  platformInfo.validateStructOrDie
  return { dut with platformInfos := dut.platformInfos ++ [platformInfo] }

def setMetadataJson (dut : DutInfo) (json : String) : DutInfo := { dut with metadataJson := json }

/-- The ids of the infos count from 0. -/
structure Numbered (dut : DutInfo) : Prop where
  hardware : Registry.Numbered strCat (·.hardwareInfoId) dut.hardwareInfos dut.hardwareInfoId.count
  software : Registry.Numbered strCat (·.softwareInfoId) dut.softwareInfos dut.softwareInfoId.count

end DutInfo

end OcpDiag.Results
