import OcpDiag.HwInterface.Status
import Mathlib.Data.List.AList

set_option autoImplicit false

/- The messages of config.proto and the overrides of the mhi_config flag. -/
namespace OcpDiag.HwInterface

inductive BackendType where
  | unknown
  | gsys
  | machineManager
  | bmcDiagnosticInterface
  | redfish
  | host
  | fake
  | mimikRedfish
  /-- A number without a name, which proto3 keeps. -/
  | unrecognized (number : Int)
  deriving DecidableEq, Repr

inductive AuthMethod where
  | default
  | basic
  | tls
  deriving DecidableEq, Repr

structure Duration where
  seconds : Int := 0
  nanos : Int := 0
  deriving DecidableEq, Repr

/-- The oneof of the message. -/
inductive RedfishCachePolicy where
  | unset
  | noCache
  | timeBasedCache (duration : Duration)
  deriving DecidableEq, Repr

structure RedfishQueryOverrides where
  sensorQuery : String := ""
  deriving DecidableEq, Repr

structure RedfishConfigOptions where
  targetAddress : String := ""
  port : Int := 0
  authMethod : AuthMethod := .default
  redfishCachePolicy : Option RedfishCachePolicy := none
  redfishQueryOverrides : Option RedfishQueryOverrides := none
  deriving DecidableEq, Repr

structure BackendConfigOptions where
  redfishOptions : Option RedfishConfigOptions := none
  deriving DecidableEq, Repr

structure EntityDescriptor where
  hostAddress : String := ""
  deriving DecidableEq, Repr

/-- A message field that is not set reads as its default. -/
structure EntityConfiguration where
  entity : Option EntityDescriptor := none
  methodConfigurations : AList (fun _ : Int => BackendType) := ∅
  defaultBackend : BackendType := .unknown
  configOptions : Option BackendConfigOptions := none

structure NodeOverride where
  backend : BackendType
  targetAddress : String
  port : Int
  redfishAuthMethod : AuthMethod := .default
  redfishCachePolicy : Option RedfishCachePolicy := none
  redfishQueryOverrides : Option RedfishQueryOverrides := none
  deriving DecidableEq, Repr

namespace EntityConfiguration

def hostAddress (config : EntityConfiguration) : String := (config.entity.getD {}).hostAddress

def redfishOptions (config : EntityConfiguration) : RedfishConfigOptions :=
  (config.configOptions.getD {}).redfishOptions.getD {}

def targetAddress (config : EntityConfiguration) : String := config.redfishOptions.targetAddress

/-- `mutable_config_options()->mutable_redfish_options()`. -/
def modifyRedfish (config : EntityConfiguration)
    (modify : RedfishConfigOptions → RedfishConfigOptions) : EntityConfiguration :=
  { config with
    configOptions := some
      { config.configOptions.getD {} with
        redfishOptions := some (modify config.redfishOptions) } }

/-- `mutable_entity()->set_host_address`. -/
def setHostAddress (config : EntityConfiguration) (address : String) : EntityConfiguration :=
  { config with entity := some { config.entity.getD {} with hostAddress := address } }

@[simp] theorem modifyRedfish_hostAddress (config : EntityConfiguration)
    (modify : RedfishConfigOptions → RedfishConfigOptions) :
    (config.modifyRedfish modify).hostAddress = config.hostAddress := rfl

@[simp] theorem modifyRedfish_targetAddress (config : EntityConfiguration)
    (modify : RedfishConfigOptions → RedfishConfigOptions) :
    (config.modifyRedfish modify).targetAddress = (modify config.redfishOptions).targetAddress :=
  rfl

@[simp] theorem modifyRedfish_defaultBackend (config : EntityConfiguration)
    (modify : RedfishConfigOptions → RedfishConfigOptions) :
    (config.modifyRedfish modify).defaultBackend = config.defaultBackend := rfl

@[simp] theorem setHostAddress_hostAddress (config : EntityConfiguration) (address : String) :
    (config.setHostAddress address).hostAddress = address := rfl

@[simp] theorem setHostAddress_targetAddress (config : EntityConfiguration) (address : String) :
    (config.setHostAddress address).targetAddress = config.targetAddress := rfl

@[simp] theorem setHostAddress_defaultBackend (config : EntityConfiguration) (address : String) :
    (config.setHostAddress address).defaultBackend = config.defaultBackend := rfl

end EntityConfiguration

end OcpDiag.HwInterface
