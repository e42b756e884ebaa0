import Provisioning.Blueprint.Switching

/-!
Blueprints of routers of a private cloud.
-/

namespace Provisioning

/-- The switch, the addresses and the identifier of the pair belong to redundant plans only. -/
structure VpcRouterBlueprint extends Metadata where
  id : ResourceId
  plan : VpcRouterPlan
  switchId : ResourceId
  virtualIp : Option Ipv4
  ipAddresses : List Ipv4
  vrid : Option UInt8
  internetConnectionEnabled : Bool
  syslogHost : Option String
  nics : List VpcRouterInterface
  bootAfterCreate : Bool
  noWait : Bool
  timing : Timing
  deriving DecidableEq, Inhabited

namespace VpcRouterBlueprint

/-- Index zero is the public interface. -/
def maxNicIndex : Nat := 7

def settings (blueprint : VpcRouterBlueprint) : VpcRouterSettings where
  vrid := blueprint.vrid
  internetConnectionEnabled := blueprint.internetConnectionEnabled
  interfaces := blueprint.nics
  syslogHost := blueprint.syslogHost

/-- A redundant pair is addressed explicitly, and a single router is not. -/
def checkPublicSide (blueprint : VpcRouterBlueprint) : Check :=
  if blueprint.plan.isRedundant then do
    Check.requireSet "VPC router" "switch" blueprint.switchId
    Check.require "VPC router"
      (blueprint.virtualIp.isSome && blueprint.ipAddresses.length == 2 && blueprint.vrid.isSome)
      "redundant plans need a virtual IP, two real IPs and a VRID"
  else
    Check.require "VPC router"
      (blueprint.switchId.isUnset && blueprint.virtualIp.isNone && blueprint.ipAddresses.isEmpty)
      "the standard plan uses the shared segment without explicit addresses"

/-- A private interface of a pair has two addresses and a shared one, any other just one. -/
def checkNic (plan : VpcRouterPlan) (nic : VpcRouterInterface) : Check := do
  let index := nic.index.toNat
  Check.require "VPC router" (1 ≤ index && index ≤ maxNicIndex)
    s!"NIC index {index} is outside 1..={maxNicIndex}"
  Check.requireSet "VPC router" "NIC switch" nic.switchId
  Check.require "VPC router"
    (nic.ipAddresses.length == (if plan.isRedundant then 2 else 1) &&
      nic.virtualIp.isSome == plan.isRedundant)
    s!"NIC {index} has the wrong number of addresses"

def checkFields (blueprint : VpcRouterBlueprint) : Check := do
  Check.requireNonBlank "VPC router" "name" blueprint.name
  blueprint.checkPublicSide
  if let some index := firstDuplicate (blueprint.nics.map VpcRouterInterface.index) then
    Check.reject "VPC router" s!"NIC index {index.toNat} is used twice"
  blueprint.nics.forM (checkNic blueprint.plan)

/-- All switches have to exist, the public one first. -/
def validate (zone : Zone) (blueprint : VpcRouterBlueprint) : Build Unit := do
  blueprint.checkFields
  let switches := blueprint.switchId.set?.toList ++ blueprint.nics.map VpcRouterInterface.switchId
  switches.forM fun id => do
    let _ ← Build.call "read switch" (.catalogue zone (.readSwitch id))

def publicUplink (blueprint : VpcRouterBlueprint) : SwitchConnection :=
  match blueprint.switchId.set? with
  | some id => .switch id
  | none => .shared

/-- The private interfaces are left out until the router is ready. -/
def createRequest (blueprint : VpcRouterBlueprint) : VpcRouterCreateRequest where
  name := blueprint.name
  description := blueprint.description
  tags := blueprint.tags
  iconId := blueprint.iconId
  plan := blueprint.plan
  publicUplink := blueprint.publicUplink
  virtualIp := blueprint.virtualIp
  ipAddresses := blueprint.ipAddresses
  settings := { blueprint.settings with interfaces := [] }

def updateRequest (blueprint : VpcRouterBlueprint) (settingsHash : String) :
    VpcRouterUpdateRequest where
  name := blueprint.name
  description := blueprint.description
  tags := blueprint.tags
  iconId := blueprint.iconId
  settings := blueprint.settings
  settingsHash := settingsHash

/-- The settings replace those that the given record was read with. -/
def applySettings (zone : Zone) (current : VpcRouter) (blueprint : VpcRouterBlueprint) :
    Build Unit := do
  let _ ← Build.call "update VPC router"
    (.vpcRouter zone (.update current.id (blueprint.updateRequest current.settingsHash)))
  Build.call "apply VPC router settings" (.vpcRouter zone (.config current.id))

def connectNic (zone : Zone) (id : ResourceId) (nic : VpcRouterInterface) : Build Unit :=
  Build.call "connect VPC router to switch"
    (.vpcRouter zone (.connectToSwitch id nic.index nic.switchId))

/-- A build plugs the private interfaces in before it applies the settings that name them. -/
def build (zone : Zone) (blueprint : VpcRouterBlueprint) : Build BuildResult := do
  blueprint.validate zone
  let created ← Build.call "create VPC router" (.vpcRouter zone (.create blueprint.createRequest))
  let id := created.id
  let ready ← Wait.untilReady "VPC router" id (Build.attempt (.vpcRouter zone (.read id)))
    blueprint.timing.wait
  blueprint.nics.forM (connectNic zone id)
  blueprint.applySettings zone ready
  if blueprint.bootAfterCreate then
    (vpcRouterPower zone id).switch .boot blueprint.timing blueprint.noWait
  return .ofId id

def update (zone : Zone) (blueprint : VpcRouterBlueprint) : Build BuildResult := do
  Check.requireSet "VPC router" "id" blueprint.id
  blueprint.checkFields
  let current ← Build.call "read VPC router" (.vpcRouter zone (.read blueprint.id))
  blueprint.applySettings zone current
  return .ofId blueprint.id

end VpcRouterBlueprint

end Provisioning
