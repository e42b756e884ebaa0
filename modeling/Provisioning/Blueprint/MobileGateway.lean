import Provisioning.Blueprint.Switching

/-!
Blueprints of mobile gateways and of the cards that connect through them.
-/

namespace Provisioning

/-- A card is registered under an address of the network behind the gateway. -/
structure SimSpec where
  simId : ResourceId
  ipAddress : Ipv4
  deriving DecidableEq, Repr, Inhabited

structure MobileGatewayBlueprint extends Metadata where
  id : ResourceId
  interface : Option MobileGatewayInterface
  internetConnectionEnabled : Bool
  interDeviceCommunicationEnabled : Bool
  dns : Option MobileGatewayDns
  sims : List SimSpec
  trafficConfig : Option TrafficConfig
  bootAfterCreate : Bool
  noWait : Bool
  timing : Timing
  deriving DecidableEq, Inhabited

namespace MobileGatewayBlueprint

def settings (blueprint : MobileGatewayBlueprint) : MobileGatewaySettings where
  internetConnectionEnabled := blueprint.internetConnectionEnabled
  interDeviceCommunicationEnabled := blueprint.interDeviceCommunicationEnabled
  interface := blueprint.interface

/-- No card is listed twice. -/
def checkFields (blueprint : MobileGatewayBlueprint) : Check := do
  Check.requireNonBlank "mobile gateway" "name" blueprint.name
  if let some interface := blueprint.interface then
    Check.requireSet "mobile gateway" "interface switch" interface.switchId
  if let some id := firstDuplicate (blueprint.sims.map SimSpec.simId) then
    Check.reject "mobile gateway" s!"SIM {id.text} is listed twice"

def validate (zone : Zone) (blueprint : MobileGatewayBlueprint) : Build Unit := do
  blueprint.checkFields
  if let some interface := blueprint.interface then
    let _ ← Build.call "read switch" (.catalogue zone (.readSwitch interface.switchId))
  blueprint.sims.forM fun sim => do
    let _ ← Build.call "read SIM" (.sim (.read sim.simId))

/-- The private interface is left out until the gateway is ready. -/
def createRequest (blueprint : MobileGatewayBlueprint) : MobileGatewayCreateRequest where
  name := blueprint.name
  description := blueprint.description
  tags := blueprint.tags
  iconId := blueprint.iconId
  settings := { blueprint.settings with interface := none }

def updateRequest (blueprint : MobileGatewayBlueprint) (settingsHash : String) :
    MobileGatewayUpdateRequest where
  name := blueprint.name
  description := blueprint.description
  tags := blueprint.tags
  iconId := blueprint.iconId
  settings := blueprint.settings
  settingsHash := settingsHash

/-- The settings replace those that the given record was read with. -/
def applySettings (zone : Zone) (current : MobileGateway) (blueprint : MobileGatewayBlueprint) :
    Build Unit := do
  let _ ← Build.call "update mobile gateway"
    (.mobileGateway zone (.update current.id (blueprint.updateRequest current.settingsHash)))
  Build.call "apply mobile gateway settings" (.mobileGateway zone (.config current.id))

def registerSim (zone : Zone) (id : ResourceId) (sim : SimSpec) : Build Unit := do
  Build.call "add SIM" (.mobileGateway zone (.addSim id sim.simId))
  Build.call "assign SIM address" (.sim (.assignIp sim.simId sim.ipAddress))

/-- Cards that are registered already are passed over. -/
def registerSims (zone : Zone) (id : ResourceId) (registered : List ResourceId)
    (blueprint : MobileGatewayBlueprint) : Build Unit :=
  (blueprint.sims.filter fun sim => !registered.contains sim.simId).forM (registerSim zone id)

/-- A build connects the gateway and applies its settings before it registers any card. -/
def build (zone : Zone) (blueprint : MobileGatewayBlueprint) : Build BuildResult := do
  blueprint.validate zone
  let created ← Build.call "create mobile gateway"
    (.mobileGateway zone (.create blueprint.createRequest))
  let id := created.id
  let ready ← Wait.untilReady "mobile gateway" id
    (Build.attempt (.mobileGateway zone (.read id))) blueprint.timing.wait
  if let some interface := blueprint.interface then
    Build.call "connect mobile gateway to switch"
      (.mobileGateway zone (.connectToSwitch id interface.switchId))
  blueprint.applySettings zone ready
  if let some dns := blueprint.dns then
    Build.call "set mobile gateway DNS" (.mobileGateway zone (.setDns id dns))
  blueprint.registerSims zone id []
  if let some traffic := blueprint.trafficConfig then
    Build.call "set traffic config" (.mobileGateway zone (.setTrafficConfig id traffic))
  if blueprint.bootAfterCreate then
    (mobileGatewayPower zone id).switch .boot blueprint.timing blueprint.noWait
  return .ofId id

def update (zone : Zone) (blueprint : MobileGatewayBlueprint) : Build BuildResult := do
  Check.requireSet "mobile gateway" "id" blueprint.id
  blueprint.checkFields
  let current ← Build.call "read mobile gateway" (.mobileGateway zone (.read blueprint.id))
  blueprint.applySettings zone current
  blueprint.registerSims zone blueprint.id current.simIds
  return .ofId blueprint.id

end MobileGatewayBlueprint

end Provisioning
