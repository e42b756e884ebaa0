import Provisioning.Blueprint.Basic

/-!
Blueprints of local routers, which join a switch to other routers.
-/

namespace Provisioning

structure LocalRouterBlueprint extends Metadata where
  id : ResourceId
  switch : LocalRouterSwitch
  interface : Option LocalRouterInterface
  peers : List LocalRouterPeer
  staticRoutes : List LocalRouterStaticRoute
  timing : Timing
  deriving DecidableEq, Inhabited

namespace LocalRouterBlueprint

def settings (blueprint : LocalRouterBlueprint) : LocalRouterSettings where
  switch := blueprint.switch
  interface := blueprint.interface
  peers := blueprint.peers
  staticRoutes := blueprint.staticRoutes

def checkInterface : Option LocalRouterInterface → Check
  | none => Check.reject "local router" "an interface is required"
  | some interface => do
      let count := interface.ipAddresses.length
      Check.require "local router" (count == 2) s!"the interface needs 2 IP addresses, got {count}"
      Check.require "local router" (isMaskLength interface.networkMaskLen)
        s!"invalid network mask length {interface.networkMaskLen.toNat}"

def checkPeer (id : ResourceId) (peer : LocalRouterPeer) : Check := do
  Check.requireSet "local router" "peer" peer.peerId
  Check.require "local router" (peer.peerId != id) "a router cannot peer with itself"

def checkFields (blueprint : LocalRouterBlueprint) : Check := do
  Check.requireNonBlank "local router" "name" blueprint.name
  Check.requireNonBlank "local router" "switch code" blueprint.switch.code
  checkInterface blueprint.interface
  blueprint.peers.forM (checkPeer blueprint.id)
  if let some id := firstDuplicate (blueprint.peers.map LocalRouterPeer.peerId) then
    Check.reject "local router" s!"peer {id.text} is listed twice"

/-- A peer has to know the secret that is declared for it. -/
def validatePeer (peer : LocalRouterPeer) : Build Unit := do
  let router ← Build.call "read peer local router" (.localRouter (.read peer.peerId))
  Check.require "local router" (router.secretKeys.contains peer.secretKey)
    s!"peer {peer.peerId.text} does not accept the given secret key"

def validate (blueprint : LocalRouterBlueprint) : Build Unit := do
  blueprint.checkFields
  blueprint.peers.forM validatePeer

def createRequest (blueprint : LocalRouterBlueprint) : LocalRouterCreateRequest where
  name := blueprint.name
  description := blueprint.description
  tags := blueprint.tags
  iconId := blueprint.iconId

/-- The settings replace those with the given hash. -/
def applySettings (id : ResourceId) (settingsHash : String) (blueprint : LocalRouterBlueprint) :
    Build Unit := do
  let _ ← Build.call "update local router settings"
    (.localRouter (.updateSettings id blueprint.settings settingsHash))

def build (blueprint : LocalRouterBlueprint) : Build BuildResult := do
  blueprint.validate
  let created ← Build.call "create local router" (.localRouter (.create blueprint.createRequest))
  let id := created.id
  let ready ← Wait.untilReady "local router" id (Build.attempt (.localRouter (.read id)))
    blueprint.timing.wait
  blueprint.applySettings id ready.settingsHash
  return .ofId id

def update (blueprint : LocalRouterBlueprint) : Build BuildResult := do
  Check.requireSet "local router" "id" blueprint.id
  blueprint.validate
  let current ← Build.call "read local router" (.localRouter (.read blueprint.id))
  blueprint.applySettings blueprint.id current.settingsHash
  return .ofId blueprint.id

end LocalRouterBlueprint

end Provisioning
