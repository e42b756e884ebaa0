import Provisioning.Blueprint.Switching

/-!
Blueprints of database appliances.
-/

namespace Provisioning

/-- The parameters of the engine are set once the appliance is up. -/
structure DatabaseBlueprint extends Metadata where
  id : ResourceId
  plan : DatabasePlan
  databaseType : DatabaseType
  switchId : ResourceId
  ipAddress : Option Ipv4
  networkMaskLen : UInt8
  defaultRoute : Option Ipv4
  settings : DatabaseSettings
  parameters : SortedMap String Json
  timing : Timing
  deriving Inhabited

namespace DatabaseBlueprint

def minPort : UInt16 := 1024

/-- The default of the engine is always allowed. -/
def checkPort : Option UInt16 → Check
  | none => .ok ()
  | some number =>
      Check.require "database" (minPort ≤ number)
        s!"port {number.toNat} is outside {minPort.toNat}..=65535"

def checkFields (blueprint : DatabaseBlueprint) : Check := do
  Check.requireNonBlank "database" "name" blueprint.name
  Check.requireNonBlank "database" "user name" blueprint.settings.userName
  Check.requireNonBlank "database" "password" blueprint.settings.password
  Check.requireSet "database" "switch" blueprint.switchId
  Check.require "database" blueprint.ipAddress.isSome "an IP address is required"
  Check.require "database" (isMaskLength blueprint.networkMaskLen)
    s!"invalid network mask length {blueprint.networkMaskLen.toNat}"
  checkPort blueprint.settings.listenPort

def validate (zone : Zone) (blueprint : DatabaseBlueprint) : Build Unit := do
  blueprint.checkFields
  let _ ← Build.call "read switch" (.catalogue zone (.readSwitch blueprint.switchId))

def createRequest (blueprint : DatabaseBlueprint) : DatabaseCreateRequest where
  name := blueprint.name
  description := blueprint.description
  tags := blueprint.tags
  iconId := blueprint.iconId
  plan := blueprint.plan
  databaseType := blueprint.databaseType
  switchId := blueprint.switchId
  ipAddresses := blueprint.ipAddress.toList
  networkMaskLen := blueprint.networkMaskLen
  defaultRoute := blueprint.defaultRoute
  settings := blueprint.settings

def updateRequest (blueprint : DatabaseBlueprint) (settingsHash : String) :
    DatabaseUpdateRequest where
  name := blueprint.name
  description := blueprint.description
  tags := blueprint.tags
  iconId := blueprint.iconId
  settings := blueprint.settings
  settingsHash := settingsHash

/-- Without parameters there is nothing to set. -/
def applyParameters (zone : Zone) (id : ResourceId) (blueprint : DatabaseBlueprint) :
    Build Unit := do
  if blueprint.parameters.isEmpty then return
  Build.call "set database parameters" (.database zone (.setParameters id blueprint.parameters))

/-- A build waits until the appliance is ready and until it has booted on its own. -/
def build (zone : Zone) (blueprint : DatabaseBlueprint) : Build BuildResult := do
  blueprint.validate zone
  let created ← Build.call "create database" (.database zone (.create blueprint.createRequest))
  let id := created.id
  let probe := Build.attempt (.database zone (.read id))
  let _ ← Wait.untilReady "database" id probe blueprint.timing.wait
  let _ ← Wait.untilUp "database" id probe blueprint.timing.wait
  blueprint.applyParameters zone id
  return .ofId id

/-- An appliance that was not up is booted after its settings have been applied. -/
def update (zone : Zone) (blueprint : DatabaseBlueprint) : Build BuildResult := do
  let id := blueprint.id
  Check.requireSet "database" "id" id
  blueprint.checkFields
  let current ← Build.call "read database" (.database zone (.read id))
  let _ ← Build.call "update database"
    (.database zone (.update id (blueprint.updateRequest current.settingsHash)))
  Build.call "apply database settings" (.database zone (.config id))
  blueprint.applyParameters zone id
  if current.instanceStatus != .up then
    (databasePower zone id).switch .boot blueprint.timing false
  return .ofId id

end DatabaseBlueprint

end Provisioning
