import Provisioning.Cloud.State

/-!
How the cloud answers calls about databases, routers of a private cloud, mobile gateways and cards.
-/

namespace Provisioning.Cloud

def createDatabase (request : DatabaseCreateRequest) : CloudStep Database := do
  let _ ← switchTable.find request.switchId
  let id ← allocate
  let settingsHash ← freshHash
  let database : Database :=
    { id
      name := request.name
      description := request.description
      tags := request.tags
      iconId := request.iconId
      availability := .migrating
      instanceStatus := .down
      plan := request.plan
      databaseType := request.databaseType
      switchId := request.switchId
      ipAddresses := request.ipAddresses
      settings := request.settings
      settingsHash }
  databaseTable.insert id database
  track id
  return database

/-- A database boots on its own when it settles. -/
def settledDatabase (database : Database) : Database :=
  if database.availability.isTransitional then
    { database with availability := .available, instanceStatus := .up }
  else database

/-- An update draws its new hash before it looks at the database. -/
def updateDatabase (id : ResourceId) (request : DatabaseUpdateRequest) : CloudStep Database := do
  let settingsHash ← freshHash
  let database ← databaseTable.find id
  checkHash database.settingsHash request.settingsHash
  databaseTable.change id fun database =>
    { database with
      name := request.name
      description := request.description
      tags := request.tags
      iconId := request.iconId
      settings := request.settings
      settingsHash }

/-- Parameters that are not named keep their values. -/
def setDatabaseParameters (id : ResourceId) (parameters : SortedMap String Json) :
    CloudStep Unit := do
  let _ ← databaseTable.find id
  modify fun cloud =>
    let current := (cloud.databaseParameters.get? id).getD .empty
    { cloud with
      databaseParameters := cloud.databaseParameters.insert id (current.override parameters) }

def answerDatabase : (call : DatabaseCall) → CloudStep call.Answer
  | .create request => createDatabase request
  | .read id => databaseTable.readSettling id settledDatabase
  | .update id request => updateDatabase id request
  | .delete id => databaseTable.remove id
  | .boot id => do
      let _ ← databaseTable.change id fun database => { database with instanceStatus := .up }
  | .shutdown id force => do
      let _ ← databaseTable.change id fun database => { database with instanceStatus := .down }
      recordShutdown force
  | .config id => do
      let _ ← databaseTable.find id
  | .setParameters id parameters => setDatabaseParameters id parameters
  | .status id => do
      let database ← databaseTable.find id
      return { isUp := database.instanceStatus == .up, version := "10.11" }

def createVpcRouter (request : VpcRouterCreateRequest) : CloudStep VpcRouter := do
  let id ← allocate
  let settingsHash ← freshHash
  let router : VpcRouter :=
    { id
      name := request.name
      description := request.description
      tags := request.tags
      iconId := request.iconId
      availability := .migrating
      instanceStatus := .down
      plan := request.plan
      settings := request.settings
      settingsHash }
  vpcRouterTable.insert id router
  track id
  return router

/-- An update draws its new hash before it looks at the router. -/
def updateVpcRouter (id : ResourceId) (request : VpcRouterUpdateRequest) :
    CloudStep VpcRouter := do
  let settingsHash ← freshHash
  let router ← vpcRouterTable.find id
  checkHash router.settingsHash request.settingsHash
  vpcRouterTable.change id fun router =>
    { router with
      name := request.name
      description := request.description
      tags := request.tags
      iconId := request.iconId
      settings := request.settings
      settingsHash }

def connectVpcRouter (id : ResourceId) (index : UInt8) (switchId : ResourceId) :
    CloudStep Unit := do
  let _ ← vpcRouterTable.find id
  let _ ← switchTable.find switchId
  modify fun cloud =>
    let plugs := (cloud.vpcRouterSwitches.get? id).getD .empty
    { cloud with
      vpcRouterSwitches := cloud.vpcRouterSwitches.insert id (plugs.insert index switchId) }

def answerVpcRouter : (call : VpcRouterCall) → CloudStep call.Answer
  | .create request => createVpcRouter request
  | .read id => vpcRouterTable.readSettling id fun router =>
      { router with availability := settledAvailability router.availability }
  | .update id request => updateVpcRouter id request
  | .delete id => vpcRouterTable.remove id
  | .boot id => do
      let _ ← vpcRouterTable.change id fun router => { router with instanceStatus := .up }
  | .shutdown id force => do
      let _ ← vpcRouterTable.change id fun router => { router with instanceStatus := .down }
      recordShutdown force
  | .connectToSwitch id index switchId => connectVpcRouter id index switchId
  | .config id => do
      let _ ← vpcRouterTable.find id

def createMobileGateway (request : MobileGatewayCreateRequest) : CloudStep MobileGateway := do
  let id ← allocate
  let settingsHash ← freshHash
  let gateway : MobileGateway :=
    { id
      name := request.name
      description := request.description
      tags := request.tags
      iconId := request.iconId
      availability := .migrating
      instanceStatus := .down
      settings := request.settings
      settingsHash
      simIds := [] }
  mobileGatewayTable.insert id gateway
  track id
  return gateway

/-- An update draws its new hash before it looks at the gateway. -/
def updateMobileGateway (id : ResourceId) (request : MobileGatewayUpdateRequest) :
    CloudStep MobileGateway := do
  let settingsHash ← freshHash
  let gateway ← mobileGatewayTable.find id
  checkHash gateway.settingsHash request.settingsHash
  mobileGatewayTable.change id fun gateway =>
    { gateway with
      name := request.name
      description := request.description
      tags := request.tags
      iconId := request.iconId
      settings := request.settings
      settingsHash }

/-- A gateway lists a card at most once. -/
def addSim (id simId : ResourceId) : CloudStep Unit := do
  let _ ← simTable.find simId
  let gateway ← mobileGatewayTable.find id
  if gateway.simIds.contains simId then
    throw (.conflict "sim_already_registered" "the SIM is already registered")
  let _ ← mobileGatewayTable.change id fun gateway =>
    { gateway with simIds := gateway.simIds ++ [simId] }

def answerMobileGateway : (call : MobileGatewayCall) → CloudStep call.Answer
  | .create request => createMobileGateway request
  | .read id => mobileGatewayTable.readSettling id fun gateway =>
      { gateway with availability := settledAvailability gateway.availability }
  | .update id request => updateMobileGateway id request
  | .delete id => mobileGatewayTable.remove id
  | .boot id => do
      let _ ← mobileGatewayTable.change id fun gateway => { gateway with instanceStatus := .up }
  | .shutdown id force => do
      let _ ← mobileGatewayTable.change id fun gateway => { gateway with instanceStatus := .down }
      recordShutdown force
  | .connectToSwitch id switchId => do
      let _ ← mobileGatewayTable.find id
      let _ ← switchTable.find switchId
      modify fun cloud =>
        { cloud with mobileGatewaySwitches := cloud.mobileGatewaySwitches.insert id switchId }
  | .config id => do
      let _ ← mobileGatewayTable.find id
  | .setDns id dns => do
      let _ ← mobileGatewayTable.find id
      modify fun cloud => { cloud with mobileGatewayDns := cloud.mobileGatewayDns.insert id dns }
  | .addSim id simId => addSim id simId
  | .setTrafficConfig id traffic => do
      let _ ← mobileGatewayTable.find id
      modify fun cloud => { cloud with trafficConfigs := cloud.trafficConfigs.insert id traffic }

def answerSim : (call : SimCall) → CloudStep call.Answer
  | .read id => simTable.find id
  | .assignIp id ipAddress => do
      let _ ← simTable.change id fun sim => { sim with ipAddress := some ipAddress }

end Provisioning.Cloud
