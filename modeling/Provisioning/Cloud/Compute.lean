import Provisioning.Cloud.State

/-!
How the cloud answers calls about servers and their interfaces.
-/

namespace Provisioning.Cloud

/-- The first plan with an identifier is the plan of that identifier. -/
def findServerPlan (planId : ResourceId) : CloudStep ServerPlan := do
  match (← get).serverPlans.find? fun plan => plan.id == planId with
  | some plan => return plan
  | none => throw (.missing "server plan" planId)

/-- Each uplink of a request becomes an interface with an identifier of its own. -/
def createInterfaces : List SwitchConnection → CloudStep (List Interface)
  | [] => return []
  | uplink :: rest => do
      let id ← allocate
      let interfaces ← createInterfaces rest
      return { id, uplink, packetFilterId := .unset, userIpAddress := none } :: interfaces

/-- A new server is stopped and has the shape of its plan. -/
def createServer (request : ServerCreateRequest) : CloudStep Server := do
  let plan ← findServerPlan request.planId
  let id ← allocate
  let interfaces ← createInterfaces request.connectedSwitches
  let server : Server :=
    { id
      name := request.name
      description := request.description
      tags := request.tags
      iconId := request.iconId
      availability := .available
      instanceStatus := .down
      planId := plan.id
      cpu := plan.cpu
      memoryGb := plan.memoryGb
      interfaces
      diskIds := []
      cdromId := .unset }
  serverTable.insert id server
  return server

/-- A stopped server moves to a plan under a new identifier, and its disks follow. -/
def changeServerPlan (id planId : ResourceId) : CloudStep Server := do
  let plan ← findServerPlan planId
  let server ← serverTable.find id
  if server.instanceStatus = .up then
    throw (.conflict "server_running" "the server must be stopped to change its plan")
  let newId ← allocate
  let moved : Server :=
    { server with id := newId, planId := plan.id, cpu := plan.cpu, memoryGb := plan.memoryGb }
  modify fun cloud =>
    { cloud with
      servers := (cloud.servers.erase id).insert newId moved
      disks := cloud.disks.mapValues fun _ disk =>
        if disk.serverId = id then { disk with serverId := newId } else disk }
  return moved

/-- This function changes the first interface that has an identifier. -/
def changeInterfaceIn (id : ResourceId) (change : Interface → Interface) :
    List Interface → Option (List Interface)
  | [] => none
  | interface :: rest =>
      if interface.id = id then some (change interface :: rest)
      else (changeInterfaceIn id change rest).map (interface :: ·)

/-- An interface belongs to the first server that has one with its identifier. -/
def findInterfaceOwner (id : ResourceId) (change : Interface → Interface) :
    List (ResourceId × Server) → Option (ResourceId × List Interface)
  | [] => none
  | (serverId, server) :: rest =>
      match changeInterfaceIn id change server.interfaces with
      | some interfaces => some (serverId, interfaces)
      | none => findInterfaceOwner id change rest

def changeInterface (id : ResourceId) (change : Interface → Interface) : CloudStep Unit := do
  match findInterfaceOwner id change (← get).servers.entries with
  | some (serverId, interfaces) =>
      let _ ← serverTable.change serverId fun server => { server with interfaces }
  | none => throw (.missing "interface" id)

def answerServer : (call : ServerCall) → CloudStep call.Answer
  | .create request => createServer request
  | .read id => serverTable.find id
  | .update id request => serverTable.change id fun server =>
      { server with
        name := request.name
        description := request.description
        tags := request.tags
        iconId := request.iconId }
  | .delete id => serverTable.remove id
  | .boot id => do
      let _ ← serverTable.change id fun server => { server with instanceStatus := .up }
  | .shutdown id force => do
      let _ ← serverTable.change id fun server => { server with instanceStatus := .down }
      recordShutdown force
  | .changePlan id planId => changeServerPlan id planId
  | .insertCdrom id cdromId => do
      let _ ← cdromTable.find cdromId
      let _ ← serverTable.change id fun server => { server with cdromId }
  | .ejectCdrom id _ => do
      let _ ← serverTable.change id fun server => { server with cdromId := .unset }
  | .connectToPacketFilter interfaceId packetFilterId => do
      let _ ← packetFilterTable.find packetFilterId
      changeInterface interfaceId fun interface => { interface with packetFilterId }
  | .updateInterface interfaceId request =>
      changeInterface interfaceId fun interface =>
        { interface with userIpAddress := request.userIpAddress }

end Provisioning.Cloud
