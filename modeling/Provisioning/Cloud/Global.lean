import Provisioning.Cloud.State

/-!
How the cloud answers calls about container registries and local routers, which have no zone.
-/

namespace Provisioning.Cloud

def createRegistry (request : ContainerRegistryCreateRequest) : CloudStep ContainerRegistry := do
  let id ← allocate
  let registry : ContainerRegistry :=
    { id
      name := request.name
      description := request.description
      tags := request.tags
      iconId := request.iconId
      availability := .migrating
      accessLevel := request.accessLevel
      subdomainLabel := request.subdomainLabel
      virtualDomain := request.virtualDomain
      userNames := [] }
  registryTable.insert id registry
  track id
  return registry

/-- A registry lists a user at most once. -/
def addRegistryUser (id : ResourceId) (user : RegistryUser) : CloudStep Unit := do
  let registry ← registryTable.find id
  if registry.userNames.contains user.userName then
    throw (.conflict "user_exists" "the user already exists")
  let _ ← registryTable.change id fun registry =>
    { registry with userNames := registry.userNames ++ [user.userName] }

def deleteRegistryUser (id : ResourceId) (userName : String) : CloudStep Unit := do
  let registry ← registryTable.find id
  if !registry.userNames.contains userName then
    throw (.notFound "registry user" userName)
  let _ ← registryTable.change id fun registry =>
    { registry with userNames := registry.userNames.filter (· != userName) }

def answerRegistry : (call : ContainerRegistryCall) → CloudStep call.Answer
  | .create request => createRegistry request
  | .read id => registryTable.readSettling id fun registry =>
      { registry with availability := settledAvailability registry.availability }
  | .update id request => registryTable.change id fun registry =>
      { registry with
        name := request.name
        description := request.description
        tags := request.tags
        iconId := request.iconId
        accessLevel := request.accessLevel
        virtualDomain := request.virtualDomain }
  | .delete id => registryTable.remove id
  | .addUser id user => addRegistryUser id user
  | .deleteUser id userName => deleteRegistryUser id userName

/-- A new local router has blank settings and a secret of its own. -/
def createLocalRouter (request : LocalRouterCreateRequest) : CloudStep LocalRouter := do
  let id ← allocate
  let settingsHash ← freshHash
  let router : LocalRouter :=
    { id
      name := request.name
      description := request.description
      tags := request.tags
      iconId := request.iconId
      availability := .migrating
      settings := default
      settingsHash
      secretKeys := [s!"secret-{id.text}"] }
  localRouterTable.insert id router
  track id
  return router

/-- An update draws its new hash before it looks at the router. -/
def updateLocalRouterSettings (id : ResourceId) (settings : LocalRouterSettings)
    (givenHash : String) : CloudStep LocalRouter := do
  let settingsHash ← freshHash
  let router ← localRouterTable.find id
  checkHash router.settingsHash givenHash
  localRouterTable.change id fun router => { router with settings, settingsHash }

def answerLocalRouter : (call : LocalRouterCall) → CloudStep call.Answer
  | .create request => createLocalRouter request
  | .read id => localRouterTable.readSettling id fun router =>
      { router with availability := settledAvailability router.availability }
  | .updateSettings id settings settingsHash => updateLocalRouterSettings id settings settingsHash
  | .delete id => localRouterTable.remove id

end Provisioning.Cloud
