import Provisioning.Blueprint.Basic

/-!
Blueprints of container registries.
-/

namespace Provisioning

/-- The subdomain of a registry never changes after its creation. -/
structure ContainerRegistryBlueprint extends Metadata where
  id : ResourceId
  accessLevel : AccessLevel
  subdomainLabel : String
  virtualDomain : Option String
  users : List RegistryUser
  timing : Timing
  deriving DecidableEq, Inhabited

namespace ContainerRegistryBlueprint

def checkUser (user : RegistryUser) : Check := do
  Check.requireNonBlank "container registry" "user name" user.userName
  Check.requireNonBlank "container registry" "user password" user.password

/-- A registry is validated without a look at the remote. -/
def validate (blueprint : ContainerRegistryBlueprint) : Check := do
  Check.requireNonBlank "container registry" "name" blueprint.name
  Check.requireNonBlank "container registry" "subdomain label" blueprint.subdomainLabel
  blueprint.users.forM checkUser
  if let some name := firstDuplicate (blueprint.users.map RegistryUser.userName) then
    Check.reject "container registry" s!"user {name} is listed twice"

def createRequest (blueprint : ContainerRegistryBlueprint) : ContainerRegistryCreateRequest where
  name := blueprint.name
  description := blueprint.description
  tags := blueprint.tags
  iconId := blueprint.iconId
  accessLevel := blueprint.accessLevel
  subdomainLabel := blueprint.subdomainLabel
  virtualDomain := blueprint.virtualDomain

def updateRequest (blueprint : ContainerRegistryBlueprint) : ContainerRegistryUpdateRequest where
  name := blueprint.name
  description := blueprint.description
  tags := blueprint.tags
  iconId := blueprint.iconId
  accessLevel := blueprint.accessLevel
  virtualDomain := blueprint.virtualDomain

def addUser (id : ResourceId) (user : RegistryUser) : Build Unit :=
  Build.call "add registry user" (.containerRegistry (.addUser id user))

def deleteUser (id : ResourceId) (userName : String) : Build Unit :=
  Build.call "delete registry user" (.containerRegistry (.deleteUser id userName))

def build (blueprint : ContainerRegistryBlueprint) : Build BuildResult := do
  blueprint.validate
  let created ← Build.call "create container registry"
    (.containerRegistry (.create blueprint.createRequest))
  let id := created.id
  let _ ← Wait.untilReady "container registry" id
    (Build.attempt (.containerRegistry (.read id))) blueprint.timing.wait
  blueprint.users.forM (addUser id)
  return .ofId id

/-- An update adds the users that are missing and then deletes those that are not listed. -/
def update (blueprint : ContainerRegistryBlueprint) : Build BuildResult := do
  let id := blueprint.id
  Check.requireSet "container registry" "id" id
  blueprint.validate
  let current ← Build.call "update container registry"
    (.containerRegistry (.update id blueprint.updateRequest))
  let listed := blueprint.users.map RegistryUser.userName
  (blueprint.users.filter fun user => !current.userNames.contains user.userName).forM (addUser id)
  (current.userNames.filter fun name => !listed.contains name).forM (deleteUser id)
  return .ofId id

end ContainerRegistryBlueprint

end Provisioning
