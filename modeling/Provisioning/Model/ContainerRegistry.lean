import Provisioning.Model.Status

/-!
Container registries, their users, and the requests about them.
-/

namespace Provisioning

/-- This choice says what anyone may do with a registry. -/
inductive AccessLevel where
  | readWrite
  | readOnly
  | none
  deriving DecidableEq, Repr

instance : Inhabited AccessLevel := ⟨.none⟩

def AccessLevel.name : AccessLevel → String
  | readWrite => "read_write"
  | readOnly => "read_only"
  | none => "none"

instance : JsonForm AccessLevel := .ofNames AccessLevel.name [.readWrite, .readOnly, .none]

/-- This choice says what a user of a registry may do. -/
inductive Permission where
  | all
  | readWrite
  | readOnly
  deriving DecidableEq, Repr

instance : Inhabited Permission := ⟨.readWrite⟩

def Permission.name : Permission → String
  | all => "all"
  | readWrite => "readwrite"
  | readOnly => "readonly"

instance : JsonForm Permission := .ofNames Permission.name [.all, .readWrite, .readOnly]

structure RegistryUser where
  userName : String
  password : String
  permission : Permission
  deriving DecidableEq, Repr, Inhabited

def RegistryUser.fields : FieldList RegistryUser RegistryUser :=
  FieldList.start RegistryUser.mk
  |>.field "user_name" RegistryUser.userName
  |>.field "password" RegistryUser.password
  |>.field "permission" RegistryUser.permission

instance : JsonForm RegistryUser := .ofFields RegistryUser.fields

/-- A registry lists the names of its users. -/
structure ContainerRegistry where
  id : ResourceId
  name : String
  description : String
  tags : List Tag
  iconId : ResourceId
  availability : Availability
  accessLevel : AccessLevel
  subdomainLabel : String
  virtualDomain : Option String
  userNames : List String
  deriving DecidableEq, Repr, Inhabited

def ContainerRegistry.fields : FieldList ContainerRegistry ContainerRegistry :=
  FieldList.start ContainerRegistry.mk
  |>.field "id" ContainerRegistry.id
  |>.field "name" ContainerRegistry.name
  |>.field "description" ContainerRegistry.description
  |>.field "tags" ContainerRegistry.tags
  |>.field "icon_id" ContainerRegistry.iconId
  |>.field "availability" ContainerRegistry.availability
  |>.field "access_level" ContainerRegistry.accessLevel
  |>.field "subdomain_label" ContainerRegistry.subdomainLabel
  |>.field "virtual_domain" ContainerRegistry.virtualDomain
  |>.field "user_names" ContainerRegistry.userNames

instance : JsonForm ContainerRegistry := .ofFields ContainerRegistry.fields

instance : Lifecycle ContainerRegistry where
  availability := ContainerRegistry.availability

structure ContainerRegistryCreateRequest where
  name : String
  description : String
  tags : List Tag
  iconId : ResourceId
  accessLevel : AccessLevel
  subdomainLabel : String
  virtualDomain : Option String
  deriving DecidableEq, Repr, Inhabited

def ContainerRegistryCreateRequest.fields :
    FieldList ContainerRegistryCreateRequest ContainerRegistryCreateRequest :=
  FieldList.start ContainerRegistryCreateRequest.mk
  |>.field "name" ContainerRegistryCreateRequest.name
  |>.field "description" ContainerRegistryCreateRequest.description
  |>.field "tags" ContainerRegistryCreateRequest.tags
  |>.field "icon_id" ContainerRegistryCreateRequest.iconId
  |>.field "access_level" ContainerRegistryCreateRequest.accessLevel
  |>.field "subdomain_label" ContainerRegistryCreateRequest.subdomainLabel
  |>.field "virtual_domain" ContainerRegistryCreateRequest.virtualDomain

instance : JsonForm ContainerRegistryCreateRequest :=
  .ofFields ContainerRegistryCreateRequest.fields

structure ContainerRegistryUpdateRequest where
  name : String
  description : String
  tags : List Tag
  iconId : ResourceId
  accessLevel : AccessLevel
  virtualDomain : Option String
  deriving DecidableEq, Repr, Inhabited

def ContainerRegistryUpdateRequest.fields :
    FieldList ContainerRegistryUpdateRequest ContainerRegistryUpdateRequest :=
  FieldList.start ContainerRegistryUpdateRequest.mk
  |>.field "name" ContainerRegistryUpdateRequest.name
  |>.field "description" ContainerRegistryUpdateRequest.description
  |>.field "tags" ContainerRegistryUpdateRequest.tags
  |>.field "icon_id" ContainerRegistryUpdateRequest.iconId
  |>.field "access_level" ContainerRegistryUpdateRequest.accessLevel
  |>.field "virtual_domain" ContainerRegistryUpdateRequest.virtualDomain

instance : JsonForm ContainerRegistryUpdateRequest :=
  .ofFields ContainerRegistryUpdateRequest.fields

end Provisioning
