import Provisioning.Model.Server

/-!
Routers of a private cloud, their settings, and the requests about them.
-/

namespace Provisioning

/-- A router is a single instance or one of two kinds of redundant pair. -/
inductive VpcRouterPlan where
  | standard
  | premium
  | highSpec
  deriving DecidableEq, Repr, Inhabited

def VpcRouterPlan.name : VpcRouterPlan → String
  | standard => "Standard"
  | premium => "Premium"
  | highSpec => "HighSpec"

instance : JsonForm VpcRouterPlan := .ofNames VpcRouterPlan.name [.standard, .premium, .highSpec]

/-- Every plan but the standard one is a redundant pair. -/
def VpcRouterPlan.isRedundant (plan : VpcRouterPlan) : Bool := plan != .standard

/-- A private interface has an index, a switch and the addresses of the router on it. -/
structure VpcRouterInterface where
  index : UInt8
  switchId : ResourceId
  virtualIp : Option Ipv4
  ipAddresses : List Ipv4
  networkMaskLen : UInt8
  deriving DecidableEq, Repr, Inhabited

def VpcRouterInterface.fields : FieldList VpcRouterInterface VpcRouterInterface :=
  FieldList.start VpcRouterInterface.mk
  |>.field "index" VpcRouterInterface.index
  |>.field "switch_id" VpcRouterInterface.switchId
  |>.field "virtual_ip" VpcRouterInterface.virtualIp
  |>.field "ip_addresses" VpcRouterInterface.ipAddresses
  |>.field "network_mask_len" VpcRouterInterface.networkMaskLen

instance : JsonForm VpcRouterInterface := .ofFields VpcRouterInterface.fields

structure VpcRouterSettings where
  vrid : Option UInt8
  internetConnectionEnabled : Bool
  interfaces : List VpcRouterInterface
  syslogHost : Option String
  deriving DecidableEq, Repr, Inhabited

def VpcRouterSettings.fields : FieldList VpcRouterSettings VpcRouterSettings :=
  FieldList.start VpcRouterSettings.mk
  |>.field "vrid" VpcRouterSettings.vrid
  |>.field "internet_connection_enabled" VpcRouterSettings.internetConnectionEnabled
  |>.field "interfaces" VpcRouterSettings.interfaces
  |>.field "syslog_host" VpcRouterSettings.syslogHost

instance : JsonForm VpcRouterSettings := .ofFields VpcRouterSettings.fields

/-- The settings hash changes with every change of the settings. -/
structure VpcRouter where
  id : ResourceId
  name : String
  description : String
  tags : List Tag
  iconId : ResourceId
  availability : Availability
  instanceStatus : RunStatus
  plan : VpcRouterPlan
  settings : VpcRouterSettings
  settingsHash : String
  deriving DecidableEq, Repr, Inhabited

def VpcRouter.fields : FieldList VpcRouter VpcRouter :=
  FieldList.start VpcRouter.mk
  |>.field "id" VpcRouter.id
  |>.field "name" VpcRouter.name
  |>.field "description" VpcRouter.description
  |>.field "tags" VpcRouter.tags
  |>.field "icon_id" VpcRouter.iconId
  |>.field "availability" VpcRouter.availability
  |>.field "instance_status" VpcRouter.instanceStatus
  |>.field "plan" VpcRouter.plan
  |>.field "settings" VpcRouter.settings
  |>.field "settings_hash" VpcRouter.settingsHash

instance : JsonForm VpcRouter := .ofFields VpcRouter.fields

instance : Lifecycle VpcRouter where
  availability := VpcRouter.availability
  runStatus router := some router.instanceStatus

structure VpcRouterCreateRequest where
  name : String
  description : String
  tags : List Tag
  iconId : ResourceId
  plan : VpcRouterPlan
  publicUplink : SwitchConnection
  virtualIp : Option Ipv4
  ipAddresses : List Ipv4
  settings : VpcRouterSettings
  deriving DecidableEq, Repr, Inhabited

def VpcRouterCreateRequest.fields : FieldList VpcRouterCreateRequest VpcRouterCreateRequest :=
  FieldList.start VpcRouterCreateRequest.mk
  |>.field "name" VpcRouterCreateRequest.name
  |>.field "description" VpcRouterCreateRequest.description
  |>.field "tags" VpcRouterCreateRequest.tags
  |>.field "icon_id" VpcRouterCreateRequest.iconId
  |>.field "plan" VpcRouterCreateRequest.plan
  |>.field "public_upstream" VpcRouterCreateRequest.publicUplink
  |>.field "virtual_ip" VpcRouterCreateRequest.virtualIp
  |>.field "ip_addresses" VpcRouterCreateRequest.ipAddresses
  |>.field "settings" VpcRouterCreateRequest.settings

instance : JsonForm VpcRouterCreateRequest := .ofFields VpcRouterCreateRequest.fields

/-- An update carries the hash of the settings that it replaces. -/
structure VpcRouterUpdateRequest where
  name : String
  description : String
  tags : List Tag
  iconId : ResourceId
  settings : VpcRouterSettings
  settingsHash : String
  deriving DecidableEq, Repr, Inhabited

def VpcRouterUpdateRequest.fields : FieldList VpcRouterUpdateRequest VpcRouterUpdateRequest :=
  FieldList.start VpcRouterUpdateRequest.mk
  |>.field "name" VpcRouterUpdateRequest.name
  |>.field "description" VpcRouterUpdateRequest.description
  |>.field "tags" VpcRouterUpdateRequest.tags
  |>.field "icon_id" VpcRouterUpdateRequest.iconId
  |>.field "settings" VpcRouterUpdateRequest.settings
  |>.field "settings_hash" VpcRouterUpdateRequest.settingsHash

instance : JsonForm VpcRouterUpdateRequest := .ofFields VpcRouterUpdateRequest.fields

end Provisioning
