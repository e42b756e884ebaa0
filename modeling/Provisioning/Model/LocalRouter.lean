import Provisioning.Model.Status

/-!
Local routers, their settings, and the requests about them.
-/

namespace Provisioning

/-- A switch is known to a local router by its code, its category and its zone. -/
structure LocalRouterSwitch where
  code : String
  category : String
  zoneId : String
  deriving DecidableEq, Repr, Inhabited

def LocalRouterSwitch.fields : FieldList LocalRouterSwitch LocalRouterSwitch :=
  FieldList.start LocalRouterSwitch.mk
  |>.field "code" LocalRouterSwitch.code
  |>.field "category" LocalRouterSwitch.category
  |>.field "zone_id" LocalRouterSwitch.zoneId

instance : JsonForm LocalRouterSwitch := .ofFields LocalRouterSwitch.fields

/-- A local router has a shared address and two real ones on its switch. -/
structure LocalRouterInterface where
  virtualIpAddress : Ipv4
  ipAddresses : List Ipv4
  networkMaskLen : UInt8
  vrid : UInt8
  deriving DecidableEq, Repr, Inhabited

def LocalRouterInterface.fields : FieldList LocalRouterInterface LocalRouterInterface :=
  FieldList.start LocalRouterInterface.mk
  |>.field "virtual_ip_address" LocalRouterInterface.virtualIpAddress
  |>.field "ip_addresses" LocalRouterInterface.ipAddresses
  |>.field "network_mask_len" LocalRouterInterface.networkMaskLen
  |>.field "vrid" LocalRouterInterface.vrid

instance : JsonForm LocalRouterInterface := .ofFields LocalRouterInterface.fields

structure LocalRouterPeer where
  peerId : ResourceId
  secretKey : String
  enabled : Bool
  deriving DecidableEq, Repr, Inhabited

def LocalRouterPeer.fields : FieldList LocalRouterPeer LocalRouterPeer :=
  FieldList.start LocalRouterPeer.mk
  |>.field "peer_id" LocalRouterPeer.peerId
  |>.field "secret_key" LocalRouterPeer.secretKey
  |>.field "enabled" LocalRouterPeer.enabled

instance : JsonForm LocalRouterPeer := .ofFields LocalRouterPeer.fields

structure LocalRouterStaticRoute where
  destination : String
  nextHop : String
  deriving DecidableEq, Repr, Inhabited

def LocalRouterStaticRoute.fields : FieldList LocalRouterStaticRoute LocalRouterStaticRoute :=
  FieldList.start LocalRouterStaticRoute.mk
  |>.field "prefix" LocalRouterStaticRoute.destination
  |>.field "next_hop" LocalRouterStaticRoute.nextHop

instance : JsonForm LocalRouterStaticRoute := .ofFields LocalRouterStaticRoute.fields

structure LocalRouterSettings where
  switch : LocalRouterSwitch
  interface : Option LocalRouterInterface
  peers : List LocalRouterPeer
  staticRoutes : List LocalRouterStaticRoute
  deriving DecidableEq, Repr, Inhabited

def LocalRouterSettings.fields : FieldList LocalRouterSettings LocalRouterSettings :=
  FieldList.start LocalRouterSettings.mk
  |>.field "switch" LocalRouterSettings.switch
  |>.field "interface" LocalRouterSettings.interface
  |>.field "peers" LocalRouterSettings.peers
  |>.field "static_routes" LocalRouterSettings.staticRoutes

instance : JsonForm LocalRouterSettings := .ofFields LocalRouterSettings.fields

/-- The settings hash changes with every change of the settings. -/
structure LocalRouter where
  id : ResourceId
  name : String
  description : String
  tags : List Tag
  iconId : ResourceId
  availability : Availability
  settings : LocalRouterSettings
  settingsHash : String
  secretKeys : List String
  deriving DecidableEq, Repr, Inhabited

def LocalRouter.fields : FieldList LocalRouter LocalRouter :=
  FieldList.start LocalRouter.mk
  |>.field "id" LocalRouter.id
  |>.field "name" LocalRouter.name
  |>.field "description" LocalRouter.description
  |>.field "tags" LocalRouter.tags
  |>.field "icon_id" LocalRouter.iconId
  |>.field "availability" LocalRouter.availability
  |>.field "settings" LocalRouter.settings
  |>.field "settings_hash" LocalRouter.settingsHash
  |>.field "secret_keys" LocalRouter.secretKeys

instance : JsonForm LocalRouter := .ofFields LocalRouter.fields

instance : Lifecycle LocalRouter where
  availability := LocalRouter.availability

structure LocalRouterCreateRequest where
  name : String
  description : String
  tags : List Tag
  iconId : ResourceId
  deriving DecidableEq, Repr, Inhabited

def LocalRouterCreateRequest.fields : FieldList LocalRouterCreateRequest LocalRouterCreateRequest :=
  FieldList.start LocalRouterCreateRequest.mk
  |>.field "name" LocalRouterCreateRequest.name
  |>.field "description" LocalRouterCreateRequest.description
  |>.field "tags" LocalRouterCreateRequest.tags
  |>.field "icon_id" LocalRouterCreateRequest.iconId

instance : JsonForm LocalRouterCreateRequest := .ofFields LocalRouterCreateRequest.fields

end Provisioning
