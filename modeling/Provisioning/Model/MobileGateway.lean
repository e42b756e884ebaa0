import Provisioning.Model.Status

/-!
Mobile gateways, the cards that connect through them, and the requests about them.
-/

namespace Provisioning

/-- The private interface of a gateway has a switch and an address on it. -/
structure MobileGatewayInterface where
  switchId : ResourceId
  ipAddress : Ipv4
  networkMaskLen : UInt8
  deriving DecidableEq, Repr, Inhabited

def MobileGatewayInterface.fields : FieldList MobileGatewayInterface MobileGatewayInterface :=
  FieldList.start MobileGatewayInterface.mk
  |>.field "switch_id" MobileGatewayInterface.switchId
  |>.field "ip_address" MobileGatewayInterface.ipAddress
  |>.field "network_mask_len" MobileGatewayInterface.networkMaskLen

instance : JsonForm MobileGatewayInterface := .ofFields MobileGatewayInterface.fields

structure MobileGatewaySettings where
  internetConnectionEnabled : Bool
  interDeviceCommunicationEnabled : Bool
  interface : Option MobileGatewayInterface
  deriving DecidableEq, Repr, Inhabited

def MobileGatewaySettings.fields : FieldList MobileGatewaySettings MobileGatewaySettings :=
  FieldList.start MobileGatewaySettings.mk
  |>.field "internet_connection_enabled" MobileGatewaySettings.internetConnectionEnabled
  |>.field "inter_device_communication_enabled"
      MobileGatewaySettings.interDeviceCommunicationEnabled
  |>.field "interface" MobileGatewaySettings.interface

instance : JsonForm MobileGatewaySettings := .ofFields MobileGatewaySettings.fields

/-- A gateway tells its cards two name servers. -/
structure MobileGatewayDns where
  dns1 : Ipv4
  dns2 : Ipv4
  deriving DecidableEq, Repr, Inhabited

def MobileGatewayDns.fields : FieldList MobileGatewayDns MobileGatewayDns :=
  FieldList.start MobileGatewayDns.mk
  |>.field "dns1" MobileGatewayDns.dns1
  |>.field "dns2" MobileGatewayDns.dns2

instance : JsonForm MobileGatewayDns := .ofFields MobileGatewayDns.fields

/-- A gateway has a monthly quota and a bandwidth for the time after it. -/
structure TrafficConfig where
  trafficQuotaInMb : UInt32
  bandwidthLimitInKbps : UInt32
  emailNotifyEnabled : Bool
  autoTrafficShaping : Bool
  deriving DecidableEq, Repr, Inhabited

def TrafficConfig.fields : FieldList TrafficConfig TrafficConfig :=
  FieldList.start TrafficConfig.mk
  |>.field "traffic_quota_in_mb" TrafficConfig.trafficQuotaInMb
  |>.field "bandwidth_limit_in_kbps" TrafficConfig.bandwidthLimitInKbps
  |>.field "email_notify_enabled" TrafficConfig.emailNotifyEnabled
  |>.field "auto_traffic_shaping" TrafficConfig.autoTrafficShaping

instance : JsonForm TrafficConfig := .ofFields TrafficConfig.fields

/-- The settings hash changes with every change of the settings. -/
structure MobileGateway where
  id : ResourceId
  name : String
  description : String
  tags : List Tag
  iconId : ResourceId
  availability : Availability
  instanceStatus : RunStatus
  settings : MobileGatewaySettings
  settingsHash : String
  simIds : List ResourceId
  deriving DecidableEq, Repr, Inhabited

def MobileGateway.fields : FieldList MobileGateway MobileGateway :=
  FieldList.start MobileGateway.mk
  |>.field "id" MobileGateway.id
  |>.field "name" MobileGateway.name
  |>.field "description" MobileGateway.description
  |>.field "tags" MobileGateway.tags
  |>.field "icon_id" MobileGateway.iconId
  |>.field "availability" MobileGateway.availability
  |>.field "instance_status" MobileGateway.instanceStatus
  |>.field "settings" MobileGateway.settings
  |>.field "settings_hash" MobileGateway.settingsHash
  |>.field "sim_ids" MobileGateway.simIds

instance : JsonForm MobileGateway := .ofFields MobileGateway.fields

instance : Lifecycle MobileGateway where
  availability := MobileGateway.availability
  runStatus gateway := some gateway.instanceStatus

structure MobileGatewayCreateRequest where
  name : String
  description : String
  tags : List Tag
  iconId : ResourceId
  settings : MobileGatewaySettings
  deriving DecidableEq, Repr, Inhabited

def MobileGatewayCreateRequest.fields :
    FieldList MobileGatewayCreateRequest MobileGatewayCreateRequest :=
  FieldList.start MobileGatewayCreateRequest.mk
  |>.field "name" MobileGatewayCreateRequest.name
  |>.field "description" MobileGatewayCreateRequest.description
  |>.field "tags" MobileGatewayCreateRequest.tags
  |>.field "icon_id" MobileGatewayCreateRequest.iconId
  |>.field "settings" MobileGatewayCreateRequest.settings

instance : JsonForm MobileGatewayCreateRequest := .ofFields MobileGatewayCreateRequest.fields

/-- An update carries the hash of the settings that it replaces. -/
structure MobileGatewayUpdateRequest where
  name : String
  description : String
  tags : List Tag
  iconId : ResourceId
  settings : MobileGatewaySettings
  settingsHash : String
  deriving DecidableEq, Repr, Inhabited

def MobileGatewayUpdateRequest.fields :
    FieldList MobileGatewayUpdateRequest MobileGatewayUpdateRequest :=
  FieldList.start MobileGatewayUpdateRequest.mk
  |>.field "name" MobileGatewayUpdateRequest.name
  |>.field "description" MobileGatewayUpdateRequest.description
  |>.field "tags" MobileGatewayUpdateRequest.tags
  |>.field "icon_id" MobileGatewayUpdateRequest.iconId
  |>.field "settings" MobileGatewayUpdateRequest.settings
  |>.field "settings_hash" MobileGatewayUpdateRequest.settingsHash

instance : JsonForm MobileGatewayUpdateRequest := .ofFields MobileGatewayUpdateRequest.fields

/-- A SIM may have an address inside the network of its gateway. -/
structure Sim where
  id : ResourceId
  name : String
  ipAddress : Option Ipv4
  deriving DecidableEq, Repr, Inhabited

def Sim.fields : FieldList Sim Sim :=
  FieldList.start Sim.mk
  |>.field "id" Sim.id
  |>.field "name" Sim.name
  |>.field "ip_address" Sim.ipAddress

instance : JsonForm Sim := .ofFields Sim.fields

end Provisioning
