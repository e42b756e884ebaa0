import Provisioning.Model.Status

/-!
Database appliances, their settings, and the requests about them.
-/

namespace Provisioning

/-- A database appliance runs one of two engines. -/
inductive DatabaseType where
  | mariaDb
  | postgreSql
  deriving DecidableEq, Repr, Inhabited

def DatabaseType.name : DatabaseType → String
  | mariaDb => "mariadb"
  | postgreSql => "postgresql"

instance : JsonForm DatabaseType := .ofNames DatabaseType.name [.mariaDb, .postgreSql]

/-- A database plan is known by the size of its storage. -/
inductive DatabasePlan where
  | gb10
  | gb30
  | gb90
  | gb240
  | gb500
  | tb1
  deriving DecidableEq, Repr, Inhabited

def DatabasePlan.name : DatabasePlan → String
  | gb10 => "Db10g"
  | gb30 => "Db30g"
  | gb90 => "Db90g"
  | gb240 => "Db240g"
  | gb500 => "Db500g"
  | tb1 => "Db1t"

instance : JsonForm DatabasePlan :=
  .ofNames DatabasePlan.name [.gb10, .gb30, .gb90, .gb240, .gb500, .tb1]

/-- The settings of the service name its user, where it listens and who may connect. -/
structure DatabaseSettings where
  userName : String
  password : String
  listenPort : Option UInt16
  sourceNetworks : List String
  backupEnabled : Bool
  deriving DecidableEq, Repr, Inhabited

def DatabaseSettings.fields : FieldList DatabaseSettings DatabaseSettings :=
  FieldList.start DatabaseSettings.mk
  |>.field "user_name" DatabaseSettings.userName
  |>.field "password" DatabaseSettings.password
  |>.field "port" DatabaseSettings.listenPort
  |>.field "source_networks" DatabaseSettings.sourceNetworks
  |>.field "backup_enabled" DatabaseSettings.backupEnabled

instance : JsonForm DatabaseSettings := .ofFields DatabaseSettings.fields

/-- The settings hash changes with every change of the settings. -/
structure Database where
  id : ResourceId
  name : String
  description : String
  tags : List Tag
  iconId : ResourceId
  availability : Availability
  instanceStatus : RunStatus
  plan : DatabasePlan
  databaseType : DatabaseType
  switchId : ResourceId
  ipAddresses : List Ipv4
  settings : DatabaseSettings
  settingsHash : String
  deriving DecidableEq, Repr, Inhabited

def Database.fields : FieldList Database Database :=
  FieldList.start Database.mk
  |>.field "id" Database.id
  |>.field "name" Database.name
  |>.field "description" Database.description
  |>.field "tags" Database.tags
  |>.field "icon_id" Database.iconId
  |>.field "availability" Database.availability
  |>.field "instance_status" Database.instanceStatus
  |>.field "plan" Database.plan
  |>.field "database_type" Database.databaseType
  |>.field "switch_id" Database.switchId
  |>.field "ip_addresses" Database.ipAddresses
  |>.field "settings" Database.settings
  |>.field "settings_hash" Database.settingsHash

instance : JsonForm Database := .ofFields Database.fields

instance : Lifecycle Database where
  availability := Database.availability
  runStatus database := some database.instanceStatus

structure DatabaseCreateRequest where
  name : String
  description : String
  tags : List Tag
  iconId : ResourceId
  plan : DatabasePlan
  databaseType : DatabaseType
  switchId : ResourceId
  ipAddresses : List Ipv4
  networkMaskLen : UInt8
  defaultRoute : Option Ipv4
  settings : DatabaseSettings
  deriving DecidableEq, Repr, Inhabited

def DatabaseCreateRequest.fields : FieldList DatabaseCreateRequest DatabaseCreateRequest :=
  FieldList.start DatabaseCreateRequest.mk
  |>.field "name" DatabaseCreateRequest.name
  |>.field "description" DatabaseCreateRequest.description
  |>.field "tags" DatabaseCreateRequest.tags
  |>.field "icon_id" DatabaseCreateRequest.iconId
  |>.field "plan" DatabaseCreateRequest.plan
  |>.field "database_type" DatabaseCreateRequest.databaseType
  |>.field "switch_id" DatabaseCreateRequest.switchId
  |>.field "ip_addresses" DatabaseCreateRequest.ipAddresses
  |>.field "network_mask_len" DatabaseCreateRequest.networkMaskLen
  |>.field "default_route" DatabaseCreateRequest.defaultRoute
  |>.field "settings" DatabaseCreateRequest.settings

instance : JsonForm DatabaseCreateRequest := .ofFields DatabaseCreateRequest.fields

/-- An update carries the hash of the settings that it replaces. -/
structure DatabaseUpdateRequest where
  name : String
  description : String
  tags : List Tag
  iconId : ResourceId
  settings : DatabaseSettings
  settingsHash : String
  deriving DecidableEq, Repr, Inhabited

def DatabaseUpdateRequest.fields : FieldList DatabaseUpdateRequest DatabaseUpdateRequest :=
  FieldList.start DatabaseUpdateRequest.mk
  |>.field "name" DatabaseUpdateRequest.name
  |>.field "description" DatabaseUpdateRequest.description
  |>.field "tags" DatabaseUpdateRequest.tags
  |>.field "icon_id" DatabaseUpdateRequest.iconId
  |>.field "settings" DatabaseUpdateRequest.settings
  |>.field "settings_hash" DatabaseUpdateRequest.settingsHash

instance : JsonForm DatabaseUpdateRequest := .ofFields DatabaseUpdateRequest.fields

/-- An engine reports whether it accepts connections. -/
structure DatabaseStatus where
  isUp : Bool
  version : String
  deriving DecidableEq, Repr, Inhabited

def DatabaseStatus.fields : FieldList DatabaseStatus DatabaseStatus :=
  FieldList.start DatabaseStatus.mk
  |>.field "is_up" DatabaseStatus.isUp
  |>.field "version" DatabaseStatus.version

instance : JsonForm DatabaseStatus := .ofFields DatabaseStatus.fields

end Provisioning
