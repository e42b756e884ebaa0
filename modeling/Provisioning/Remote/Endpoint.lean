import Provisioning.Identifier

/-!
The operations that a remote offers, without their arguments.
-/

namespace Provisioning

/-- An endpoint is one operation of a remote. -/
inductive Endpoint where
  | createDisk
  | createDiskWithConfig
  | readDisk
  | updateDisk
  | deleteDisk
  | connectDiskToServer
  | configDisk
  | readArchive
  | findArchives
  | readDiskPlan
  | findServerPlans
  | readSwitch
  | readPacketFilter
  | readCdrom
  | generateSshKey
  | readSshKey
  | deleteSshKey
  | createNote
  | readNote
  | deleteNote
  | createServer
  | readServer
  | updateServer
  | deleteServer
  | bootServer
  | shutdownServer
  | changeServerPlan
  | insertCdrom
  | ejectCdrom
  | connectToPacketFilter
  | updateInterface
  | createDatabase
  | readDatabase
  | updateDatabase
  | deleteDatabase
  | bootDatabase
  | shutdownDatabase
  | configDatabase
  | setDatabaseParameters
  | databaseStatus
  | createVpcRouter
  | readVpcRouter
  | updateVpcRouter
  | deleteVpcRouter
  | bootVpcRouter
  | shutdownVpcRouter
  | connectVpcRouterToSwitch
  | configVpcRouter
  | createMobileGateway
  | readMobileGateway
  | updateMobileGateway
  | deleteMobileGateway
  | bootMobileGateway
  | shutdownMobileGateway
  | connectMobileGatewayToSwitch
  | configMobileGateway
  | setMobileGatewayDns
  | addSim
  | setTrafficConfig
  | readSim
  | assignSimIp
  | createContainerRegistry
  | readContainerRegistry
  | updateContainerRegistry
  | deleteContainerRegistry
  | addRegistryUser
  | deleteRegistryUser
  | createLocalRouter
  | readLocalRouter
  | updateLocalRouterSettings
  | deleteLocalRouter
  deriving DecidableEq, Repr

namespace Endpoint

def all : List Endpoint :=
  [.createDisk, .createDiskWithConfig, .readDisk, .updateDisk, .deleteDisk,
    .connectDiskToServer, .configDisk, .readArchive, .findArchives, .readDiskPlan,
    .findServerPlans, .readSwitch, .readPacketFilter, .readCdrom, .generateSshKey,
    .readSshKey, .deleteSshKey, .createNote, .readNote, .deleteNote, .createServer,
    .readServer, .updateServer, .deleteServer, .bootServer, .shutdownServer,
    .changeServerPlan, .insertCdrom, .ejectCdrom, .connectToPacketFilter,
    .updateInterface, .createDatabase, .readDatabase, .updateDatabase, .deleteDatabase,
    .bootDatabase, .shutdownDatabase, .configDatabase, .setDatabaseParameters,
    .databaseStatus, .createVpcRouter, .readVpcRouter, .updateVpcRouter,
    .deleteVpcRouter, .bootVpcRouter, .shutdownVpcRouter, .connectVpcRouterToSwitch,
    .configVpcRouter, .createMobileGateway, .readMobileGateway, .updateMobileGateway,
    .deleteMobileGateway, .bootMobileGateway, .shutdownMobileGateway,
    .connectMobileGatewayToSwitch, .configMobileGateway, .setMobileGatewayDns, .addSim,
    .setTrafficConfig, .readSim, .assignSimIp, .createContainerRegistry,
    .readContainerRegistry, .updateContainerRegistry, .deleteContainerRegistry,
    .addRegistryUser, .deleteRegistryUser, .createLocalRouter, .readLocalRouter,
    .updateLocalRouterSettings, .deleteLocalRouter]

def name : Endpoint → String
  | createDisk => "create_disk"
  | createDiskWithConfig => "create_disk_with_config"
  | readDisk => "read_disk"
  | updateDisk => "update_disk"
  | deleteDisk => "delete_disk"
  | connectDiskToServer => "connect_disk_to_server"
  | configDisk => "config_disk"
  | readArchive => "read_archive"
  | findArchives => "find_archives"
  | readDiskPlan => "read_disk_plan"
  | findServerPlans => "find_server_plans"
  | readSwitch => "read_switch"
  | readPacketFilter => "read_packet_filter"
  | readCdrom => "read_cdrom"
  | generateSshKey => "generate_ssh_key"
  | readSshKey => "read_ssh_key"
  | deleteSshKey => "delete_ssh_key"
  | createNote => "create_note"
  | readNote => "read_note"
  | deleteNote => "delete_note"
  | createServer => "create_server"
  | readServer => "read_server"
  | updateServer => "update_server"
  | deleteServer => "delete_server"
  | bootServer => "boot_server"
  | shutdownServer => "shutdown_server"
  | changeServerPlan => "change_server_plan"
  | insertCdrom => "insert_cdrom"
  | ejectCdrom => "eject_cdrom"
  | connectToPacketFilter => "connect_to_packet_filter"
  | updateInterface => "update_interface"
  | createDatabase => "create_database"
  | readDatabase => "read_database"
  | updateDatabase => "update_database"
  | deleteDatabase => "delete_database"
  | bootDatabase => "boot_database"
  | shutdownDatabase => "shutdown_database"
  | configDatabase => "config_database"
  | setDatabaseParameters => "set_database_parameters"
  | databaseStatus => "database_status"
  | createVpcRouter => "create_vpc_router"
  | readVpcRouter => "read_vpc_router"
  | updateVpcRouter => "update_vpc_router"
  | deleteVpcRouter => "delete_vpc_router"
  | bootVpcRouter => "boot_vpc_router"
  | shutdownVpcRouter => "shutdown_vpc_router"
  | connectVpcRouterToSwitch => "connect_vpc_router_to_switch"
  | configVpcRouter => "config_vpc_router"
  | createMobileGateway => "create_mobile_gateway"
  | readMobileGateway => "read_mobile_gateway"
  | updateMobileGateway => "update_mobile_gateway"
  | deleteMobileGateway => "delete_mobile_gateway"
  | bootMobileGateway => "boot_mobile_gateway"
  | shutdownMobileGateway => "shutdown_mobile_gateway"
  | connectMobileGatewayToSwitch => "connect_mobile_gateway_to_switch"
  | configMobileGateway => "config_mobile_gateway"
  | setMobileGatewayDns => "set_mobile_gateway_dns"
  | addSim => "add_sim"
  | setTrafficConfig => "set_traffic_config"
  | readSim => "read_sim"
  | assignSimIp => "assign_sim_ip"
  | createContainerRegistry => "create_container_registry"
  | readContainerRegistry => "read_container_registry"
  | updateContainerRegistry => "update_container_registry"
  | deleteContainerRegistry => "delete_container_registry"
  | addRegistryUser => "add_registry_user"
  | deleteRegistryUser => "delete_registry_user"
  | createLocalRouter => "create_local_router"
  | readLocalRouter => "read_local_router"
  | updateLocalRouterSettings => "update_local_router_settings"
  | deleteLocalRouter => "delete_local_router"

def ofName? (text : String) : Option Endpoint := all.find? fun endpoint => endpoint.name == text

/-- An operation that only looks cannot change what the remote keeps. -/
def isReadOnly : Endpoint → Bool
  | readDisk
  | readArchive
  | findArchives
  | readDiskPlan
  | findServerPlans
  | readSwitch
  | readPacketFilter
  | readCdrom
  | readSshKey
  | readNote
  | readServer
  | readDatabase
  | databaseStatus
  | readVpcRouter
  | readMobileGateway
  | readSim
  | readContainerRegistry
  | readLocalRouter => true
  | _ => false

/-- This function takes the first entry for an endpoint out of a queue that endpoints share. -/
def takeFirst {α : Type} (endpoint : Endpoint) :
    List (Endpoint × α) → Option (α × List (Endpoint × α))
  | [] => none
  | entry :: rest =>
      if entry.1 = endpoint then some (entry.2, rest)
      else (endpoint.takeFirst rest).map fun (found, others) => (found, entry :: others)

end Endpoint

end Provisioning
