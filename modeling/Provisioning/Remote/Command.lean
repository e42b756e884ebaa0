import Provisioning.Json.Default
import Provisioning.Remote.Request

/-!
Requests from documents: a request is named by its endpoint and its zone, and its arguments are the
fields of a document. An argument that is left out is blank.
-/

namespace Provisioning

/-- The zone is ignored by the endpoints that have none. -/
def Endpoint.request? (endpoint : Endpoint) (zone : Zone) (given : Json) : Option Request :=
  match endpoint with
  | .createDisk => do
      return .disk zone (.create (← decodeField given "request")
        (← decodeField given "distant_from"))
  | .createDiskWithConfig => do
      return .disk zone (.createWithConfig (← decodeField given "request")
        (← decodeField given "edit") (← decodeField given "boot_at_available")
        (← decodeField given "distant_from"))
  | .readDisk => do return .disk zone (.read (← decodeField given "id"))
  | .updateDisk => do
      return .disk zone (.update (← decodeField given "id") (← decodeField given "request"))
  | .deleteDisk => do return .disk zone (.delete (← decodeField given "id"))
  | .connectDiskToServer => do
      return .disk zone (.connectToServer (← decodeField given "id")
        (← decodeField given "server_id"))
  | .configDisk => do
      return .disk zone (.config (← decodeField given "id") (← decodeField given "edit"))
  | .readArchive => do return .catalogue zone (.readArchive (← decodeField given "id"))
  | .findArchives => do return .catalogue zone (.findArchives (← decodeField given "condition"))
  | .readDiskPlan => do return .catalogue zone (.readDiskPlan (← decodeField given "id"))
  | .findServerPlans => return .catalogue zone .findServerPlans
  | .readSwitch => do return .catalogue zone (.readSwitch (← decodeField given "id"))
  | .readPacketFilter => do return .catalogue zone (.readPacketFilter (← decodeField given "id"))
  | .readCdrom => do return .catalogue zone (.readCdrom (← decodeField given "id"))
  | .generateSshKey => do return .credential (.generateSshKey (← decodeField given "request"))
  | .readSshKey => do return .credential (.readSshKey (← decodeField given "id"))
  | .deleteSshKey => do return .credential (.deleteSshKey (← decodeField given "id"))
  | .createNote => do return .credential (.createNote (← decodeField given "request"))
  | .readNote => do return .credential (.readNote (← decodeField given "id"))
  | .deleteNote => do return .credential (.deleteNote (← decodeField given "id"))
  | .createServer => do return .server zone (.create (← decodeField given "request"))
  | .readServer => do return .server zone (.read (← decodeField given "id"))
  | .updateServer => do
      return .server zone (.update (← decodeField given "id") (← decodeField given "request"))
  | .deleteServer => do return .server zone (.delete (← decodeField given "id"))
  | .bootServer => do return .server zone (.boot (← decodeField given "id"))
  | .shutdownServer => do
      return .server zone (.shutdown (← decodeField given "id") (← decodeField given "force"))
  | .changeServerPlan => do
      return .server zone (.changePlan (← decodeField given "id") (← decodeField given "plan_id"))
  | .insertCdrom => do
      return .server zone (.insertCdrom (← decodeField given "id") (← decodeField given "cdrom_id"))
  | .ejectCdrom => do
      return .server zone (.ejectCdrom (← decodeField given "id") (← decodeField given "cdrom_id"))
  | .connectToPacketFilter => do
      return .server zone (.connectToPacketFilter (← decodeField given "interface_id")
        (← decodeField given "packet_filter_id"))
  | .updateInterface => do
      return .server zone (.updateInterface (← decodeField given "interface_id")
        (← decodeField given "request"))
  | .createDatabase => do return .database zone (.create (← decodeField given "request"))
  | .readDatabase => do return .database zone (.read (← decodeField given "id"))
  | .updateDatabase => do
      return .database zone (.update (← decodeField given "id") (← decodeField given "request"))
  | .deleteDatabase => do return .database zone (.delete (← decodeField given "id"))
  | .bootDatabase => do return .database zone (.boot (← decodeField given "id"))
  | .shutdownDatabase => do
      return .database zone (.shutdown (← decodeField given "id") (← decodeField given "force"))
  | .configDatabase => do return .database zone (.config (← decodeField given "id"))
  | .setDatabaseParameters => do
      return .database zone (.setParameters (← decodeField given "id")
        (← decodeField given "parameters"))
  | .databaseStatus => do return .database zone (.status (← decodeField given "id"))
  | .createVpcRouter => do return .vpcRouter zone (.create (← decodeField given "request"))
  | .readVpcRouter => do return .vpcRouter zone (.read (← decodeField given "id"))
  | .updateVpcRouter => do
      return .vpcRouter zone (.update (← decodeField given "id") (← decodeField given "request"))
  | .deleteVpcRouter => do return .vpcRouter zone (.delete (← decodeField given "id"))
  | .bootVpcRouter => do return .vpcRouter zone (.boot (← decodeField given "id"))
  | .shutdownVpcRouter => do
      return .vpcRouter zone (.shutdown (← decodeField given "id") (← decodeField given "force"))
  | .connectVpcRouterToSwitch => do
      return .vpcRouter zone (.connectToSwitch (← decodeField given "id")
        (← decodeField given "index") (← decodeField given "switch_id"))
  | .configVpcRouter => do return .vpcRouter zone (.config (← decodeField given "id"))
  | .createMobileGateway => do return .mobileGateway zone (.create (← decodeField given "request"))
  | .readMobileGateway => do return .mobileGateway zone (.read (← decodeField given "id"))
  | .updateMobileGateway => do
      return .mobileGateway zone (.update (← decodeField given "id")
        (← decodeField given "request"))
  | .deleteMobileGateway => do return .mobileGateway zone (.delete (← decodeField given "id"))
  | .bootMobileGateway => do return .mobileGateway zone (.boot (← decodeField given "id"))
  | .shutdownMobileGateway => do
      return .mobileGateway zone (.shutdown (← decodeField given "id")
        (← decodeField given "force"))
  | .connectMobileGatewayToSwitch => do
      return .mobileGateway zone (.connectToSwitch (← decodeField given "id")
        (← decodeField given "switch_id"))
  | .configMobileGateway => do return .mobileGateway zone (.config (← decodeField given "id"))
  | .setMobileGatewayDns => do
      return .mobileGateway zone (.setDns (← decodeField given "id") (← decodeField given "dns"))
  | .addSim => do
      return .mobileGateway zone (.addSim (← decodeField given "id") (← decodeField given "sim_id"))
  | .setTrafficConfig => do
      return .mobileGateway zone (.setTrafficConfig (← decodeField given "id")
        (← decodeField given "config"))
  | .readSim => do return .sim (.read (← decodeField given "id"))
  | .assignSimIp => do
      return .sim (.assignIp (← decodeField given "id") (← decodeField given "ip_address"))
  | .createContainerRegistry => do
      return .containerRegistry (.create (← decodeField given "request"))
  | .readContainerRegistry => do return .containerRegistry (.read (← decodeField given "id"))
  | .updateContainerRegistry => do
      return .containerRegistry (.update (← decodeField given "id") (← decodeField given "request"))
  | .deleteContainerRegistry => do return .containerRegistry (.delete (← decodeField given "id"))
  | .addRegistryUser => do
      return .containerRegistry (.addUser (← decodeField given "id") (← decodeField given "user"))
  | .deleteRegistryUser => do
      return .containerRegistry (.deleteUser (← decodeField given "id")
        (← decodeField given "user_name"))
  | .createLocalRouter => do return .localRouter (.create (← decodeField given "request"))
  | .readLocalRouter => do return .localRouter (.read (← decodeField given "id"))
  | .updateLocalRouterSettings => do
      return .localRouter (.updateSettings (← decodeField given "id")
        (← decodeField given "settings") (← decodeField given "settings_hash"))
  | .deleteLocalRouter => do return .localRouter (.delete (← decodeField given "id"))

end Provisioning
