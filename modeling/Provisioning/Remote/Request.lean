import Provisioning.Model.ContainerRegistry
import Provisioning.Model.Credential
import Provisioning.Model.Database
import Provisioning.Model.Disk
import Provisioning.Model.LocalRouter
import Provisioning.Model.MobileGateway
import Provisioning.Model.VpcRouter
import Provisioning.Program
import Provisioning.Remote.Endpoint

/-!
The requests that a cloud understands, family by family, with the type of each answer. A request of
a zonal family names its zone.
-/

namespace Provisioning

/-- These calls are about disks. -/
inductive DiskCall where
  | create (request : DiskCreateRequest) (distantFrom : List ResourceId)
  | createWithConfig (request : DiskCreateRequest) (edit : DiskEditRequest)
      (bootAtAvailable : Bool) (distantFrom : List ResourceId)
  | read (id : ResourceId)
  | update (id : ResourceId) (request : DiskUpdateRequest)
  | delete (id : ResourceId)
  | connectToServer (id : ResourceId) (serverId : ResourceId)
  | config (id : ResourceId) (edit : DiskEditRequest)

abbrev DiskCall.Answer : DiskCall → Type
  | .create .. => Disk
  | .createWithConfig .. => Disk
  | .read .. => Disk
  | .update .. => Disk
  | .delete .. => Unit
  | .connectToServer .. => Unit
  | .config .. => Unit

def DiskCall.endpoint : DiskCall → Endpoint
  | .create .. => .createDisk
  | .createWithConfig .. => .createDiskWithConfig
  | .read .. => .readDisk
  | .update .. => .updateDisk
  | .delete .. => .deleteDisk
  | .connectToServer .. => .connectDiskToServer
  | .config .. => .configDisk

/-- These calls look up what a zone has on offer. -/
inductive CatalogueCall where
  | readArchive (id : ResourceId)
  | findArchives (condition : FindCondition)
  | readDiskPlan (id : ResourceId)
  | findServerPlans
  | readSwitch (id : ResourceId)
  | readPacketFilter (id : ResourceId)
  | readCdrom (id : ResourceId)

abbrev CatalogueCall.Answer : CatalogueCall → Type
  | .readArchive .. => Archive
  | .findArchives .. => List Archive
  | .readDiskPlan .. => DiskPlan
  | .findServerPlans => List ServerPlan
  | .readSwitch .. => Switch
  | .readPacketFilter .. => PacketFilter
  | .readCdrom .. => Cdrom

def CatalogueCall.endpoint : CatalogueCall → Endpoint
  | .readArchive .. => .readArchive
  | .findArchives .. => .findArchives
  | .readDiskPlan .. => .readDiskPlan
  | .findServerPlans => .findServerPlans
  | .readSwitch .. => .readSwitch
  | .readPacketFilter .. => .readPacketFilter
  | .readCdrom .. => .readCdrom

/-- These calls are about keys and notes. -/
inductive CredentialCall where
  | generateSshKey (request : SshKeyGenerateRequest)
  | readSshKey (id : ResourceId)
  | deleteSshKey (id : ResourceId)
  | createNote (request : NoteCreateRequest)
  | readNote (id : ResourceId)
  | deleteNote (id : ResourceId)

abbrev CredentialCall.Answer : CredentialCall → Type
  | .generateSshKey .. => GeneratedSshKey
  | .readSshKey .. => SshKey
  | .deleteSshKey .. => Unit
  | .createNote .. => Note
  | .readNote .. => Note
  | .deleteNote .. => Unit

def CredentialCall.endpoint : CredentialCall → Endpoint
  | .generateSshKey .. => .generateSshKey
  | .readSshKey .. => .readSshKey
  | .deleteSshKey .. => .deleteSshKey
  | .createNote .. => .createNote
  | .readNote .. => .readNote
  | .deleteNote .. => .deleteNote

/-- These calls are about servers and their interfaces. -/
inductive ServerCall where
  | create (request : ServerCreateRequest)
  | read (id : ResourceId)
  | update (id : ResourceId) (request : ServerUpdateRequest)
  | delete (id : ResourceId)
  | boot (id : ResourceId)
  | shutdown (id : ResourceId) (force : Bool)
  | changePlan (id : ResourceId) (planId : ResourceId)
  | insertCdrom (id : ResourceId) (cdromId : ResourceId)
  | ejectCdrom (id : ResourceId) (cdromId : ResourceId)
  | connectToPacketFilter (interfaceId : ResourceId) (packetFilterId : ResourceId)
  | updateInterface (interfaceId : ResourceId) (request : InterfaceUpdateRequest)

abbrev ServerCall.Answer : ServerCall → Type
  | .create .. => Server
  | .read .. => Server
  | .update .. => Server
  | .delete .. => Unit
  | .boot .. => Unit
  | .shutdown .. => Unit
  | .changePlan .. => Server
  | .insertCdrom .. => Unit
  | .ejectCdrom .. => Unit
  | .connectToPacketFilter .. => Unit
  | .updateInterface .. => Unit

def ServerCall.endpoint : ServerCall → Endpoint
  | .create .. => .createServer
  | .read .. => .readServer
  | .update .. => .updateServer
  | .delete .. => .deleteServer
  | .boot .. => .bootServer
  | .shutdown .. => .shutdownServer
  | .changePlan .. => .changeServerPlan
  | .insertCdrom .. => .insertCdrom
  | .ejectCdrom .. => .ejectCdrom
  | .connectToPacketFilter .. => .connectToPacketFilter
  | .updateInterface .. => .updateInterface

/-- These calls are about database appliances. -/
inductive DatabaseCall where
  | create (request : DatabaseCreateRequest)
  | read (id : ResourceId)
  | update (id : ResourceId) (request : DatabaseUpdateRequest)
  | delete (id : ResourceId)
  | boot (id : ResourceId)
  | shutdown (id : ResourceId) (force : Bool)
  | config (id : ResourceId)
  | setParameters (id : ResourceId) (parameters : SortedMap String Json)
  | status (id : ResourceId)

abbrev DatabaseCall.Answer : DatabaseCall → Type
  | .create .. => Database
  | .read .. => Database
  | .update .. => Database
  | .delete .. => Unit
  | .boot .. => Unit
  | .shutdown .. => Unit
  | .config .. => Unit
  | .setParameters .. => Unit
  | .status .. => DatabaseStatus

def DatabaseCall.endpoint : DatabaseCall → Endpoint
  | .create .. => .createDatabase
  | .read .. => .readDatabase
  | .update .. => .updateDatabase
  | .delete .. => .deleteDatabase
  | .boot .. => .bootDatabase
  | .shutdown .. => .shutdownDatabase
  | .config .. => .configDatabase
  | .setParameters .. => .setDatabaseParameters
  | .status .. => .databaseStatus

/-- These calls are about routers of a private cloud. -/
inductive VpcRouterCall where
  | create (request : VpcRouterCreateRequest)
  | read (id : ResourceId)
  | update (id : ResourceId) (request : VpcRouterUpdateRequest)
  | delete (id : ResourceId)
  | boot (id : ResourceId)
  | shutdown (id : ResourceId) (force : Bool)
  | connectToSwitch (id : ResourceId) (index : UInt8) (switchId : ResourceId)
  | config (id : ResourceId)

abbrev VpcRouterCall.Answer : VpcRouterCall → Type
  | .create .. => VpcRouter
  | .read .. => VpcRouter
  | .update .. => VpcRouter
  | .delete .. => Unit
  | .boot .. => Unit
  | .shutdown .. => Unit
  | .connectToSwitch .. => Unit
  | .config .. => Unit

def VpcRouterCall.endpoint : VpcRouterCall → Endpoint
  | .create .. => .createVpcRouter
  | .read .. => .readVpcRouter
  | .update .. => .updateVpcRouter
  | .delete .. => .deleteVpcRouter
  | .boot .. => .bootVpcRouter
  | .shutdown .. => .shutdownVpcRouter
  | .connectToSwitch .. => .connectVpcRouterToSwitch
  | .config .. => .configVpcRouter

/-- These calls are about mobile gateways. -/
inductive MobileGatewayCall where
  | create (request : MobileGatewayCreateRequest)
  | read (id : ResourceId)
  | update (id : ResourceId) (request : MobileGatewayUpdateRequest)
  | delete (id : ResourceId)
  | boot (id : ResourceId)
  | shutdown (id : ResourceId) (force : Bool)
  | connectToSwitch (id : ResourceId) (switchId : ResourceId)
  | config (id : ResourceId)
  | setDns (id : ResourceId) (dns : MobileGatewayDns)
  | addSim (id : ResourceId) (simId : ResourceId)
  | setTrafficConfig (id : ResourceId) (traffic : TrafficConfig)

abbrev MobileGatewayCall.Answer : MobileGatewayCall → Type
  | .create .. => MobileGateway
  | .read .. => MobileGateway
  | .update .. => MobileGateway
  | .delete .. => Unit
  | .boot .. => Unit
  | .shutdown .. => Unit
  | .connectToSwitch .. => Unit
  | .config .. => Unit
  | .setDns .. => Unit
  | .addSim .. => Unit
  | .setTrafficConfig .. => Unit

def MobileGatewayCall.endpoint : MobileGatewayCall → Endpoint
  | .create .. => .createMobileGateway
  | .read .. => .readMobileGateway
  | .update .. => .updateMobileGateway
  | .delete .. => .deleteMobileGateway
  | .boot .. => .bootMobileGateway
  | .shutdown .. => .shutdownMobileGateway
  | .connectToSwitch .. => .connectMobileGatewayToSwitch
  | .config .. => .configMobileGateway
  | .setDns .. => .setMobileGatewayDns
  | .addSim .. => .addSim
  | .setTrafficConfig .. => .setTrafficConfig

/-- These calls are about cards. -/
inductive SimCall where
  | read (id : ResourceId)
  | assignIp (id : ResourceId) (ipAddress : Ipv4)

abbrev SimCall.Answer : SimCall → Type
  | .read .. => Sim
  | .assignIp .. => Unit

def SimCall.endpoint : SimCall → Endpoint
  | .read .. => .readSim
  | .assignIp .. => .assignSimIp

/-- These calls are about container registries and their users. -/
inductive ContainerRegistryCall where
  | create (request : ContainerRegistryCreateRequest)
  | read (id : ResourceId)
  | update (id : ResourceId) (request : ContainerRegistryUpdateRequest)
  | delete (id : ResourceId)
  | addUser (id : ResourceId) (user : RegistryUser)
  | deleteUser (id : ResourceId) (userName : String)

abbrev ContainerRegistryCall.Answer : ContainerRegistryCall → Type
  | .create .. => ContainerRegistry
  | .read .. => ContainerRegistry
  | .update .. => ContainerRegistry
  | .delete .. => Unit
  | .addUser .. => Unit
  | .deleteUser .. => Unit

def ContainerRegistryCall.endpoint : ContainerRegistryCall → Endpoint
  | .create .. => .createContainerRegistry
  | .read .. => .readContainerRegistry
  | .update .. => .updateContainerRegistry
  | .delete .. => .deleteContainerRegistry
  | .addUser .. => .addRegistryUser
  | .deleteUser .. => .deleteRegistryUser

/-- These calls are about local routers. -/
inductive LocalRouterCall where
  | create (request : LocalRouterCreateRequest)
  | read (id : ResourceId)
  | updateSettings (id : ResourceId) (settings : LocalRouterSettings) (settingsHash : String)
  | delete (id : ResourceId)

abbrev LocalRouterCall.Answer : LocalRouterCall → Type
  | .create .. => LocalRouter
  | .read .. => LocalRouter
  | .updateSettings .. => LocalRouter
  | .delete .. => Unit

def LocalRouterCall.endpoint : LocalRouterCall → Endpoint
  | .create .. => .createLocalRouter
  | .read .. => .readLocalRouter
  | .updateSettings .. => .updateLocalRouterSettings
  | .delete .. => .deleteLocalRouter

/-- A request belongs to one of the families. -/
inductive Request where
  | disk (zone : Zone) (call : DiskCall)
  | catalogue (zone : Zone) (call : CatalogueCall)
  | credential (call : CredentialCall)
  | server (zone : Zone) (call : ServerCall)
  | database (zone : Zone) (call : DatabaseCall)
  | vpcRouter (zone : Zone) (call : VpcRouterCall)
  | mobileGateway (zone : Zone) (call : MobileGatewayCall)
  | sim (call : SimCall)
  | containerRegistry (call : ContainerRegistryCall)
  | localRouter (call : LocalRouterCall)

abbrev Request.Answer : Request → Type
  | .disk _ call => call.Answer
  | .catalogue _ call => call.Answer
  | .credential call => call.Answer
  | .server _ call => call.Answer
  | .database _ call => call.Answer
  | .vpcRouter _ call => call.Answer
  | .mobileGateway _ call => call.Answer
  | .sim call => call.Answer
  | .containerRegistry call => call.Answer
  | .localRouter call => call.Answer

def Request.endpoint : Request → Endpoint
  | .disk _ call => call.endpoint
  | .catalogue _ call => call.endpoint
  | .credential call => call.endpoint
  | .server _ call => call.endpoint
  | .database _ call => call.endpoint
  | .vpcRouter _ call => call.endpoint
  | .mobileGateway _ call => call.endpoint
  | .sim call => call.endpoint
  | .containerRegistry call => call.endpoint
  | .localRouter call => call.endpoint

/-- A cloud answers every request with a value of its answer type. -/
abbrev CloudService : Signature := ⟨Request, Request.Answer⟩

end Provisioning
