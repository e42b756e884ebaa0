import Provisioning.Remote.Request

/-!
The document forms of requests and answers: the arguments of a request by name, and the form and the
blank value of its answer.
-/

namespace Provisioning

/-- An answer can be written and read, and there is a blank one that says nothing. -/
structure AnswerForm (α : Type) where
  encode : α → Json
  decode : Json → Option α
  blank : α

def AnswerForm.of (α : Type) [JsonForm α] [Inhabited α] : AnswerForm α :=
  ⟨JsonForm.encode, JsonForm.decode, default⟩

def DiskCall.arguments : DiskCall → List (String × Json)
  | .create request distantFrom =>
      [("request", encode request),
        ("distant_from", encode distantFrom)]
  | .createWithConfig request edit bootAtAvailable distantFrom =>
      [("request", encode request),
        ("edit", encode edit),
        ("boot_at_available", encode bootAtAvailable),
        ("distant_from", encode distantFrom)]
  | .read id => [("id", encode id)]
  | .update id request => [("id", encode id), ("request", encode request)]
  | .delete id => [("id", encode id)]
  | .connectToServer id serverId => [("id", encode id), ("server_id", encode serverId)]
  | .config id edit => [("id", encode id), ("edit", encode edit)]

def DiskCall.answerForm : (call : DiskCall) → AnswerForm call.Answer
  | .create .. => .of Disk
  | .createWithConfig .. => .of Disk
  | .read .. => .of Disk
  | .update .. => .of Disk
  | .delete .. => .of Unit
  | .connectToServer .. => .of Unit
  | .config .. => .of Unit

def CatalogueCall.arguments : CatalogueCall → List (String × Json)
  | .readArchive id => [("id", encode id)]
  | .findArchives condition => [("condition", encode condition)]
  | .readDiskPlan id => [("id", encode id)]
  | .findServerPlans => []
  | .readSwitch id => [("id", encode id)]
  | .readPacketFilter id => [("id", encode id)]
  | .readCdrom id => [("id", encode id)]

def CatalogueCall.answerForm : (call : CatalogueCall) → AnswerForm call.Answer
  | .readArchive .. => .of Archive
  | .findArchives .. => .of (List Archive)
  | .readDiskPlan .. => .of DiskPlan
  | .findServerPlans => .of (List ServerPlan)
  | .readSwitch .. => .of Switch
  | .readPacketFilter .. => .of PacketFilter
  | .readCdrom .. => .of Cdrom

def CredentialCall.arguments : CredentialCall → List (String × Json)
  | .generateSshKey request => [("request", encode request)]
  | .readSshKey id => [("id", encode id)]
  | .deleteSshKey id => [("id", encode id)]
  | .createNote request => [("request", encode request)]
  | .readNote id => [("id", encode id)]
  | .deleteNote id => [("id", encode id)]

def CredentialCall.answerForm : (call : CredentialCall) → AnswerForm call.Answer
  | .generateSshKey .. => .of GeneratedSshKey
  | .readSshKey .. => .of SshKey
  | .deleteSshKey .. => .of Unit
  | .createNote .. => .of Note
  | .readNote .. => .of Note
  | .deleteNote .. => .of Unit

def ServerCall.arguments : ServerCall → List (String × Json)
  | .create request => [("request", encode request)]
  | .read id => [("id", encode id)]
  | .update id request => [("id", encode id), ("request", encode request)]
  | .delete id => [("id", encode id)]
  | .boot id => [("id", encode id)]
  | .shutdown id force => [("id", encode id), ("force", encode force)]
  | .changePlan id planId => [("id", encode id), ("plan_id", encode planId)]
  | .insertCdrom id cdromId => [("id", encode id), ("cdrom_id", encode cdromId)]
  | .ejectCdrom id cdromId => [("id", encode id), ("cdrom_id", encode cdromId)]
  | .connectToPacketFilter interfaceId packetFilterId =>
      [("interface_id", encode interfaceId),
        ("packet_filter_id", encode packetFilterId)]
  | .updateInterface interfaceId request =>
      [("interface_id", encode interfaceId),
        ("request", encode request)]

def ServerCall.answerForm : (call : ServerCall) → AnswerForm call.Answer
  | .create .. => .of Server
  | .read .. => .of Server
  | .update .. => .of Server
  | .delete .. => .of Unit
  | .boot .. => .of Unit
  | .shutdown .. => .of Unit
  | .changePlan .. => .of Server
  | .insertCdrom .. => .of Unit
  | .ejectCdrom .. => .of Unit
  | .connectToPacketFilter .. => .of Unit
  | .updateInterface .. => .of Unit

def DatabaseCall.arguments : DatabaseCall → List (String × Json)
  | .create request => [("request", encode request)]
  | .read id => [("id", encode id)]
  | .update id request => [("id", encode id), ("request", encode request)]
  | .delete id => [("id", encode id)]
  | .boot id => [("id", encode id)]
  | .shutdown id force => [("id", encode id), ("force", encode force)]
  | .config id => [("id", encode id)]
  | .setParameters id parameters => [("id", encode id), ("parameters", encode parameters)]
  | .status id => [("id", encode id)]

def DatabaseCall.answerForm : (call : DatabaseCall) → AnswerForm call.Answer
  | .create .. => .of Database
  | .read .. => .of Database
  | .update .. => .of Database
  | .delete .. => .of Unit
  | .boot .. => .of Unit
  | .shutdown .. => .of Unit
  | .config .. => .of Unit
  | .setParameters .. => .of Unit
  | .status .. => .of DatabaseStatus

def VpcRouterCall.arguments : VpcRouterCall → List (String × Json)
  | .create request => [("request", encode request)]
  | .read id => [("id", encode id)]
  | .update id request => [("id", encode id), ("request", encode request)]
  | .delete id => [("id", encode id)]
  | .boot id => [("id", encode id)]
  | .shutdown id force => [("id", encode id), ("force", encode force)]
  | .connectToSwitch id index switchId =>
      [("id", encode id),
        ("index", encode index),
        ("switch_id", encode switchId)]
  | .config id => [("id", encode id)]

def VpcRouterCall.answerForm : (call : VpcRouterCall) → AnswerForm call.Answer
  | .create .. => .of VpcRouter
  | .read .. => .of VpcRouter
  | .update .. => .of VpcRouter
  | .delete .. => .of Unit
  | .boot .. => .of Unit
  | .shutdown .. => .of Unit
  | .connectToSwitch .. => .of Unit
  | .config .. => .of Unit

def MobileGatewayCall.arguments : MobileGatewayCall → List (String × Json)
  | .create request => [("request", encode request)]
  | .read id => [("id", encode id)]
  | .update id request => [("id", encode id), ("request", encode request)]
  | .delete id => [("id", encode id)]
  | .boot id => [("id", encode id)]
  | .shutdown id force => [("id", encode id), ("force", encode force)]
  | .connectToSwitch id switchId => [("id", encode id), ("switch_id", encode switchId)]
  | .config id => [("id", encode id)]
  | .setDns id dns => [("id", encode id), ("dns", encode dns)]
  | .addSim id simId => [("id", encode id), ("sim_id", encode simId)]
  | .setTrafficConfig id traffic => [("id", encode id), ("config", encode traffic)]

def MobileGatewayCall.answerForm : (call : MobileGatewayCall) → AnswerForm call.Answer
  | .create .. => .of MobileGateway
  | .read .. => .of MobileGateway
  | .update .. => .of MobileGateway
  | .delete .. => .of Unit
  | .boot .. => .of Unit
  | .shutdown .. => .of Unit
  | .connectToSwitch .. => .of Unit
  | .config .. => .of Unit
  | .setDns .. => .of Unit
  | .addSim .. => .of Unit
  | .setTrafficConfig .. => .of Unit

def SimCall.arguments : SimCall → List (String × Json)
  | .read id => [("id", encode id)]
  | .assignIp id ipAddress => [("id", encode id), ("ip_address", encode ipAddress)]

def SimCall.answerForm : (call : SimCall) → AnswerForm call.Answer
  | .read .. => .of Sim
  | .assignIp .. => .of Unit

def ContainerRegistryCall.arguments : ContainerRegistryCall → List (String × Json)
  | .create request => [("request", encode request)]
  | .read id => [("id", encode id)]
  | .update id request => [("id", encode id), ("request", encode request)]
  | .delete id => [("id", encode id)]
  | .addUser id user => [("id", encode id), ("user", encode user)]
  | .deleteUser id userName => [("id", encode id), ("user_name", encode userName)]

def ContainerRegistryCall.answerForm : (call : ContainerRegistryCall) → AnswerForm call.Answer
  | .create .. => .of ContainerRegistry
  | .read .. => .of ContainerRegistry
  | .update .. => .of ContainerRegistry
  | .delete .. => .of Unit
  | .addUser .. => .of Unit
  | .deleteUser .. => .of Unit

def LocalRouterCall.arguments : LocalRouterCall → List (String × Json)
  | .create request => [("request", encode request)]
  | .read id => [("id", encode id)]
  | .updateSettings id settings settingsHash =>
      [("id", encode id),
        ("settings", encode settings),
        ("settings_hash", encode settingsHash)]
  | .delete id => [("id", encode id)]

def LocalRouterCall.answerForm : (call : LocalRouterCall) → AnswerForm call.Answer
  | .create .. => .of LocalRouter
  | .read .. => .of LocalRouter
  | .updateSettings .. => .of LocalRouter
  | .delete .. => .of Unit

/-- The zone of a zonal request is its first argument. -/
def Request.arguments : Request → List (String × Json)
  | .disk zone call => ("zone", encode zone) :: call.arguments
  | .catalogue zone call => ("zone", encode zone) :: call.arguments
  | .credential call => call.arguments
  | .server zone call => ("zone", encode zone) :: call.arguments
  | .database zone call => ("zone", encode zone) :: call.arguments
  | .vpcRouter zone call => ("zone", encode zone) :: call.arguments
  | .mobileGateway zone call => ("zone", encode zone) :: call.arguments
  | .sim call => call.arguments
  | .containerRegistry call => call.arguments
  | .localRouter call => call.arguments

def Request.answerForm : (request : Request) → AnswerForm request.Answer
  | .disk _ call => call.answerForm
  | .catalogue _ call => call.answerForm
  | .credential call => call.answerForm
  | .server _ call => call.answerForm
  | .database _ call => call.answerForm
  | .vpcRouter _ call => call.answerForm
  | .mobileGateway _ call => call.answerForm
  | .sim call => call.answerForm
  | .containerRegistry call => call.answerForm
  | .localRouter call => call.answerForm

end Provisioning
