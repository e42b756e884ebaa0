import Provisioning.Model.Status

/-!
Servers with their network interfaces and plans, and the things that a server is connected to.
-/

namespace Provisioning

/-- The interfaces of a server are virtual or emulated. -/
inductive InterfaceDriver where
  | virtio
  | e1000
  deriving DecidableEq, Repr, Inhabited

def InterfaceDriver.name : InterfaceDriver → String
  | virtio => "virtio"
  | e1000 => "e1000"

instance : JsonForm InterfaceDriver := .ofNames InterfaceDriver.name [.virtio, .e1000]

/-- The processors of a plan are shared or dedicated. -/
inductive Commitment where
  | standard
  | dedicatedCpu
  deriving DecidableEq, Repr, Inhabited

def Commitment.name : Commitment → String
  | standard => "standard"
  | dedicatedCpu => "dedicatedcpu"

instance : JsonForm Commitment := .ofNames Commitment.name [.standard, .dedicatedCpu]

/-- A plan belongs to a hardware generation, and a query may leave the generation open. -/
inductive PlanGeneration where
  | any
  | g100
  | g200
  deriving DecidableEq, Repr, Inhabited

def PlanGeneration.name : PlanGeneration → String
  | any => "Default"
  | g100 => "G100"
  | g200 => "G200"

instance : JsonForm PlanGeneration := .ofNames PlanGeneration.name [.any, .g100, .g200]

/-- An interface is plugged into the shared segment, into a switch, or into nothing. -/
inductive SwitchConnection where
  | disconnected
  | shared
  | switch (id : ResourceId)
  deriving DecidableEq, Repr, Inhabited

/-- A plug without a switch is written as its name. -/
abbrev SwitchConnection.plainForm : JsonForm SwitchConnection :=
  .ofNames (fun plug => if plug = .shared then "Shared" else "Disconnected")
    [.shared, .disconnected]

instance : JsonForm SwitchConnection where
  encode
    | .switch id => .obj [("Switch", encode id)]
    | plug => SwitchConnection.plainForm.encode plug
  decode
    | .obj [("Switch", document)] => (decode document).map .switch
    | document => SwitchConnection.plainForm.decode document

/-- An interface of a server has an uplink, a packet filter and a displayed address. -/
structure Interface where
  id : ResourceId
  uplink : SwitchConnection
  packetFilterId : ResourceId
  userIpAddress : Option Ipv4
  deriving DecidableEq, Repr, Inhabited

def Interface.fields : FieldList Interface Interface :=
  FieldList.start Interface.mk
  |>.field "id" Interface.id
  |>.field "upstream" Interface.uplink
  |>.field "packet_filter_id" Interface.packetFilterId
  |>.field "user_ip_address" Interface.userIpAddress

instance : JsonForm Interface := .ofFields Interface.fields

/-- A server lists its interfaces and its disks in the order of their connection. -/
structure Server where
  id : ResourceId
  name : String
  description : String
  tags : List Tag
  iconId : ResourceId
  availability : Availability
  instanceStatus : RunStatus
  planId : ResourceId
  cpu : UInt32
  memoryGb : UInt32
  interfaces : List Interface
  diskIds : List ResourceId
  cdromId : ResourceId
  deriving DecidableEq, Repr, Inhabited

def Server.fields : FieldList Server Server :=
  FieldList.start Server.mk
  |>.field "id" Server.id
  |>.field "name" Server.name
  |>.field "description" Server.description
  |>.field "tags" Server.tags
  |>.field "icon_id" Server.iconId
  |>.field "availability" Server.availability
  |>.field "instance_status" Server.instanceStatus
  |>.field "plan_id" Server.planId
  |>.field "cpu" Server.cpu
  |>.field "memory_gb" Server.memoryGb
  |>.field "interfaces" Server.interfaces
  |>.field "disk_ids" Server.diskIds
  |>.field "cdrom_id" Server.cdromId

instance : JsonForm Server := .ofFields Server.fields

instance : Lifecycle Server where
  availability := Server.availability
  runStatus server := some server.instanceStatus

/-- A new server declares the uplink of each of its interfaces. -/
structure ServerCreateRequest where
  name : String
  description : String
  tags : List Tag
  iconId : ResourceId
  planId : ResourceId
  connectedSwitches : List SwitchConnection
  interfaceDriver : InterfaceDriver
  privateHostId : ResourceId
  deriving DecidableEq, Repr, Inhabited

def ServerCreateRequest.fields : FieldList ServerCreateRequest ServerCreateRequest :=
  FieldList.start ServerCreateRequest.mk
  |>.field "name" ServerCreateRequest.name
  |>.field "description" ServerCreateRequest.description
  |>.field "tags" ServerCreateRequest.tags
  |>.field "icon_id" ServerCreateRequest.iconId
  |>.field "plan_id" ServerCreateRequest.planId
  |>.field "connected_switches" ServerCreateRequest.connectedSwitches
  |>.field "interface_driver" ServerCreateRequest.interfaceDriver
  |>.field "private_host_id" ServerCreateRequest.privateHostId

instance : JsonForm ServerCreateRequest := .ofFields ServerCreateRequest.fields

structure ServerUpdateRequest where
  name : String
  description : String
  tags : List Tag
  iconId : ResourceId
  deriving DecidableEq, Repr, Inhabited

def ServerUpdateRequest.fields : FieldList ServerUpdateRequest ServerUpdateRequest :=
  FieldList.start ServerUpdateRequest.mk
  |>.field "name" ServerUpdateRequest.name
  |>.field "description" ServerUpdateRequest.description
  |>.field "tags" ServerUpdateRequest.tags
  |>.field "icon_id" ServerUpdateRequest.iconId

instance : JsonForm ServerUpdateRequest := .ofFields ServerUpdateRequest.fields

structure InterfaceUpdateRequest where
  userIpAddress : Option Ipv4
  deriving DecidableEq, Repr, Inhabited

def InterfaceUpdateRequest.fields : FieldList InterfaceUpdateRequest InterfaceUpdateRequest :=
  FieldList.start InterfaceUpdateRequest.mk
  |>.field "user_ip_address" InterfaceUpdateRequest.userIpAddress

instance : JsonForm InterfaceUpdateRequest := .ofFields InterfaceUpdateRequest.fields

/-- A plan has a shape and can be ordered or not. -/
structure ServerPlan where
  id : ResourceId
  cpu : UInt32
  memoryGb : UInt32
  gpu : UInt32
  commitment : Commitment
  generation : PlanGeneration
  availability : Availability
  deriving DecidableEq, Repr, Inhabited

def ServerPlan.fields : FieldList ServerPlan ServerPlan :=
  FieldList.start ServerPlan.mk
  |>.field "id" ServerPlan.id
  |>.field "cpu" ServerPlan.cpu
  |>.field "memory_gb" ServerPlan.memoryGb
  |>.field "gpu" ServerPlan.gpu
  |>.field "commitment" ServerPlan.commitment
  |>.field "generation" ServerPlan.generation
  |>.field "availability" ServerPlan.availability

instance : JsonForm ServerPlan := .ofFields ServerPlan.fields

/-- A query asks for a plan of one shape. -/
structure ServerPlanQuery where
  cpu : UInt32
  memoryGb : UInt32
  gpu : UInt32
  commitment : Commitment
  generation : PlanGeneration
  deriving DecidableEq, Repr, Inhabited

def ServerPlanQuery.fields : FieldList ServerPlanQuery ServerPlanQuery :=
  FieldList.start ServerPlanQuery.mk
  |>.field "cpu" ServerPlanQuery.cpu
  |>.field "memory_gb" ServerPlanQuery.memoryGb
  |>.field "gpu" ServerPlanQuery.gpu
  |>.field "commitment" ServerPlanQuery.commitment
  |>.field "generation" ServerPlanQuery.generation

instance : JsonForm ServerPlanQuery := .ofFields ServerPlanQuery.fields

/-- A plan answers a query when it has the shape, is of the generation, and can be ordered. -/
def ServerPlanQuery.isAnsweredBy (query : ServerPlanQuery) (plan : ServerPlan) : Bool :=
  plan.cpu == query.cpu && plan.memoryGb == query.memoryGb && plan.gpu == query.gpu
    && plan.commitment == query.commitment
    && (query.generation == .any || plan.generation == query.generation)
    && plan.availability == .available

structure Switch where
  id : ResourceId
  name : String
  deriving DecidableEq, Repr, Inhabited

def Switch.fields : FieldList Switch Switch :=
  FieldList.start Switch.mk
  |>.field "id" Switch.id
  |>.field "name" Switch.name

instance : JsonForm Switch := .ofFields Switch.fields

structure PacketFilter where
  id : ResourceId
  name : String
  deriving DecidableEq, Repr, Inhabited

def PacketFilter.fields : FieldList PacketFilter PacketFilter :=
  FieldList.start PacketFilter.mk
  |>.field "id" PacketFilter.id
  |>.field "name" PacketFilter.name

instance : JsonForm PacketFilter := .ofFields PacketFilter.fields

/-- An optical disc image can be inserted into a server. -/
structure Cdrom where
  id : ResourceId
  name : String
  deriving DecidableEq, Repr, Inhabited

def Cdrom.fields : FieldList Cdrom Cdrom :=
  FieldList.start Cdrom.mk
  |>.field "id" Cdrom.id
  |>.field "name" Cdrom.name

instance : JsonForm Cdrom := .ofFields Cdrom.fields

end Provisioning
