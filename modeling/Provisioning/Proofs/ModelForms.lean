import Provisioning.Proofs.RecordForm
import Provisioning.Model.ContainerRegistry
import Provisioning.Model.Credential
import Provisioning.Model.Database
import Provisioning.Model.Disk
import Provisioning.Model.LocalRouter
import Provisioning.Model.MobileGateway
import Provisioning.Model.Server
import Provisioning.Model.VpcRouter

/-!
The forms of the model. Every record, request and choice of the model has a lawful form. The main
statement says that writing and reading are inverse to each other, and what becomes of a document
that is read and written again.
-/

namespace Provisioning

instance : LawfulForm Availability :=
  .ofNames Availability.name Availability.all fun choice => by cases choice <;> rfl

instance : LawfulForm RunStatus :=
  .ofNames RunStatus.name RunStatus.all fun choice => by cases choice <;> rfl

-- Instance search does not unfold definitions, so each field list is unfolded for it.
instance : LawfulForm FindCondition :=
  .ofFields { lawful := by delta FindCondition.fields; infer_instance }

instance : LawfulForm DiskConnection :=
  .ofNames DiskConnection.name [.virtio, .ide] fun choice => by cases choice <;> rfl

instance : LawfulForm Disk := .ofFields { lawful := by delta Disk.fields; infer_instance }

instance : LawfulForm BundleInfo :=
  .ofFields { lawful := by delta BundleInfo.fields; infer_instance }

instance : WithoutNull BundleInfo := ⟨fun _ => nofun⟩

instance : LawfulForm Archive := .ofFields { lawful := by delta Archive.fields; infer_instance }

instance : LawfulForm DiskPlanSize :=
  .ofFields { lawful := by delta DiskPlanSize.fields; infer_instance }

instance : LawfulForm DiskPlan := .ofFields { lawful := by delta DiskPlan.fields; infer_instance }

instance : LawfulForm DiskCreateRequest :=
  .ofFields { lawful := by delta DiskCreateRequest.fields; infer_instance }

instance : LawfulForm EditUserSubnet :=
  .ofFields { lawful := by delta EditUserSubnet.fields; infer_instance }

instance : WithoutNull EditUserSubnet := ⟨fun _ => nofun⟩

instance : LawfulForm DiskEditNote :=
  .ofFields { lawful := by delta DiskEditNote.fields; infer_instance }

instance : LawfulForm DiskEditRequest :=
  .ofFields { lawful := by delta DiskEditRequest.fields; infer_instance }

instance : LawfulForm DiskUpdateRequest :=
  .ofFields { lawful := by delta DiskUpdateRequest.fields; infer_instance }

instance : LawfulForm InterfaceDriver :=
  .ofNames InterfaceDriver.name [.virtio, .e1000] fun choice => by cases choice <;> rfl

instance : LawfulForm Commitment :=
  .ofNames Commitment.name [.standard, .dedicatedCpu] fun choice => by cases choice <;> rfl

instance : LawfulForm PlanGeneration :=
  .ofNames PlanGeneration.name [.any, .g100, .g200] fun choice => by cases choice <;> rfl

namespace SwitchConnection

/-- A plug that is no switch is read as a name. -/
theorem decode_plain {document : Json} (untagged : ∀ inner, document ≠ .obj [("Switch", inner)]) :
    (decode document : Option SwitchConnection) = plainForm.decode document := by
  simp only [decode]

/-- A plug that is read from a name is not a switch, so it is written as its name. -/
theorem map_encode_plain (document : Json) :
    (plainForm.decode document).map encode = document.choice? ["Shared", "Disconnected"] := by
  have named : (plainForm.decode document).map plainForm.encode =
      document.choice? ["Shared", "Disconnected"] :=
    LawfulForm.map_encode_ofNames [shared, disconnected] document
  rw [← named]
  cases read : plainForm.decode document with
  | none => rfl
  | some plug =>
      have plain : plug ∈ [shared, disconnected] := LawfulForm.mem_of_ofNames read
      rcases List.mem_cons.mp plain with rfl | last
      · rfl
      · cases List.mem_singleton.mp last
        rfl

instance : LawfulForm SwitchConnection where
  schema := .tagged ["Shared", "Disconnected"] "Switch" (LawfulForm.schema ResourceId)
  decode_encode plug := by
    cases plug with
    | disconnected => rfl
    | shared => rfl
    | switch id => exact congrArg (Option.map switch) (LawfulForm.decode_encode id)
  map_encode document := by
    by_cases tagged : ∃ inner, document = .obj [("Switch", inner)]
    · obtain ⟨inner, rfl⟩ := tagged
      change ((decode inner).map switch).map encode =
        ((LawfulForm.schema ResourceId).fullForm? inner).map fun full => .obj [("Switch", full)]
      rw [← LawfulForm.map_encode, Option.map_map, Option.map_map]
      rfl
    · have untagged := not_exists.mp tagged
      rw [decode_plain untagged, map_encode_plain, Schema.fullForm?_tagged untagged]
  missing := rfl

end SwitchConnection

instance : LawfulForm Interface := .ofFields { lawful := by delta Interface.fields; infer_instance }

instance : LawfulForm Server := .ofFields { lawful := by delta Server.fields; infer_instance }

instance : LawfulForm ServerCreateRequest :=
  .ofFields { lawful := by delta ServerCreateRequest.fields; infer_instance }

instance : LawfulForm ServerUpdateRequest :=
  .ofFields { lawful := by delta ServerUpdateRequest.fields; infer_instance }

instance : LawfulForm InterfaceUpdateRequest :=
  .ofFields { lawful := by delta InterfaceUpdateRequest.fields; infer_instance }

instance : LawfulForm ServerPlan :=
  .ofFields { lawful := by delta ServerPlan.fields; infer_instance }

instance : LawfulForm ServerPlanQuery :=
  .ofFields { lawful := by delta ServerPlanQuery.fields; infer_instance }

instance : LawfulForm Switch := .ofFields { lawful := by delta Switch.fields; infer_instance }

instance : LawfulForm PacketFilter :=
  .ofFields { lawful := by delta PacketFilter.fields; infer_instance }

instance : LawfulForm Cdrom := .ofFields { lawful := by delta Cdrom.fields; infer_instance }

instance : LawfulForm DatabaseType :=
  .ofNames DatabaseType.name [.mariaDb, .postgreSql] fun choice => by cases choice <;> rfl

instance : LawfulForm DatabasePlan :=
  .ofNames DatabasePlan.name [.gb10, .gb30, .gb90, .gb240, .gb500, .tb1] fun choice => by
    cases choice <;> rfl

instance : LawfulForm DatabaseSettings :=
  .ofFields { lawful := by delta DatabaseSettings.fields; infer_instance }

instance : LawfulForm Database := .ofFields { lawful := by delta Database.fields; infer_instance }

instance : LawfulForm DatabaseCreateRequest :=
  .ofFields { lawful := by delta DatabaseCreateRequest.fields; infer_instance }

instance : LawfulForm DatabaseUpdateRequest :=
  .ofFields { lawful := by delta DatabaseUpdateRequest.fields; infer_instance }

instance : LawfulForm DatabaseStatus :=
  .ofFields { lawful := by delta DatabaseStatus.fields; infer_instance }

instance : LawfulForm VpcRouterPlan :=
  .ofNames VpcRouterPlan.name [.standard, .premium, .highSpec] fun choice => by cases choice <;> rfl

instance : LawfulForm VpcRouterInterface :=
  .ofFields { lawful := by delta VpcRouterInterface.fields; infer_instance }

instance : LawfulForm VpcRouterSettings :=
  .ofFields { lawful := by delta VpcRouterSettings.fields; infer_instance }

instance : LawfulForm VpcRouter := .ofFields { lawful := by delta VpcRouter.fields; infer_instance }

instance : LawfulForm VpcRouterCreateRequest :=
  .ofFields { lawful := by delta VpcRouterCreateRequest.fields; infer_instance }

instance : LawfulForm VpcRouterUpdateRequest :=
  .ofFields { lawful := by delta VpcRouterUpdateRequest.fields; infer_instance }

instance : LawfulForm MobileGatewayInterface :=
  .ofFields { lawful := by delta MobileGatewayInterface.fields; infer_instance }

instance : WithoutNull MobileGatewayInterface := ⟨fun _ => nofun⟩

instance : LawfulForm MobileGatewaySettings :=
  .ofFields { lawful := by delta MobileGatewaySettings.fields; infer_instance }

instance : LawfulForm MobileGatewayDns :=
  .ofFields { lawful := by delta MobileGatewayDns.fields; infer_instance }

instance : LawfulForm TrafficConfig :=
  .ofFields { lawful := by delta TrafficConfig.fields; infer_instance }

instance : LawfulForm MobileGateway :=
  .ofFields { lawful := by delta MobileGateway.fields; infer_instance }

instance : LawfulForm MobileGatewayCreateRequest :=
  .ofFields { lawful := by delta MobileGatewayCreateRequest.fields; infer_instance }

instance : LawfulForm MobileGatewayUpdateRequest :=
  .ofFields { lawful := by delta MobileGatewayUpdateRequest.fields; infer_instance }

instance : LawfulForm Sim := .ofFields { lawful := by delta Sim.fields; infer_instance }

instance : LawfulForm SshKey := .ofFields { lawful := by delta SshKey.fields; infer_instance }

instance : LawfulForm SshKeyGenerateRequest :=
  .ofFields { lawful := by delta SshKeyGenerateRequest.fields; infer_instance }

instance : LawfulForm GeneratedSshKey :=
  .ofFields { lawful := by delta GeneratedSshKey.fields; infer_instance }

instance : LawfulForm Note := .ofFields { lawful := by delta Note.fields; infer_instance }

instance : LawfulForm NoteCreateRequest :=
  .ofFields { lawful := by delta NoteCreateRequest.fields; infer_instance }

instance : LawfulForm AccessLevel :=
  .ofNames AccessLevel.name [.readWrite, .readOnly, .none] fun choice => by cases choice <;> rfl

instance : LawfulForm Permission :=
  .ofNames Permission.name [.all, .readWrite, .readOnly] fun choice => by cases choice <;> rfl

instance : LawfulForm RegistryUser :=
  .ofFields { lawful := by delta RegistryUser.fields; infer_instance }

instance : LawfulForm ContainerRegistry :=
  .ofFields { lawful := by delta ContainerRegistry.fields; infer_instance }

instance : LawfulForm ContainerRegistryCreateRequest :=
  .ofFields { lawful := by delta ContainerRegistryCreateRequest.fields; infer_instance }

instance : LawfulForm ContainerRegistryUpdateRequest :=
  .ofFields { lawful := by delta ContainerRegistryUpdateRequest.fields; infer_instance }

instance : LawfulForm LocalRouterSwitch :=
  .ofFields { lawful := by delta LocalRouterSwitch.fields; infer_instance }

instance : LawfulForm LocalRouterInterface :=
  .ofFields { lawful := by delta LocalRouterInterface.fields; infer_instance }

instance : WithoutNull LocalRouterInterface := ⟨fun _ => nofun⟩

instance : LawfulForm LocalRouterPeer :=
  .ofFields { lawful := by delta LocalRouterPeer.fields; infer_instance }

instance : LawfulForm LocalRouterStaticRoute :=
  .ofFields { lawful := by delta LocalRouterStaticRoute.fields; infer_instance }

instance : LawfulForm LocalRouterSettings :=
  .ofFields { lawful := by delta LocalRouterSettings.fields; infer_instance }

instance : LawfulForm LocalRouter :=
  .ofFields { lawful := by delta LocalRouter.fields; infer_instance }

instance : LawfulForm LocalRouterCreateRequest :=
  .ofFields { lawful := by delta LocalRouterCreateRequest.fields; infer_instance }

/-- These are the types of the model that have documents. -/
inductive ModelType where
  | availability
  | runStatus
  | findCondition
  | diskConnection
  | disk
  | bundleInfo
  | archive
  | diskPlanSize
  | diskPlan
  | diskCreateRequest
  | editUserSubnet
  | diskEditNote
  | diskEditRequest
  | diskUpdateRequest
  | interfaceDriver
  | commitment
  | planGeneration
  | switchConnection
  | interface
  | server
  | serverCreateRequest
  | serverUpdateRequest
  | interfaceUpdateRequest
  | serverPlan
  | serverPlanQuery
  | switch
  | packetFilter
  | cdrom
  | databaseType
  | databasePlan
  | databaseSettings
  | database
  | databaseCreateRequest
  | databaseUpdateRequest
  | databaseStatus
  | vpcRouterPlan
  | vpcRouterInterface
  | vpcRouterSettings
  | vpcRouter
  | vpcRouterCreateRequest
  | vpcRouterUpdateRequest
  | mobileGatewayInterface
  | mobileGatewaySettings
  | mobileGatewayDns
  | trafficConfig
  | mobileGateway
  | mobileGatewayCreateRequest
  | mobileGatewayUpdateRequest
  | sim
  | sshKey
  | sshKeyGenerateRequest
  | generatedSshKey
  | note
  | noteCreateRequest
  | accessLevel
  | permission
  | registryUser
  | containerRegistry
  | containerRegistryCreateRequest
  | containerRegistryUpdateRequest
  | localRouterSwitch
  | localRouterInterface
  | localRouterPeer
  | localRouterStaticRoute
  | localRouterSettings
  | localRouter
  | localRouterCreateRequest

namespace ModelType

/-- The values of a type are the records or the choices themselves. -/
abbrev Value : ModelType → Type
  | availability => Availability
  | runStatus => RunStatus
  | findCondition => FindCondition
  | diskConnection => DiskConnection
  | disk => Disk
  | bundleInfo => BundleInfo
  | archive => Archive
  | diskPlanSize => DiskPlanSize
  | diskPlan => DiskPlan
  | diskCreateRequest => DiskCreateRequest
  | editUserSubnet => EditUserSubnet
  | diskEditNote => DiskEditNote
  | diskEditRequest => DiskEditRequest
  | diskUpdateRequest => DiskUpdateRequest
  | interfaceDriver => InterfaceDriver
  | commitment => Commitment
  | planGeneration => PlanGeneration
  | switchConnection => SwitchConnection
  | interface => Interface
  | server => Server
  | serverCreateRequest => ServerCreateRequest
  | serverUpdateRequest => ServerUpdateRequest
  | interfaceUpdateRequest => InterfaceUpdateRequest
  | serverPlan => ServerPlan
  | serverPlanQuery => ServerPlanQuery
  | switch => Switch
  | packetFilter => PacketFilter
  | cdrom => Cdrom
  | databaseType => DatabaseType
  | databasePlan => DatabasePlan
  | databaseSettings => DatabaseSettings
  | database => Database
  | databaseCreateRequest => DatabaseCreateRequest
  | databaseUpdateRequest => DatabaseUpdateRequest
  | databaseStatus => DatabaseStatus
  | vpcRouterPlan => VpcRouterPlan
  | vpcRouterInterface => VpcRouterInterface
  | vpcRouterSettings => VpcRouterSettings
  | vpcRouter => VpcRouter
  | vpcRouterCreateRequest => VpcRouterCreateRequest
  | vpcRouterUpdateRequest => VpcRouterUpdateRequest
  | mobileGatewayInterface => MobileGatewayInterface
  | mobileGatewaySettings => MobileGatewaySettings
  | mobileGatewayDns => MobileGatewayDns
  | trafficConfig => TrafficConfig
  | mobileGateway => MobileGateway
  | mobileGatewayCreateRequest => MobileGatewayCreateRequest
  | mobileGatewayUpdateRequest => MobileGatewayUpdateRequest
  | sim => Sim
  | sshKey => SshKey
  | sshKeyGenerateRequest => SshKeyGenerateRequest
  | generatedSshKey => GeneratedSshKey
  | note => Note
  | noteCreateRequest => NoteCreateRequest
  | accessLevel => AccessLevel
  | permission => Permission
  | registryUser => RegistryUser
  | containerRegistry => ContainerRegistry
  | containerRegistryCreateRequest => ContainerRegistryCreateRequest
  | containerRegistryUpdateRequest => ContainerRegistryUpdateRequest
  | localRouterSwitch => LocalRouterSwitch
  | localRouterInterface => LocalRouterInterface
  | localRouterPeer => LocalRouterPeer
  | localRouterStaticRoute => LocalRouterStaticRoute
  | localRouterSettings => LocalRouterSettings
  | localRouter => LocalRouter
  | localRouterCreateRequest => LocalRouterCreateRequest

instance (type : ModelType) : JsonForm type.Value := by cases type <;> infer_instance

instance (type : ModelType) : LawfulForm type.Value := by cases type <;> infer_instance

def schema (type : ModelType) : Schema := LawfulForm.schema type.Value

/-- Interfaces have a tagged plug and an optional address. -/
example : schema .interface = .record
    [("id", .whole UInt64.size),
      ("upstream", .tagged ["Shared", "Disconnected"] "Switch" (.whole UInt64.size)),
      ("packet_filter_id", .whole UInt64.size),
      ("user_ip_address", .optional .address)] := rfl

/-- Writing and reading are inverse to each other. Every value of the model is read back from its
document. A document that is read and written again becomes its full form, which is read as the same
value and written as it is. Of an object, the full form keeps the known fields in their order, drops
the others, and has null for those that are missing. An object that repeats a known field is not
read. -/
theorem documents_are_faithful (type : ModelType) :
    (∀ value : type.Value, decode (encode value) = some value) ∧
    (∀ document, (decode document : Option type.Value).map encode =
      type.schema.fullForm? document) ∧
    (∀ (document : Json) (value : type.Value), decode document = some value →
      decode (encode value) = some value ∧
        (decode (encode value) : Option type.Value).map encode = some (encode value) ∧
        type.schema.fullForm? (encode value) = some (encode value)) ∧
    ∀ (fields : List (String × Schema)) (given : List (String × Json)) (value : type.Value),
      type.schema = .record fields → decode (.obj given) = some value →
      ∃ full, encode value = .obj full ∧ Schema.Completes fields given full := by
  have back (value : type.Value) : decode (encode value) = some value :=
    LawfulForm.decode_encode value
  have rewrites (document : Json) : (decode document : Option type.Value).map encode =
      type.schema.fullForm? document := LawfulForm.map_encode document
  refine ⟨back, rewrites, fun document value _ => ?_, fun fields given value shape read => ?_⟩
  · have again : (decode (encode value) : Option type.Value).map encode = some (encode value) := by
      rw [back, Option.map_some]
    exact ⟨back value, again, (rewrites _).symm.trans again⟩
  · have full := rewrites (.obj given)
    rw [read, shape] at full
    obtain ⟨entries, complete, same⟩ := Option.map_eq_some_iff.mp full.symm
    exact ⟨entries, same.symm, Schema.completes_of_fullFields? complete⟩

/-- An interface with the largest identifier loses an unknown field and gains a missing address. -/
theorem interface_is_completed :
    let given : List (String × Json) :=
      [("speed", .ofNat 10), ("upstream", .obj [("Switch", .ofNat 500)]),
        ("id", .ofNat 18446744073709551615), ("packet_filter_id", .ofNat 0)]
    let interface : Interface := ⟨⟨18446744073709551615⟩, .switch ⟨500⟩, ⟨0⟩, none⟩
    let full : List (String × Json) :=
      [("id", .ofNat 18446744073709551615), ("upstream", .obj [("Switch", .ofNat 500)]),
        ("packet_filter_id", .ofNat 0), ("user_ip_address", .null)]
    decode (.obj given) = some interface ∧ encode interface = .obj full ∧
      decode (Json.obj full) = some interface ∧
      (schema .interface).fullForm? (.obj full) = some (.obj full) := by
  intro given interface full
  have read : decode (.obj given) = some interface := rfl
  have written : encode interface = .obj full := rfl
  obtain ⟨-, -, again, -⟩ := documents_are_faithful .interface
  obtain ⟨back, -, stable⟩ := again (.obj given) interface read
  rw [written] at back stable
  exact ⟨read, written, back, stable⟩

/-- Bundles may repeat unknown fields, but not their own. -/
example :
    let given : List (String × Json) := [("host_class", .str "host"), ("service_class", .str "os")]
    (decode (.obj (given ++ [("size", .null), ("size", .null)])) : Option BundleInfo) =
      some ⟨"host", "os"⟩ ∧
    (decode (.obj (given ++ [("host_class", .str "host")])) : Option BundleInfo) = none :=
  ⟨rfl, rfl⟩

end ModelType

end Provisioning
