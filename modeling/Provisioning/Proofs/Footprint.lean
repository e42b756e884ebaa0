import Provisioning.Proofs.CloudStep

/-!
What a call can write. A call of one family leaves everything that belongs to the other families as
it was.
-/

namespace Provisioning

/-- The footprint of a request relates two clouds that differ only in what its family writes. -/
def Request.Footprint (before after : Cloud) : Request → Prop
  | .disk .. =>
      after =
        { before with
          lastId := after.lastId
          pending := after.pending
          disks := after.disks
          diskEdits := after.diskEdits
          servers := after.servers }
  | .catalogue .. => after = before
  | .credential _ =>
      after =
        { before with
          lastId := after.lastId
          sshKeys := after.sshKeys
          notes := after.notes }
  | .server .. =>
      after =
        { before with
          lastId := after.lastId
          servers := after.servers
          disks := after.disks
          shutdownForces := after.shutdownForces }
  | .database .. =>
      after =
        { before with
          lastId := after.lastId
          pending := after.pending
          databases := after.databases
          databaseParameters := after.databaseParameters
          shutdownForces := after.shutdownForces }
  | .vpcRouter .. =>
      after =
        { before with
          lastId := after.lastId
          pending := after.pending
          vpcRouters := after.vpcRouters
          vpcRouterSwitches := after.vpcRouterSwitches
          shutdownForces := after.shutdownForces }
  | .mobileGateway .. =>
      after =
        { before with
          lastId := after.lastId
          pending := after.pending
          mobileGateways := after.mobileGateways
          mobileGatewaySwitches := after.mobileGatewaySwitches
          mobileGatewayDns := after.mobileGatewayDns
          trafficConfigs := after.trafficConfigs
          shutdownForces := after.shutdownForces }
  | .sim _ => after = { before with sims := after.sims }
  | .containerRegistry _ =>
      after =
        { before with
          lastId := after.lastId
          pending := after.pending
          registries := after.registries }
  | .localRouter _ =>
      after =
        { before with
          lastId := after.lastId
          pending := after.pending
          localRouters := after.localRouters }

namespace Cloud

open CloudStep

variable {cloud : Cloud}

/-- A call about a disk writes nothing but disks, their edits, the servers that list them, and the
counters. -/
theorem answerDisk_footprint (zone : Zone) (call : DiskCall) :
    Yields (answerDisk call) cloud
      (fun _ after => (Request.disk zone call).Footprint cloud after)
      (fun _ after => (Request.disk zone call).Footprint cloud after) := by
  cases call with
  | create request distantFrom =>
      rw [answerDisk, yields_createDisk]
      repeat' split
      all_goals exact rfl
  | createWithConfig request edit bootAtAvailable distantFrom =>
      rw [answerDisk, yields_createDisk]
      repeat' split
      all_goals exact rfl
  | read id =>
      simp only [answerDisk, yields_readSettling, yields_change, yields_find]
      repeat' split
      all_goals exact rfl
  | update id request =>
      simp only [answerDisk, yields_change]
      split <;> exact rfl
  | delete id =>
      simp only [answerDisk, yields_remove]
      split <;> exact rfl
  | connectToServer id serverId =>
      simp only [answerDisk, connectDisk, yields_bind, yields_change, yields_pure]
      repeat' split
      all_goals exact rfl
  | config id edit =>
      simp only [answerDisk, configureDisk, yields_bind, yields_change, yields_track,
        yields_modify]
      split <;> exact rfl

/-- A call of the catalogue writes nothing. -/
theorem answerCatalogue_footprint (zone : Zone) (call : CatalogueCall) :
    Yields (answerCatalogue call) cloud
      (fun _ after => (Request.catalogue zone call).Footprint cloud after)
      (fun _ after => (Request.catalogue zone call).Footprint cloud after) := by
  cases call with
  | findArchives condition => exact rfl
  | findServerPlans => exact rfl
  | readArchive id | readDiskPlan id | readSwitch id | readPacketFilter id | readCdrom id =>
      simp only [answerCatalogue, yields_find]
      split <;> exact rfl

/-- A call about a key or a note writes nothing but keys, notes and the counter. -/
theorem answerCredential_footprint (call : CredentialCall) :
    Yields (answerCredential call) cloud
      (fun _ after => (Request.credential call).Footprint cloud after)
      (fun _ after => (Request.credential call).Footprint cloud after) := by
  cases call with
  | generateSshKey request => exact rfl
  | createNote request => exact rfl
  | readSshKey id | readNote id =>
      simp only [answerCredential, yields_find]
      split <;> exact rfl
  | deleteSshKey id | deleteNote id =>
      simp only [answerCredential, yields_remove]
      split <;> exact rfl

/-- A call about a server writes nothing but servers, their disks, the counter and the shutdowns on
record. -/
theorem answerServer_footprint (zone : Zone) (call : ServerCall) :
    Yields (answerServer call) cloud
      (fun _ after => (Request.server zone call).Footprint cloud after)
      (fun _ after => (Request.server zone call).Footprint cloud after) := by
  cases call with
  | create request =>
      simp only [answerServer, createServer, yields_bind, yields_findServerPlan, yields_allocate,
        yields_createInterfaces, yields_insert, yields_pure]
      split <;> exact rfl
  | read id =>
      simp only [answerServer, yields_find]
      split <;> exact rfl
  | update id request =>
      simp only [answerServer, yields_change]
      split <;> exact rfl
  | delete id =>
      simp only [answerServer, yields_remove]
      split <;> exact rfl
  | boot id =>
      simp only [answerServer, yields_bind, yields_change, yields_pure]
      split <;> exact rfl
  | shutdown id force =>
      simp only [answerServer, yields_bind, yields_change, yields_recordShutdown]
      split <;> exact rfl
  | changePlan id planId =>
      simp only [answerServer, changeServerPlan, yields_bind, yields_findServerPlan, yields_find]
      repeat' split
      all_goals exact rfl
  | insertCdrom id cdromId =>
      simp only [answerServer, yields_bind, yields_find, yields_change, yields_pure]
      repeat' split
      all_goals exact rfl
  | ejectCdrom id cdromId =>
      simp only [answerServer, yields_bind, yields_change, yields_pure]
      split <;> exact rfl
  | connectToPacketFilter interfaceId packetFilterId =>
      simp only [answerServer, yields_bind, yields_find, yields_changeInterface, yields_change]
      repeat' split
      all_goals exact rfl
  | updateInterface interfaceId request =>
      simp only [answerServer, yields_changeInterface, yields_change]
      repeat' split
      all_goals exact rfl

/-- A call about a database writes nothing but databases, their parameters, the counters and the
shutdowns on record. -/
theorem answerDatabase_footprint (zone : Zone) (call : DatabaseCall) :
    Yields (answerDatabase call) cloud
      (fun _ after => (Request.database zone call).Footprint cloud after)
      (fun _ after => (Request.database zone call).Footprint cloud after) := by
  cases call with
  | create request =>
      simp only [answerDatabase, createDatabase, yields_bind, yields_find, yields_allocate,
        yields_freshHash, yields_insert, yields_track, yields_pure]
      split <;> exact rfl
  | read id =>
      simp only [answerDatabase, yields_readSettling, yields_change, yields_find]
      repeat' split
      all_goals exact rfl
  | update id request =>
      simp only [answerDatabase, updateDatabase, yields_bind, yields_freshHash, yields_find,
        yields_checkHash, yields_change]
      repeat' split
      all_goals exact rfl
  | delete id =>
      simp only [answerDatabase, yields_remove]
      split <;> exact rfl
  | boot id =>
      simp only [answerDatabase, yields_bind, yields_change, yields_pure]
      split <;> exact rfl
  | shutdown id force =>
      simp only [answerDatabase, yields_bind, yields_change, yields_recordShutdown]
      split <;> exact rfl
  | config id =>
      simp only [answerDatabase, yields_bind, yields_find, yields_pure]
      split <;> exact rfl
  | setParameters id parameters =>
      simp only [answerDatabase, setDatabaseParameters, yields_bind, yields_find, yields_modify]
      split <;> exact rfl
  | status id =>
      simp only [answerDatabase, yields_bind, yields_find, yields_pure]
      split <;> exact rfl

/-- A call about a router writes nothing but routers, their plugs, the counters and the shutdowns on
record. -/
theorem answerVpcRouter_footprint (zone : Zone) (call : VpcRouterCall) :
    Yields (answerVpcRouter call) cloud
      (fun _ after => (Request.vpcRouter zone call).Footprint cloud after)
      (fun _ after => (Request.vpcRouter zone call).Footprint cloud after) := by
  cases call with
  | create request => exact rfl
  | read id =>
      simp only [answerVpcRouter, yields_readSettling, yields_change, yields_find]
      repeat' split
      all_goals exact rfl
  | update id request =>
      simp only [answerVpcRouter, updateVpcRouter, yields_bind, yields_freshHash, yields_find,
        yields_checkHash, yields_change]
      repeat' split
      all_goals exact rfl
  | delete id =>
      simp only [answerVpcRouter, yields_remove]
      split <;> exact rfl
  | boot id =>
      simp only [answerVpcRouter, yields_bind, yields_change, yields_pure]
      split <;> exact rfl
  | shutdown id force =>
      simp only [answerVpcRouter, yields_bind, yields_change, yields_recordShutdown]
      split <;> exact rfl
  | connectToSwitch id index switchId =>
      simp only [answerVpcRouter, connectVpcRouter, yields_bind, yields_find, yields_modify]
      repeat' split
      all_goals exact rfl
  | config id =>
      simp only [answerVpcRouter, yields_bind, yields_find, yields_pure]
      split <;> exact rfl

/-- A call about a gateway writes nothing but gateways, what is kept beside them, the counters and
the shutdowns on record. -/
theorem answerMobileGateway_footprint (zone : Zone) (call : MobileGatewayCall) :
    Yields (answerMobileGateway call) cloud
      (fun _ after => (Request.mobileGateway zone call).Footprint cloud after)
      (fun _ after => (Request.mobileGateway zone call).Footprint cloud after) := by
  cases call with
  | create request => exact rfl
  | read id =>
      simp only [answerMobileGateway, yields_readSettling, yields_change, yields_find]
      repeat' split
      all_goals exact rfl
  | update id request =>
      simp only [answerMobileGateway, updateMobileGateway, yields_bind, yields_freshHash,
        yields_find, yields_checkHash, yields_change]
      repeat' split
      all_goals exact rfl
  | delete id =>
      simp only [answerMobileGateway, yields_remove]
      split <;> exact rfl
  | boot id =>
      simp only [answerMobileGateway, yields_bind, yields_change, yields_pure]
      split <;> exact rfl
  | shutdown id force =>
      simp only [answerMobileGateway, yields_bind, yields_change, yields_recordShutdown]
      split <;> exact rfl
  | connectToSwitch id switchId =>
      simp only [answerMobileGateway, yields_bind, yields_find, yields_modify]
      repeat' split
      all_goals exact rfl
  | config id =>
      simp only [answerMobileGateway, yields_bind, yields_find, yields_pure]
      split <;> exact rfl
  | setDns id dns | setTrafficConfig id traffic =>
      simp only [answerMobileGateway, yields_bind, yields_find, yields_modify]
      split <;> exact rfl
  | addSim id simId =>
      simp only [answerMobileGateway, addSim, yields_bind, yields_find, yields_ite, yields_throw,
        yields_change, yields_pure]
      repeat' split
      all_goals exact rfl

/-- A call about a card writes nothing but cards. -/
theorem answerSim_footprint (call : SimCall) :
    Yields (answerSim call) cloud
      (fun _ after => (Request.sim call).Footprint cloud after)
      (fun _ after => (Request.sim call).Footprint cloud after) := by
  cases call with
  | read id =>
      simp only [answerSim, yields_find]
      split <;> exact rfl
  | assignIp id ipAddress =>
      simp only [answerSim, yields_bind, yields_change, yields_pure]
      split <;> exact rfl

/-- A call about a registry writes nothing but registries and the counters. -/
theorem answerRegistry_footprint (call : ContainerRegistryCall) :
    Yields (answerRegistry call) cloud
      (fun _ after => (Request.containerRegistry call).Footprint cloud after)
      (fun _ after => (Request.containerRegistry call).Footprint cloud after) := by
  cases call with
  | create request => exact rfl
  | read id =>
      simp only [answerRegistry, yields_readSettling, yields_change, yields_find]
      repeat' split
      all_goals exact rfl
  | update id request =>
      simp only [answerRegistry, yields_change]
      split <;> exact rfl
  | delete id =>
      simp only [answerRegistry, yields_remove]
      split <;> exact rfl
  | addUser id user =>
      simp only [answerRegistry, addRegistryUser, yields_bind, yields_find, yields_ite,
        yields_throw, yields_change, yields_pure]
      repeat' split
      all_goals exact rfl
  | deleteUser id userName =>
      simp only [answerRegistry, deleteRegistryUser, yields_bind, yields_find, yields_ite,
        yields_throw, yields_change, yields_pure]
      repeat' split
      all_goals exact rfl

/-- A call about a local router writes nothing but local routers and the counters. -/
theorem answerLocalRouter_footprint (call : LocalRouterCall) :
    Yields (answerLocalRouter call) cloud
      (fun _ after => (Request.localRouter call).Footprint cloud after)
      (fun _ after => (Request.localRouter call).Footprint cloud after) := by
  cases call with
  | create request => exact rfl
  | read id =>
      simp only [answerLocalRouter, yields_readSettling, yields_change, yields_find]
      repeat' split
      all_goals exact rfl
  | updateSettings id settings settingsHash =>
      simp only [answerLocalRouter, updateLocalRouterSettings, yields_bind, yields_freshHash,
        yields_find, yields_checkHash, yields_change]
      repeat' split
      all_goals exact rfl
  | delete id =>
      simp only [answerLocalRouter, yields_remove]
      split <;> exact rfl

/-- An answer stays within the footprint of its request, whether it succeeds or fails. -/
theorem answerRequest_footprint (request : Request) :
    Yields (answerRequest request) cloud (fun _ after => request.Footprint cloud after)
      (fun _ after => request.Footprint cloud after) := by
  cases request with
  | disk zone call => exact answerDisk_footprint zone call
  | catalogue zone call => exact answerCatalogue_footprint zone call
  | credential call => exact answerCredential_footprint call
  | server zone call => exact answerServer_footprint zone call
  | database zone call => exact answerDatabase_footprint zone call
  | vpcRouter zone call => exact answerVpcRouter_footprint zone call
  | mobileGateway zone call => exact answerMobileGateway_footprint zone call
  | sim call => exact answerSim_footprint call
  | containerRegistry call => exact answerRegistry_footprint call
  | localRouter call => exact answerLocalRouter_footprint call

theorem footprint_refl (request : Request) (cloud : Cloud) : request.Footprint cloud cloud := by
  cases request <;> exact rfl

/-- A call writes its log, the announced failures and what its family writes. -/
theorem call_footprint (request : Request) (cloud : Cloud) :
    ∃ failures,
      request.Footprint (cloud.logging request failures) (call request cloud).2 := by
  refine call_elim (motive := fun _ after =>
    ∃ failures, request.Footprint (cloud.logging request failures) after) ?_ ?_
  · intro error failures found
    exact ⟨failures, footprint_refl _ _⟩
  · intro quiet
    exact (answerRequest_footprint request).mono (fun _ _ written => ⟨_, written⟩)
      (fun _ _ written => ⟨_, written⟩)

end Cloud

end Provisioning
