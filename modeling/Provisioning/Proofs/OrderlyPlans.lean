import Provisioning.Proofs.Orderly

/-!
All plans are orderly: whatever the answers are, each call of a validation, a build or an update
belongs to a step. The parts of a plan are orderly for any set of requests that has their own.
-/

namespace Provisioning

open Program

variable {zone : Zone} {id : ResourceId} {allowed : Request → Prop}

/-- The disposal of artifacts is orderly when their deletions are allowed. -/
theorem Artifacts.dispose_orderly (artifacts : Artifacts)
    (keys : ∀ key, artifacts.generatedKey = some key →
      allowed (.credential (.deleteSshKey key.id)))
    (notes : ∀ id ∈ artifacts.noteIds, allowed (.credential (.deleteNote id))) :
    Orderly allowed artifacts.dispose.run := by
  have deletesNotes : Orderly allowed (do
      if artifacts.deleteNotes then
        artifacts.noteIds.forM fun id => Build.call "delete note" (.credential (.deleteNote id))
      return artifacts.generatedKey.map GeneratedSshKey.privateKey : Build _).run := by
    split
    · exact .bind (.forM fun id member => .call rfl (notes id member)) fun _ => .pure _
    · exact .pure _
  rw [dispose]
  split
  · split
    next key present => exact .step rfl (keys key present) fun _ => deletesNotes
    next => exact deletesNotes
  · exact deletesNotes

/-- The preparation of an edit is orderly when keys and notes may be made. -/
theorem UnixEdit.prepare_orderly (edit : UnixEdit)
    (keys : ∀ request, allowed (.credential (.generateSshKey request)))
    (notes : ∀ request, allowed (.credential (.createNote request))) :
    Orderly allowed edit.prepare.run := by
  have key : Orderly allowed edit.generateKey.run := by
    rw [generateKey]
    split
    · exact .pure _
    · exact .step rfl (keys _) fun _ => .pure _
  refine key.bind fun _ => .bind (.mapM fun _ => ?_) fun _ => .pure _
  exact .step rfl (notes _) fun _ => .pure _

namespace DiskBlueprint

/-- The wait for a disk is orderly when the disk may be read. -/
theorem awaitReady_orderly {timing : Timing} (looks : allowed (.disk zone (.read id))) :
    Orderly allowed (awaitReady zone id timing).run :=
  .bind (.untilReady (.inr (.inr rfl)) looks) fun _ => .pure _

/-- Before the disk is created, its source is looked up and its artifacts come into being. -/
theorem prepare_orderly (blueprint : DiskBlueprint) (serverId : ResourceId)
    (looks : ∀ request, request.Looks → allowed request)
    (keys : ∀ request, allowed (.credential (.generateSshKey request)))
    (notes : ∀ request, allowed (.credential (.createNote request))) :
    Orderly allowed (blueprint.prepare zone serverId).run := by
  cases blueprint with
  | unix spec system edit =>
      refine (system.findArchive_orderly.mono looks).bind fun archive => ?_
      exact (edit.prepare_orderly keys notes).bind fun _ => .pure _
  | windows spec system edit =>
      exact (system.findArchive_orderly.mono looks).bind fun _ => .pure _
  | fixedArchive spec system =>
      exact (system.findArchive_orderly.mono looks).bind fun _ => .pure _
  | copied spec sourceDiskId sourceArchiveId edit =>
      cases edit with
      | none => exact .pure _
      | some edit => exact (edit.prepare_orderly keys notes).bind fun _ => .pure _
  | blank spec => exact .pure _
  | connected spec diskId => exact .pure _

/-- The creation of a disk is orderly and deletes nothing. -/
theorem create_orderly (spec : DiskSpec) (creation : Creation) :
    Orderly Request.Preserves (create zone spec creation).run := by
  rw [create]
  split
  · exact .call rfl ⟨rfl⟩
  · exact .call rfl ⟨rfl⟩

/-- The connection of a disk is orderly when it is allowed, or when there is no server to connect it
to. -/
theorem connect_orderly (diskId serverId : ResourceId)
    (connects : serverId.isUnset = false →
      allowed (.disk zone (.connectToServer diskId serverId))) :
    Orderly allowed (connect zone diskId serverId).run := by
  rw [connect]
  split
  next set => exact .step rfl (connects (Bool.not_eq_true' _ ▸ set)) fun _ => .pure _
  next => exact .pure _

theorem build_orderly (blueprint : DiskBlueprint) (serverId : ResourceId) (timing : Timing) :
    Orderly (fun _ => True) (blueprint.build zone serverId timing).run := by
  refine (blueprint.validate_orderly.mono fun _ _ => trivial).bind fun _ => ?_
  refine (blueprint.prepare_orderly serverId (fun _ _ => trivial) (fun _ => trivial)
    fun _ => trivial).bind fun prepared => ?_
  cases prepared with
  | none => exact connect_orderly _ _ fun _ => trivial
  | some creation =>
      refine ((create_orderly _ _).mono fun _ _ => trivial).bind fun created => ?_
      refine (awaitReady_orderly trivial).bind fun _ => ?_
      exact (creation.artifacts.dispose_orderly (fun _ _ => trivial) fun _ _ => trivial).bind
        fun _ => .pure _

theorem update_orderly (blueprint : DiskBlueprint) (timing : Timing) :
    Orderly (fun _ => True) (blueprint.update zone timing).run := by
  refine (Orderly.lift _).bind fun _ => .step rfl trivial fun _ => ?_
  cases blueprint with
  | unix spec system edit =>
      refine Orderly.bind ?_ fun _ => .pure _
      refine (edit.prepare_orderly (fun _ => trivial) fun _ => trivial).bind fun prepared => ?_
      refine .step rfl trivial fun _ => (awaitReady_orderly trivial).bind fun _ => ?_
      exact prepared.2.dispose_orderly (fun _ _ => trivial) fun _ _ => trivial
  | windows | fixedArchive | copied | blank | connected => exact .pure _

end DiskBlueprint

namespace ServerBlueprint

/-- The builds of the disks of a server are orderly. -/
theorem buildDisks_orderly (timing : Timing) (disks : List DiskBlueprint) :
    Orderly (fun _ => True) (buildDisks zone id timing disks).run := by
  induction disks with
  | nil => exact .pure _
  | cons disk rest inductionHypothesis =>
      exact (disk.build_orderly id timing).bind fun _ => inductionHypothesis.bind fun _ => .pure _

/-- The display of an address is orderly when interfaces may be updated. -/
theorem displayAddress_orderly (interfaceId : ResourceId) (nic : NicSpec)
    (shows : ∀ request, allowed (.server zone (.updateInterface interfaceId request))) :
    Orderly allowed (do
      if let some address := nic.displayIpAddress then
        Build.call "update interface"
          (.server zone (.updateInterface interfaceId { userIpAddress := some address })) :
      Build _).run := by
  split
  · exact .call rfl (shows _)
  · exact .pure _

/-- The configuration of an interface is orderly when its filter and its address may be set. -/
theorem configureNic_orderly (server : Server) (index : Nat) (nic : NicSpec)
    (filters : ∀ interface ∈ server.interfaces, ∀ filterId,
      allowed (.server zone (.connectToPacketFilter interface.id filterId)))
    (shows : ∀ interface ∈ server.interfaces, ∀ request,
      allowed (.server zone (.updateInterface interface.id request))) :
    Orderly allowed (configureNic zone server index nic).run := by
  rw [configureNic]
  split
  · exact .pure _
  · rw [findInterface]
    cases found : server.interfaces[index]? with
    | none => exact .throw _
    | some interface =>
        have member := List.mem_of_getElem? found
        have addresses := displayAddress_orderly interface.id nic (shows interface member)
        cases nic.packetFilterId.set? with
        | some filterId => exact .step rfl (filters interface member filterId) fun _ => addresses
        | none => exact addresses

/-- The configuration of all interfaces is orderly when their filters and their addresses may be
set. -/
theorem configureNics_orderly (server : Server) (index : Nat) (nics : List NicSpec)
    (filters : ∀ interface ∈ server.interfaces, ∀ filterId,
      allowed (.server zone (.connectToPacketFilter interface.id filterId)))
    (shows : ∀ interface ∈ server.interfaces, ∀ request,
      allowed (.server zone (.updateInterface interface.id request))) :
    Orderly allowed (configureNics zone server index nics).run := by
  induction nics generalizing index with
  | nil => exact .pure _
  | cons nic rest inductionHypothesis =>
      exact (configureNic_orderly server index nic filters shows).bind fun _ =>
        inductionHypothesis _

/-- The insertion of an optical disc is orderly when it is allowed. -/
theorem insertCdrom_orderly (cdromId : ResourceId)
    (inserts : ∀ cdromId, allowed (.server zone (.insertCdrom id cdromId))) :
    Orderly allowed (insertCdrom zone id cdromId).run := by
  rw [insertCdrom]
  split
  · exact .call rfl (inserts _)
  · exact .pure _

/-- The boot of a server is orderly when the server may be booted and read. -/
theorem boot_orderly (blueprint : ServerBlueprint) (boots : allowed (.server zone (.boot id)))
    (looks : allowed (.server zone (.read id))) :
    Orderly allowed (blueprint.boot zone id).run :=
  Orderly.switch .server boots looks _ _

/-- A build that has its server and its disks configures the interfaces, inserts the optical disc
and boots. -/
def conclude (zone : Zone) (blueprint : ServerBlueprint) (server : Server) (key : Option String) :
    Build BuildResult := do
  configureNics zone server 0 blueprint.nics
  insertCdrom zone server.id blueprint.cdromId
  if blueprint.bootAfterCreate then blueprint.boot zone server.id
  return { id := server.id, generatedSshPrivateKey := key }

/-- A build of a server checks its blueprint, creates the server, builds the disks and concludes. -/
theorem build_eq (blueprint : ServerBlueprint) :
    blueprint.build zone = (do
      let planId ← blueprint.check zone
      let server ← Build.call "create server"
        (.server zone (.create (blueprint.createRequest planId)))
      let key ← buildDisks zone server.id blueprint.timing blueprint.disks
      blueprint.conclude zone server key) := rfl

/-- All calls after the last disk are about servers, and they delete nothing. -/
theorem conclude_orderly (blueprint : ServerBlueprint) (server : Server) (key : Option String) :
    Orderly (fun request => request.Preserves ∧ ∃ call, request = .server zone call)
      (blueprint.conclude zone server key).run := by
  refine (configureNics_orderly _ _ _ (fun _ _ _ => ⟨⟨rfl⟩, _, rfl⟩)
    fun _ _ _ => ⟨⟨rfl⟩, _, rfl⟩).bind fun _ => ?_
  refine (insertCdrom_orderly _ fun _ => ⟨⟨rfl⟩, _, rfl⟩).bind fun _ => ?_
  split
  · exact (boot_orderly _ ⟨⟨rfl⟩, _, rfl⟩ ⟨⟨rfl⟩, _, rfl⟩).bind fun _ => .pure _
  · exact .pure _

theorem build_orderly (blueprint : ServerBlueprint) :
    Orderly (fun _ => True) (blueprint.build zone).run := by
  rw [build_eq]
  refine (blueprint.check_orderly.mono fun _ _ => trivial).bind fun planId => ?_
  refine .step rfl trivial fun server => (buildDisks_orderly _ _).bind fun key => ?_
  exact (blueprint.conclude_orderly server key).mono fun _ _ => trivial

/-- A change of plan is orderly and deletes nothing. -/
theorem changePlan_orderly (blueprint : ServerBlueprint) (current : Server)
    (planId : ResourceId) :
    Orderly Request.Preserves (blueprint.changePlan zone current planId).run := by
  rw [changePlan]
  split
  · refine Orderly.bind (Orderly.switch .server ⟨rfl⟩ ⟨rfl⟩ _ _) fun _ => ?_
    exact .step rfl ⟨rfl⟩ fun _ => .pure _
  · exact .step rfl ⟨rfl⟩ fun _ => .pure _

/-- The exchange of optical discs is orderly when ejections and insertions are allowed. -/
theorem exchangeCdrom_orderly (inserted wanted : ResourceId)
    (ejects : ∀ cdromId, allowed (.server zone (.ejectCdrom id cdromId)))
    (inserts : ∀ cdromId, allowed (.server zone (.insertCdrom id cdromId))) :
    Orderly allowed (exchangeCdrom zone id inserted wanted).run := by
  rw [exchangeCdrom]
  split
  · exact .pure _
  · split
    · exact .step rfl (ejects _) fun _ => insertCdrom_orderly _ inserts
    · exact insertCdrom_orderly _ inserts

theorem update_orderly (blueprint : ServerBlueprint) :
    Orderly Request.Preserves (blueprint.update zone).run := by
  have finishes : ∀ (current : Server) (boots : Bool) (id : ResourceId),
      Orderly Request.Preserves (do
        let _ ← Build.call "update server" (.server zone (.update id blueprint.updateRequest))
        exchangeCdrom zone id current.cdromId blueprint.cdromId
        if boots then blueprint.boot zone id
        return BuildResult.ofId id).run := by
    intro current boots id
    refine .step rfl ⟨rfl⟩ fun _ => ?_
    refine (exchangeCdrom_orderly _ _ (fun _ => ⟨rfl⟩) fun _ => ⟨rfl⟩).bind fun _ => ?_
    split
    · exact (boot_orderly _ ⟨rfl⟩ ⟨rfl⟩).bind fun _ => .pure _
    · exact .pure _
  refine (Orderly.lift _).bind fun _ => (Orderly.lift _).bind fun _ => ?_
  refine (blueprint.resolvePlan_orderly.mono Request.preserves_of_looks).bind fun planId => ?_
  refine ((readCdrom_orderly _).mono Request.preserves_of_looks).bind fun _ => ?_
  refine .step (.inl rfl) ⟨rfl⟩ fun current => ?_
  dsimp only
  split
  · exact (blueprint.changePlan_orderly current planId).bind fun id => finishes current _ id
  · exact finishes current _ current.id

end ServerBlueprint

namespace DatabaseBlueprint

/-- The application of parameters is orderly when they may be set. -/
theorem applyParameters_orderly (blueprint : DatabaseBlueprint)
    (sets : allowed (.database zone (.setParameters id blueprint.parameters))) :
    Orderly allowed (blueprint.applyParameters zone id).run := by
  rw [applyParameters]
  split
  · exact .pure _
  · exact .call rfl sets

theorem build_orderly (blueprint : DatabaseBlueprint) :
    Orderly Request.Preserves (blueprint.build zone).run := by
  refine (blueprint.validate_orderly.mono Request.preserves_of_looks).bind fun _ => ?_
  refine .step rfl ⟨rfl⟩ fun created => .bind (.untilReady (.inr (.inl rfl)) ⟨rfl⟩) fun _ => ?_
  refine .bind (.forState (.inr (.inr (.inl rfl))) ⟨rfl⟩) fun _ => ?_
  exact (blueprint.applyParameters_orderly ⟨rfl⟩).bind fun _ => .pure _

theorem update_orderly (blueprint : DatabaseBlueprint) :
    Orderly Request.Preserves (blueprint.update zone).run := by
  refine (Orderly.lift _).bind fun _ => (Orderly.lift _).bind fun _ => ?_
  refine .step (.inl rfl) ⟨rfl⟩ fun current => .step rfl ⟨rfl⟩ fun _ => ?_
  refine .step rfl ⟨rfl⟩ fun _ => (blueprint.applyParameters_orderly ⟨rfl⟩).bind fun _ => ?_
  split
  · exact (Orderly.switch .database ⟨rfl⟩ ⟨rfl⟩ _ _).bind fun _ => .pure _
  · exact .pure _

end DatabaseBlueprint

namespace VpcRouterBlueprint

/-- The connection of private interfaces is orderly when a router may be plugged in. -/
theorem connectNics_orderly (blueprint : VpcRouterBlueprint)
    (connects : ∀ index switchId,
      allowed (.vpcRouter zone (.connectToSwitch id index switchId))) :
    Orderly allowed (blueprint.nics.forM (connectNic zone id)).run :=
  .forM fun _ _ => .call rfl (connects _ _)

/-- This is the part of a build after the update of the settings. -/
def conclude (zone : Zone) (id : ResourceId) (current : VpcRouter)
    (blueprint : VpcRouterBlueprint) : Build BuildResult := do
  Build.call "apply VPC router settings" (.vpcRouter zone (.config current.id))
  if blueprint.bootAfterCreate then
    (vpcRouterPower zone id).switch .boot blueprint.timing blueprint.noWait
  return .ofId id

/-- A build of a router validates it, creates it, waits for it, plugs it in, updates it with the
hash that the wait has seen, and concludes. -/
theorem build_eq (blueprint : VpcRouterBlueprint) :
    blueprint.build zone = (do
      blueprint.validate zone
      let created ← Build.call "create VPC router"
        (.vpcRouter zone (.create blueprint.createRequest))
      let ready ← Wait.untilReady "VPC router" created.id
        (Build.attempt (.vpcRouter zone (.read created.id))) blueprint.timing.wait
      blueprint.nics.forM (connectNic zone created.id)
      let _ ← Build.call "update VPC router"
        (.vpcRouter zone (.update ready.id (blueprint.updateRequest ready.settingsHash)))
      blueprint.conclude zone created.id ready) := by
  simp only [build, applySettings, conclude, bind_assoc]

/-- The conclusion of a build of a router is orderly when the router may be configured, booted and
read. -/
theorem conclude_orderly (blueprint : VpcRouterBlueprint) (current : VpcRouter)
    (configures : allowed (.vpcRouter zone (.config current.id)))
    (boots : allowed (.vpcRouter zone (.boot id))) (looks : allowed (.vpcRouter zone (.read id))) :
    Orderly allowed (blueprint.conclude zone id current).run := by
  refine .step rfl configures fun _ => ?_
  split
  · exact (Orderly.switch .vpcRouter boots looks _ _).bind fun _ => .pure _
  · exact .pure _

theorem build_orderly (blueprint : VpcRouterBlueprint) :
    Orderly Request.Preserves (blueprint.build zone).run := by
  rw [build_eq]
  refine (blueprint.validate_orderly.mono Request.preserves_of_looks).bind fun _ => ?_
  refine .step rfl ⟨rfl⟩ fun created => .bind (.untilReady (.inr (.inl rfl)) ⟨rfl⟩) fun _ => ?_
  refine (blueprint.connectNics_orderly fun _ _ => ⟨rfl⟩).bind fun _ => ?_
  exact .step rfl ⟨rfl⟩ fun _ => blueprint.conclude_orderly _ ⟨rfl⟩ ⟨rfl⟩ ⟨rfl⟩

theorem update_orderly (blueprint : VpcRouterBlueprint) :
    Orderly Request.Preserves (blueprint.update zone).run := by
  refine (Orderly.lift _).bind fun _ => (Orderly.lift _).bind fun _ => ?_
  refine .step (.inl rfl) ⟨rfl⟩ fun current => Orderly.bind ?_ fun _ => .pure _
  exact .step rfl ⟨rfl⟩ fun _ => .call rfl ⟨rfl⟩

end VpcRouterBlueprint

namespace MobileGatewayBlueprint

/-- The private interface is plugged in when there is one. -/
def connect (zone : Zone) (id : ResourceId) (blueprint : MobileGatewayBlueprint) : Build Unit :=
  match blueprint.interface with
  | some interface =>
      Build.call "connect mobile gateway to switch"
        (.mobileGateway zone (.connectToSwitch id interface.switchId))
  | none => return

/-- The connection of a gateway is orderly when the gateway may be plugged in. -/
theorem connect_orderly (blueprint : MobileGatewayBlueprint)
    (connects : ∀ switchId, allowed (.mobileGateway zone (.connectToSwitch id switchId))) :
    Orderly allowed (blueprint.connect zone id).run := by
  rw [connect]
  split
  · exact .call rfl (connects _)
  · exact .pure _

/-- The registration of cards is orderly when cards may be added and the declared addresses may be
assigned. -/
theorem registerSims_orderly (blueprint : MobileGatewayBlueprint) (registered : List ResourceId)
    (adds : ∀ simId, allowed (.mobileGateway zone (.addSim id simId)))
    (assigns : ∀ sim ∈ blueprint.sims, allowed (.sim (.assignIp sim.simId sim.ipAddress))) :
    Orderly allowed (blueprint.registerSims zone id registered).run :=
  .forM fun sim member => .step rfl (adds _) fun _ =>
    .call rfl (assigns sim (List.mem_filter.mp member).1)

/-- This is the part of a build after the update of the settings. -/
def conclude (zone : Zone) (id : ResourceId) (current : MobileGateway)
    (blueprint : MobileGatewayBlueprint) : Build BuildResult := do
  Build.call "apply mobile gateway settings" (.mobileGateway zone (.config current.id))
  if let some dns := blueprint.dns then
    Build.call "set mobile gateway DNS" (.mobileGateway zone (.setDns id dns))
  blueprint.registerSims zone id []
  if let some traffic := blueprint.trafficConfig then
    Build.call "set traffic config" (.mobileGateway zone (.setTrafficConfig id traffic))
  if blueprint.bootAfterCreate then
    (mobileGatewayPower zone id).switch .boot blueprint.timing blueprint.noWait
  return .ofId id

/-- The resolvers are set when there are any. -/
def resolve (zone : Zone) (id : ResourceId) (blueprint : MobileGatewayBlueprint) : Build Unit :=
  match blueprint.dns with
  | some dns => Build.call "set mobile gateway DNS" (.mobileGateway zone (.setDns id dns))
  | none => return

/-- This is the part of a build after the cards have been registered. -/
def finish (zone : Zone) (id : ResourceId) (blueprint : MobileGatewayBlueprint) :
    Build BuildResult := do
  if let some traffic := blueprint.trafficConfig then
    Build.call "set traffic config" (.mobileGateway zone (.setTrafficConfig id traffic))
  if blueprint.bootAfterCreate then
    (mobileGatewayPower zone id).switch .boot blueprint.timing blueprint.noWait
  return .ofId id

/-- A build of a gateway concludes by applying the settings, setting the resolvers, registering the
cards and finishing. -/
theorem conclude_eq (blueprint : MobileGatewayBlueprint) (current : MobileGateway) :
    blueprint.conclude zone id current = (do
      Build.call "apply mobile gateway settings" (.mobileGateway zone (.config current.id))
      blueprint.resolve zone id
      blueprint.registerSims zone id []
      blueprint.finish zone id) := by
  rw [conclude]
  refine bind_congr fun _ => ?_
  rw [resolve]
  cases blueprint.dns with
  | some dns => rfl
  | none => exact (pure_bind _ _).symm

/-- A build of a gateway validates it, creates it, waits for it, plugs it in, updates it with the
hash that the wait has seen, and concludes. -/
theorem build_eq (blueprint : MobileGatewayBlueprint) :
    blueprint.build zone = (do
      blueprint.validate zone
      let created ← Build.call "create mobile gateway"
        (.mobileGateway zone (.create blueprint.createRequest))
      let ready ← Wait.untilReady "mobile gateway" created.id
        (Build.attempt (.mobileGateway zone (.read created.id))) blueprint.timing.wait
      blueprint.connect zone created.id
      let _ ← Build.call "update mobile gateway"
        (.mobileGateway zone (.update ready.id (blueprint.updateRequest ready.settingsHash)))
      blueprint.conclude zone created.id ready) := by
  rw [build]
  refine bind_congr fun _ => bind_congr fun created => bind_congr fun ready => ?_
  rw [connect]
  cases blueprint.interface with
  | some interface =>
      rw [applySettings]
      exact bind_congr fun _ => bind_assoc _ _ _
  | none => exact bind_assoc _ _ _

/-- The setting of resolvers is orderly when it is allowed. -/
theorem resolve_orderly (blueprint : MobileGatewayBlueprint)
    (resolves : ∀ dns, allowed (.mobileGateway zone (.setDns id dns))) :
    Orderly allowed (blueprint.resolve zone id).run := by
  rw [resolve]
  split
  · exact .call rfl (resolves _)
  · exact .pure _

/-- The end of a build of a gateway is orderly when its traffic may be limited and the gateway may
be booted and read. -/
theorem finish_orderly (blueprint : MobileGatewayBlueprint)
    (shapes : ∀ traffic, allowed (.mobileGateway zone (.setTrafficConfig id traffic)))
    (boots : allowed (.mobileGateway zone (.boot id)))
    (looks : allowed (.mobileGateway zone (.read id))) :
    Orderly allowed (blueprint.finish zone id).run := by
  have boot : Orderly allowed (do
      if blueprint.bootAfterCreate then
        (mobileGatewayPower zone id).switch .boot blueprint.timing blueprint.noWait
      return .ofId id : Build BuildResult).run := by
    split
    · exact (Orderly.switch .mobileGateway boots looks _ _).bind fun _ => .pure _
    · exact .pure _
  rw [finish]
  cases blueprint.trafficConfig with
  | some traffic => exact .step rfl (shapes traffic) fun _ => boot
  | none => exact boot

/-- The conclusion of a build of a gateway is orderly when all of its parts are allowed. -/
theorem conclude_orderly (blueprint : MobileGatewayBlueprint) (current : MobileGateway)
    (configures : allowed (.mobileGateway zone (.config current.id)))
    (resolves : ∀ dns, allowed (.mobileGateway zone (.setDns id dns)))
    (adds : ∀ simId, allowed (.mobileGateway zone (.addSim id simId)))
    (assigns : ∀ sim ∈ blueprint.sims, allowed (.sim (.assignIp sim.simId sim.ipAddress)))
    (shapes : ∀ traffic, allowed (.mobileGateway zone (.setTrafficConfig id traffic)))
    (boots : allowed (.mobileGateway zone (.boot id)))
    (looks : allowed (.mobileGateway zone (.read id))) :
    Orderly allowed (blueprint.conclude zone id current).run := by
  rw [conclude_eq]
  refine .step rfl configures fun _ => (blueprint.resolve_orderly resolves).bind fun _ => ?_
  refine (blueprint.registerSims_orderly [] adds assigns).bind fun _ => ?_
  exact blueprint.finish_orderly shapes boots looks

/-- A build answers with the identifier of the gateway. -/
theorem finish_answers {Store : Type} {context : Context} {remote : Remote CloudService Store}
    {world : World Store} (blueprint : MobileGatewayBlueprint) :
    Yields context remote (blueprint.finish zone id) world (fun result _ => result = .ofId id)
      (fun _ _ => True) := by
  have boot (now : World Store) : Yields context remote (do
      if blueprint.bootAfterCreate then
        (mobileGatewayPower zone id).switch .boot blueprint.timing blueprint.noWait
      return .ofId id : Build BuildResult) now
      (fun result _ => result = .ofId id) (fun _ _ => True) := by
    split
    · exact .last fun _ _ => rfl
    · rfl
  rw [finish]
  cases blueprint.trafficConfig with
  | some traffic => exact .last fun _ => boot
  | none => exact boot world

theorem build_orderly (blueprint : MobileGatewayBlueprint) :
    Orderly Request.Preserves (blueprint.build zone).run := by
  rw [build_eq]
  refine (blueprint.validate_orderly.mono Request.preserves_of_looks).bind fun _ => ?_
  refine .step rfl ⟨rfl⟩ fun created => .bind (.untilReady (.inr (.inl rfl)) ⟨rfl⟩) fun _ => ?_
  refine (blueprint.connect_orderly fun _ => ⟨rfl⟩).bind fun _ => .step rfl ⟨rfl⟩ fun _ => ?_
  exact blueprint.conclude_orderly _ ⟨rfl⟩ (fun _ => ⟨rfl⟩) (fun _ => ⟨rfl⟩)
    (fun _ _ => ⟨rfl⟩) (fun _ => ⟨rfl⟩) ⟨rfl⟩ ⟨rfl⟩

theorem update_orderly (blueprint : MobileGatewayBlueprint) :
    Orderly Request.Preserves (blueprint.update zone).run := by
  refine (Orderly.lift _).bind fun _ => (Orderly.lift _).bind fun _ => ?_
  refine .step (.inl rfl) ⟨rfl⟩ fun current => ?_
  refine .bind (.step rfl ⟨rfl⟩ fun _ => .call rfl ⟨rfl⟩) fun _ => ?_
  exact (blueprint.registerSims_orderly _ (fun _ => ⟨rfl⟩) fun _ _ => ⟨rfl⟩).bind
    fun _ => .pure _

end MobileGatewayBlueprint

namespace ContainerRegistryBlueprint

theorem addUsers_orderly (users : List RegistryUser)
    (adds : ∀ user, allowed (.containerRegistry (.addUser id user))) :
    Orderly allowed (users.forM (addUser id)).run :=
  .forM fun _ _ => .call rfl (adds _)

theorem build_orderly (blueprint : ContainerRegistryBlueprint) :
    Orderly Request.Preserves blueprint.build.run := by
  refine (Orderly.lift _).bind fun _ => .step rfl ⟨rfl⟩ fun created => ?_
  refine .bind (.untilReady rfl ⟨rfl⟩) fun _ => ?_
  exact (addUsers_orderly _ fun _ => ⟨rfl⟩).bind fun _ => .pure _

theorem update_orderly (blueprint : ContainerRegistryBlueprint) :
    Orderly (fun _ => True) blueprint.update.run := by
  refine (Orderly.lift _).bind fun _ => (Orderly.lift _).bind fun _ => ?_
  refine .step rfl trivial fun current => (addUsers_orderly _ fun _ => trivial).bind fun _ => ?_
  exact .bind (.forM fun _ _ => .call rfl trivial) fun _ => .pure _

end ContainerRegistryBlueprint

namespace LocalRouterBlueprint

theorem applySettings_orderly (blueprint : LocalRouterBlueprint) (settingsHash : String)
    (updates : allowed (.localRouter (.updateSettings id blueprint.settings settingsHash))) :
    Orderly allowed (blueprint.applySettings id settingsHash).run :=
  .step rfl updates fun _ => .pure _

theorem build_orderly (blueprint : LocalRouterBlueprint) :
    Orderly Request.Preserves blueprint.build.run := by
  refine (blueprint.validate_orderly.mono Request.preserves_of_looks).bind fun _ => ?_
  refine .step rfl ⟨rfl⟩ fun created => .bind (.untilReady (.inr (.inr rfl)) ⟨rfl⟩) fun _ => ?_
  exact (blueprint.applySettings_orderly _ ⟨rfl⟩).bind fun _ => .pure _

theorem update_orderly (blueprint : LocalRouterBlueprint) :
    Orderly Request.Preserves blueprint.update.run := by
  refine (Orderly.lift _).bind fun _ => ?_
  refine (blueprint.validate_orderly.mono Request.preserves_of_looks).bind fun _ => ?_
  refine .step (.inr (.inl rfl)) ⟨rfl⟩ fun current => ?_
  exact (blueprint.applySettings_orderly _ ⟨rfl⟩).bind fun _ => .pure _

end LocalRouterBlueprint

end Provisioning
