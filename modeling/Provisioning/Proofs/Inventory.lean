import Provisioning.Proofs.Keys

/-!
The inventory of a cloud. Each record is kept under its own identifier, whether it was seeded or has
been created or moved by a call, and whatever is new bears a number that the call has drawn.
-/

namespace Provisioning

open Cloud CloudStep

namespace SortedMap

variable {κ ν : Type} [LT κ] [DecidableEq κ] [KeyOrder κ] {map : SortedMap κ ν}

/-- The keys of a map are those under which it finds a value. -/
theorem mem_keys {key : κ} : key ∈ map.keys ↔ ∃ value, map.get? key = some value := by
  constructor
  · intro listed
    obtain ⟨entry, member, same⟩ := List.mem_map.mp listed
    exact ⟨entry.2, find?_of_mem map.ascending (same ▸ member)⟩
  · rintro ⟨value, stored⟩
    exact List.mem_map.mpr ⟨(key, value), mem_of_find? stored, rfl⟩

/-- The values of a map are those that it finds under some key. -/
theorem mem_values {value : ν} : value ∈ map.values ↔ ∃ key, map.get? key = some value := by
  constructor
  · intro listed
    obtain ⟨entry, member, same⟩ := List.mem_map.mp listed
    exact ⟨entry.1, find?_of_mem map.ascending (same ▸ member)⟩
  · rintro ⟨key, stored⟩
    exact List.mem_map.mpr ⟨(key, value), mem_of_find? stored, rfl⟩

end SortedMap

/-- A seed is put into a cloud before the cloud is called. -/
inductive Seed where
  | disk (disk : Disk)
  | archive (archive : Archive)
  | diskPlan (id : ResourceId) (name : String) (sizes : List UInt32)
  | sshKey (key : SshKey)
  | note (note : Note)
  | server (server : Server)
  | serverPlan (plan : ServerPlan)
  | switch (id : ResourceId)
  | packetFilter (id : ResourceId)
  | cdrom (id : ResourceId)
  | sim (id : ResourceId)
  | registry (registry : ContainerRegistry)
  | localRouter (router : LocalRouter)

/-- A seed bears its own identifier, and a server also bears those of its interfaces. -/
def Seed.ids : Seed → List ResourceId
  | .disk record => [record.id]
  | .archive record => [record.id]
  | .sshKey record => [record.id]
  | .note record => [record.id]
  | .server record => record.id :: record.interfaceIds
  | .serverPlan record => [record.id]
  | .diskPlan id _ _ | .switch id | .packetFilter id | .cdrom id | .sim id => [id]
  | .registry record => [record.id]
  | .localRouter record => [record.id]

/-- A registry is seeded with its users. -/
def Seed.userNames : Seed → List String
  | .registry record => record.userNames
  | _ => []

/-- A server is known by its own identifier and by those of its interfaces. -/
def Server.identity (server : Server) : ResourceId × List ResourceId :=
  (server.id, server.interfaceIds)

namespace Cloud

def seed (cloud : Cloud) : Seed → Cloud
  | .disk disk => cloud.seedDisk disk
  | .archive archive => cloud.seedArchive archive
  | .diskPlan id name sizes => cloud.seedDiskPlan id name sizes
  | .sshKey key => cloud.seedSshKey key
  | .note note => cloud.seedNote note
  | .server server => cloud.seedServer server
  | .serverPlan plan => cloud.seedServerPlan plan
  | .switch id => cloud.seedSwitch id
  | .packetFilter id => cloud.seedPacketFilter id
  | .cdrom id => cloud.seedCdrom id
  | .sim id => cloud.seedSim id
  | .registry registry => cloud.seedRegistry registry
  | .localRouter router => cloud.seedLocalRouter router

/-- A cloud of a certain patience is seeded while it is new. -/
def seeded (settleReads : Nat) (seeds : List Seed) : Cloud :=
  seeds.foldl seed (Cloud.empty.withSettleReads settleReads)

/-- These are the identifiers of all interfaces, server by server. -/
def interfaceIds (cloud : Cloud) : List ResourceId :=
  cloud.servers.values.flatMap Server.interfaceIds

/-- These are the identifiers that records and interfaces bear, kind by kind. -/
def shelves (cloud : Cloud) : List (List ResourceId) :=
  [cloud.disks.keys, cloud.archives.keys, cloud.diskPlans.keys, cloud.sshKeys.keys,
    cloud.notes.keys, cloud.servers.keys, cloud.interfaceIds, cloud.serverPlans.map ServerPlan.id,
    cloud.switches.keys, cloud.packetFilters.keys, cloud.cdroms.keys, cloud.databases.keys,
    cloud.vpcRouters.keys, cloud.mobileGateways.keys, cloud.sims.keys, cloud.registries.keys,
    cloud.localRouters.keys]

/-- These are all identifiers that records and interfaces bear. -/
def inventory (cloud : Cloud) : List ResourceId := cloud.shelves.flatten

/-- All records of a keyed cloud have their own keys, and all identifiers are allowed. -/
structure Keyed (allowed : ResourceId → Prop) (cloud : Cloud) : Prop where
  disks : Each (OwnKey allowed Disk.id) cloud.disks
  archives : Each (OwnKey allowed Archive.id) cloud.archives
  diskPlans : Each (OwnKey allowed DiskPlan.id) cloud.diskPlans
  sshKeys : Each (OwnKey allowed SshKey.id) cloud.sshKeys
  notes : Each (OwnKey allowed Note.id) cloud.notes
  servers : Each (OwnKey allowed Server.id) cloud.servers
  interfaces : Each (fun _ server => ∀ id ∈ server.interfaceIds, allowed id) cloud.servers
  serverPlans : ∀ plan ∈ cloud.serverPlans, allowed plan.id
  switches : Each (OwnKey allowed Switch.id) cloud.switches
  packetFilters : Each (OwnKey allowed PacketFilter.id) cloud.packetFilters
  cdroms : Each (OwnKey allowed Cdrom.id) cloud.cdroms
  databases : Each (OwnKey allowed Database.id) cloud.databases
  vpcRouters : Each (OwnKey allowed VpcRouter.id) cloud.vpcRouters
  mobileGateways : Each (OwnKey allowed MobileGateway.id) cloud.mobileGateways
  sims : Each (OwnKey allowed Sim.id) cloud.sims
  registries : Each (OwnKey allowed ContainerRegistry.id) cloud.registries
  localRouters : Each (OwnKey allowed LocalRouter.id) cloud.localRouters

variable {allowed : ResourceId → Prop} {cloud : Cloud}

/-- This is what becomes of the servers of a cloud when some numbers are drawn. All of them keep
their identities, one is removed, one is built with the numbers, or one moves to the only number. -/
inductive Rehosts (before after : Cloud) (count : Nat) : Prop where
  | kept (same : serverTable.ShowsSame Server.identity before after)
  | removed (id : ResourceId) (written : after.servers = before.servers.erase id)
  | built (server : Server)
      (numbered : server.id :: server.interfaceIds =
        (numbersAfter before.lastId count).map ResourceId.mk)
      (written : after.servers = before.servers.insert server.id server)
  | moved (former server : Server) (id : ResourceId) (single : count = 1)
      (stored : before.servers.get? id = some former) (named : server.id = ⟨before.lastId + 1⟩)
      (interfaces : server.interfaceIds = former.interfaceIds)
      (written : after.servers = (before.servers.erase id).insert server.id server)

/-- New interfaces bear the next numbers of the counter in order. -/
theorem numberedInterfaces_ids (last : UInt64) (uplinks : List SwitchConnection) :
    (numberedInterfaces last uplinks).map Interface.id =
      (numbersAfter last uplinks.length).map ResourceId.mk := by
  induction uplinks generalizing last with
  | nil => rfl
  | cons uplink rest inductionHypothesis =>
      simp only [numberedInterfaces, numbersAfter, List.length_cons, List.map_cons,
        inductionHypothesis]

/-- A change of an interface that keeps its identifier keeps the identity of every server. -/
theorem changeInterface_showsSame {id : ResourceId} {change : Interface → Interface}
    (keeps : ∀ interface : Interface, (change interface).id = interface.id) :
    (changeInterface id change).Yields cloud
      (fun _ after => serverTable.ShowsSame Server.identity cloud after)
      (fun _ after => serverTable.ShowsSame Server.identity cloud after) := by
  rw [yields_changeInterface]
  split
  next owner interfaces found =>
    obtain ⟨server, member, changes⟩ := findInterfaceOwner_sound found
    have stored : cloud.servers.get? owner = some server :=
      SortedMap.find?_of_mem cloud.servers.ascending member
    apply Yields.change _ _ stored
    refine .of_insert stored rfl ?_
    exact congrArg (Prod.mk server.id) (changeInterfaceIn_ids keeps changes)
  next => exact .of_read_eq rfl

/-- A call about a server that succeeds removes a server, builds one or moves one at most, and a
call that fails keeps the identity of every server. -/
theorem answerServer_rehosts (zone : Zone) (call : ServerCall) :
    (answerServer call).Yields cloud
      (fun _ after => cloud.Rehosts after (Request.server zone call).draws)
      (fun _ after => serverTable.ShowsSame Server.identity cloud after) := by
  have changes (id : ResourceId) (edit : Server → Server)
      (hidden : ∀ server, (edit server).identity = server.identity) :
      (serverTable.change id edit).Yields cloud
        (fun _ after => serverTable.ShowsSame Server.identity cloud after)
        (fun _ after => serverTable.ShowsSame Server.identity cloud after) :=
    (Table.ShowsSame.change serverTable_lawful hidden).mono (fun _ _ shown => shown.1)
      fun _ _ same => same
  have kept {α : Type} {step : CloudStep α} {count : Nat}
      (shows : step.Yields cloud (fun _ after => serverTable.ShowsSame Server.identity cloud after)
        (fun _ after => serverTable.ShowsSame Server.identity cloud after)) :
      step.Yields cloud (fun _ after => cloud.Rehosts after count)
        (fun _ after => serverTable.ShowsSame Server.identity cloud after) :=
    shows.mono (fun _ _ same => .kept same) fun _ _ same => same
  cases call with
  | create request =>
      rw [answerServer, createServer, yields_bind, yields_findServerPlan]
      split
      next plan found =>
        rw [yields_bind, yields_allocate, yields_bind, yields_createInterfaces]
        refine .built (request.record plan cloud.lastId) ?_ rfl
        rw [Server.interfaceIds, ServerCreateRequest.record, numberedInterfaces_ids, Request.draws,
          Nat.add_comm]
        rfl
      next => exact .of_read_eq rfl
  | read id =>
      rw [answerServer, yields_find]
      split
      · exact .kept (.of_read_eq rfl)
      · exact .of_read_eq rfl
  | update id request => exact kept (changes id _ fun _ => rfl)
  | delete id =>
      rw [answerServer, yields_remove]
      split
      · exact .removed id rfl
      · exact .of_read_eq rfl
  | boot id | ejectCdrom id cdromId =>
      exact kept ((yields_bind _ _).mpr (changes id _ fun _ => rfl))
  | shutdown id force => exact kept ((yields_bind _ _).mpr (changes id _ fun _ => rfl))
  | changePlan id planId =>
      simp only [answerServer, changeServerPlan, yields_bind, yields_findServerPlan, yields_find]
      split
      · split
        next former stored =>
          split
          · exact .of_read_eq rfl
          · exact .moved former (former.moved ⟨cloud.lastId + 1⟩ _) id rfl stored rfl rfl rfl
        next => exact .of_read_eq rfl
      · exact .of_read_eq rfl
  | insertCdrom id cdromId =>
      rw [answerServer, yields_bind, yields_find]
      split
      · exact kept ((yields_bind _ _).mpr (changes id _ fun _ => rfl))
      · exact .of_read_eq rfl
  | connectToPacketFilter interfaceId packetFilterId =>
      rw [answerServer, yields_bind, yields_find]
      split
      · exact kept (changeInterface_showsSame fun _ => rfl)
      · exact .of_read_eq rfl
  | updateInterface interfaceId request => exact kept (changeInterface_showsSame fun _ => rfl)

/-- Calls about disks only change the lists of disks that servers have. -/
theorem answerDisk_showsSame (call : DiskCall) :
    (answerDisk call).Yields cloud
      (fun _ after => serverTable.ShowsSame Server.identity cloud after)
      (fun _ after => serverTable.ShowsSame Server.identity cloud after) := by
  have creates (request : DiskCreateRequest) (edit : Option DiskEditRequest) :
      (createDisk request edit).Yields cloud
        (fun _ after => serverTable.ShowsSame Server.identity cloud after)
        (fun _ after => serverTable.ShowsSame Server.identity cloud after) := by
    have lists : serverTable.ShowsSame Server.identity cloud (cloud.withDisk request edit) := by
      intro id
      change ((cloud.servers.modify _ _).get? id).map _ = (cloud.servers.get? id).map _
      rw [SortedMap.get?_modify]
      split
      · exact Option.map_map _ _ _
      · rfl
    rw [yields_createDisk]
    repeat' split
    · exact lists
    · exact .of_read_eq rfl
    · exact lists
  cases call with
  | create request distantFrom => exact creates request none
  | createWithConfig request edit bootAtAvailable distantFrom => exact creates request (some edit)
  | read id =>
      simp only [answerDisk, yields_readSettling, yields_change, yields_find]
      repeat' split
      all_goals exact .of_read_eq rfl
  | update id request =>
      rw [answerDisk, yields_change]
      split <;> exact .of_read_eq rfl
  | delete id =>
      rw [answerDisk, yields_remove]
      split <;> exact .of_read_eq rfl
  | connectToServer id serverId =>
      rw [answerDisk, connectDisk, yields_bind, yields_change]
      split
      next server stored =>
        have lists {after : Cloud}
            (written : after.servers = cloud.servers.insert serverId
              { server with diskIds := server.diskIds ++ [id] }) :
            serverTable.ShowsSame Server.identity cloud after := .of_insert stored written rfl
        rw [yields_bind, yields_change]
        split <;> exact lists rfl
      next => exact .of_read_eq rfl
  | config id edit =>
      rw [answerDisk, configureDisk, yields_bind, yields_change]
      split <;> exact .of_read_eq rfl

/-- A call rehosts the servers with the numbers that it draws. -/
theorem call_rehosts (request : Request) (cloud : Cloud) :
    cloud.Rehosts (Cloud.call request cloud).2 (cloud.drawn request) := by
  obtain ⟨failures, written⟩ := call_footprint request cloud
  cases request with
  | disk zone call =>
      exact call_elim (motive := fun _ after => cloud.Rehosts after (cloud.drawn (.disk zone call)))
        (fun _ _ _ => .kept (.of_read_eq rfl))
        fun _ => (answerDisk_showsSame call).mono (fun _ _ same => .kept same)
          fun _ _ same => .kept same
  | server zone call =>
      unfold drawn
      refine call_elim (motive := fun outcome after => cloud.Rehosts after
        (if ((Request.server zone call).endpoint.takeFirst cloud.failures).isSome then 0
          else if outcome.isOk then (Request.server zone call).draws
          else (Request.server zone call).drawsInVain)) ?_ ?_
      · exact fun _ _ _ => .kept (.of_read_eq rfl)
      · intro quiet
        rw [quiet]
        apply (answerServer_rehosts zone call).mono
        · intro _ after rehosts
          cases rehosts with
          | kept same => exact .kept same
          | removed id written => exact .removed id written
          | built server numbered written => exact .built server numbered written
          | moved former server id single stored named interfaces written =>
              exact .moved former server id single stored named interfaces written
        · exact fun _ _ same => .kept same
  | _ =>
      rw [written]
      exact .kept (.of_read_eq rfl)

section Rehosts

variable {before after : Cloud} {count : Nat}

/-- Rehosted servers are kept under their own identifiers, and those of new ones and of their
interfaces are allowed when the numbers are. -/
theorem Rehosts.keyed (rehosts : before.Rehosts after count)
    (allots : ∀ number ∈ numbersAfter before.lastId count, allowed ⟨number⟩)
    (keyed : Each (OwnKey allowed Server.id) before.servers)
    (interfaces : Each (fun _ server => ∀ id ∈ server.interfaceIds, allowed id) before.servers) :
    Each (OwnKey allowed Server.id) after.servers ∧
      Each (fun _ server => ∀ id ∈ server.interfaceIds, allowed id) after.servers := by
  cases rehosts with
  | kept same =>
      let own (id : ResourceId) (shown : ResourceId × List ResourceId) : Prop :=
        shown.1 = id ∧ allowed id
      let wired (_ : ResourceId) (shown : ResourceId × List ResourceId) : Prop :=
        ∀ id ∈ shown.2, allowed id
      exact ⟨same.each own keyed, same.each wired interfaces⟩
  | removed id written =>
      rw [written]
      exact ⟨keyed.erase, interfaces.erase⟩
  | built server numbered written =>
      have new : ∀ id ∈ server.id :: server.interfaceIds, allowed id := by
        rw [numbered]
        exact List.forall_mem_map.mpr allots
      rw [written]
      exact ⟨keyed.insert ⟨rfl, new _ List.mem_cons_self⟩,
        interfaces.insert fun id listed => new id (List.mem_cons_of_mem _ listed)⟩
  | moved former server id single stored named kept written =>
      subst single
      rw [written]
      refine ⟨keyed.erase.insert ⟨rfl, ?_⟩, interfaces.erase.insert ?_⟩
      · rw [named]
        exact allots _ List.mem_cons_self
      · rw [kept]
        exact interfaces id former stored

end Rehosts

/-- A call keeps a cloud keyed when the numbers that it draws are allowed. -/
theorem Keyed.call (keyed : cloud.Keyed allowed) (request : Request)
    (allots : ∀ number ∈ numbersAfter cloud.lastId (cloud.drawn request), allowed ⟨number⟩) :
    (call request cloud).2.Keyed allowed := by
  obtain ⟨failures, written⟩ := call_footprint request cloud
  obtain ⟨servers, interfaces⟩ :=
    (call_rehosts request cloud).keyed allots keyed.servers keyed.interfaces
  cases request with
  | disk zone call =>
      have disks := maintained_call
        (fun cloud => Each (OwnKey allowed Disk.id) cloud.disks) (.disk zone call)
        (fun _ => keyed.disks) (answerDisk_keyed zone call keyed.disks) allots
      rw [written]
      exact { keyed with disks, servers, interfaces }
  | catalogue zone call =>
      rw [written]
      exact { keyed with }
  | credential call =>
      have credentials := maintained_call (fun cloud =>
        Each (OwnKey allowed SshKey.id) cloud.sshKeys ∧ Each (OwnKey allowed Note.id) cloud.notes)
        (.credential call) (fun _ => ⟨keyed.sshKeys, keyed.notes⟩)
        (answerCredential_keyed call keyed.sshKeys keyed.notes) allots
      rw [written]
      exact { keyed with sshKeys := credentials.1, notes := credentials.2 }
  | server zone call =>
      have disks := maintained_call (fun cloud => Each (OwnKey allowed Disk.id) cloud.disks)
        (.server zone call) (fun _ => keyed.disks)
        (maintained (answerServer_maintains_disks call) keyed.disks) allots
      rw [written]
      exact { keyed with disks, servers, interfaces }
  | database zone call =>
      have databases := maintained_call
        (fun cloud => Each (OwnKey allowed Database.id) cloud.databases) (.database zone call)
        (fun _ => keyed.databases) (answerDatabase_keyed zone call keyed.databases) allots
      rw [written]
      exact { keyed with databases }
  | vpcRouter zone call =>
      have vpcRouters := maintained_call
        (fun cloud => Each (OwnKey allowed VpcRouter.id) cloud.vpcRouters) (.vpcRouter zone call)
        (fun _ => keyed.vpcRouters) (answerVpcRouter_keyed zone call keyed.vpcRouters) allots
      rw [written]
      exact { keyed with vpcRouters }
  | mobileGateway zone call =>
      have mobileGateways := maintained_call
        (fun cloud => Each (OwnKey allowed MobileGateway.id) cloud.mobileGateways)
        (.mobileGateway zone call) (fun _ => keyed.mobileGateways)
        (answerMobileGateway_keyed zone call keyed.mobileGateways) allots
      rw [written]
      exact { keyed with mobileGateways }
  | sim call =>
      have sims := maintained_call (fun cloud => Each (OwnKey allowed Sim.id) cloud.sims)
        (.sim call) (fun _ => keyed.sims)
        (maintained (answerSim_maintains_sims call) keyed.sims) allots
      rw [written]
      exact { keyed with sims }
  | containerRegistry call =>
      have registries := maintained_call
        (fun cloud => Each (OwnKey allowed ContainerRegistry.id) cloud.registries)
        (.containerRegistry call) (fun _ => keyed.registries)
        (answerRegistry_keyed call keyed.registries) allots
      rw [written]
      exact { keyed with registries }
  | localRouter call =>
      have localRouters := maintained_call
        (fun cloud => Each (OwnKey allowed LocalRouter.id) cloud.localRouters) (.localRouter call)
        (fun _ => keyed.localRouters) (answerLocalRouter_keyed call keyed.localRouters) allots
      rw [written]
      exact { keyed with localRouters }

/-- All identifiers of a keyed cloud are allowed. -/
theorem Keyed.of_mem (keyed : cloud.Keyed allowed) {id : ResourceId}
    (member : id ∈ cloud.inventory) : allowed id := by
  have own {ρ : Type} {idOf : ρ → ResourceId} {records : Records ρ}
      (each : Each (OwnKey allowed idOf) records) : ∀ id ∈ records.keys, allowed id := by
    intro id listed
    obtain ⟨record, stored⟩ := SortedMap.mem_keys.mp listed
    exact (each id record stored).2
  have interfaces : ∀ id ∈ cloud.interfaceIds, allowed id := by
    intro id listed
    obtain ⟨server, member, inside⟩ := List.mem_flatMap.mp listed
    obtain ⟨key, stored⟩ := SortedMap.mem_values.mp member
    exact keyed.interfaces key server stored id inside
  have all : ∀ shelf ∈ cloud.shelves, ∀ id ∈ shelf, allowed id := by
    simp only [shelves, List.forall_mem_cons, List.forall_mem_map]
    exact ⟨own keyed.disks, own keyed.archives, own keyed.diskPlans, own keyed.sshKeys,
      own keyed.notes, own keyed.servers, interfaces, keyed.serverPlans, own keyed.switches,
      own keyed.packetFilters, own keyed.cdroms, own keyed.databases, own keyed.vpcRouters,
      own keyed.mobileGateways, own keyed.sims, own keyed.registries, own keyed.localRouters,
      List.forall_mem_nil _⟩
  obtain ⟨shelf, shelved, inside⟩ := List.mem_flatten.mp member
  exact all shelf shelved id inside

/-- A keyed cloud is keyed by whatever its inventory is. -/
theorem Keyed.of_inventory {other : ResourceId → Prop} (keyed : cloud.Keyed allowed)
    (allows : ∀ id ∈ cloud.inventory, other id) : cloud.Keyed other := by
  have shelf : ∀ shelf ∈ cloud.shelves, ∀ id ∈ shelf, other id := fun shelf shelved id inside =>
    allows id (List.mem_flatten.mpr ⟨shelf, shelved, inside⟩)
  simp only [shelves, List.forall_mem_cons, List.forall_mem_map] at shelf
  obtain ⟨disks, archives, diskPlans, sshKeys, notes, servers, interfaces, serverPlans, switches,
    packetFilters, cdroms, databases, vpcRouters, mobileGateways, sims, registries, localRouters,
    -⟩ := shelf
  have own {ρ : Type} {idOf : ρ → ResourceId} {records : Records ρ}
      (each : Each (OwnKey allowed idOf) records) (keys : ∀ id ∈ records.keys, other id) :
      Each (OwnKey other idOf) records := fun id record stored =>
    ⟨(each id record stored).1, keys id (SortedMap.mem_keys.mpr ⟨record, stored⟩)⟩
  exact {
    disks := own keyed.disks disks
    archives := own keyed.archives archives
    diskPlans := own keyed.diskPlans diskPlans
    sshKeys := own keyed.sshKeys sshKeys
    notes := own keyed.notes notes
    servers := own keyed.servers servers
    interfaces := fun key server stored id inside =>
      interfaces id (List.mem_flatMap.mpr ⟨server, SortedMap.mem_values.mpr ⟨key, stored⟩, inside⟩)
    serverPlans := serverPlans
    switches := own keyed.switches switches
    packetFilters := own keyed.packetFilters packetFilters
    cdroms := own keyed.cdroms cdroms
    databases := own keyed.databases databases
    vpcRouters := own keyed.vpcRouters vpcRouters
    mobileGateways := own keyed.mobileGateways mobileGateways
    sims := own keyed.sims sims
    registries := own keyed.registries registries
    localRouters := own keyed.localRouters localRouters }

theorem each_empty {ρ : Type} (holds : ResourceId → ρ → Prop) : Each holds .empty := by
  intro id record stored
  nomatch stored

/-- An empty cloud is keyed. -/
theorem keyed_empty (settleReads : Nat) :
    (Cloud.empty.withSettleReads settleReads).Keyed allowed := by
  constructor
  case serverPlans => exact List.forall_mem_nil _
  all_goals exact each_empty _

/-- A keyed cloud is keyed with one more seed whose identifiers are allowed. -/
theorem Keyed.seed (keyed : cloud.Keyed allowed) (seed : Seed)
    (allows : ∀ id ∈ seed.ids, allowed id) : (cloud.seed seed).Keyed allowed := by
  have own : ∀ {id rest}, seed.ids = id :: rest → allowed id :=
    fun same => allows _ (same ▸ List.mem_cons_self)
  cases seed with
  | disk record => exact { keyed with disks := keyed.disks.insert ⟨rfl, own rfl⟩ }
  | archive record => exact { keyed with archives := keyed.archives.insert ⟨rfl, own rfl⟩ }
  | diskPlan id name sizes =>
      exact { keyed with diskPlans := keyed.diskPlans.insert ⟨rfl, own rfl⟩ }
  | sshKey record => exact { keyed with sshKeys := keyed.sshKeys.insert ⟨rfl, own rfl⟩ }
  | note record => exact { keyed with notes := keyed.notes.insert ⟨rfl, own rfl⟩ }
  | server record =>
      exact { keyed with
        servers := keyed.servers.insert ⟨rfl, own rfl⟩
        interfaces := keyed.interfaces.insert fun id inside =>
          allows id (List.mem_cons_of_mem _ inside) }
  | serverPlan plan =>
      refine { keyed with serverPlans := fun other listed => ?_ }
      rcases List.mem_append.mp listed with former | new
      · exact keyed.serverPlans other former
      · exact List.mem_singleton.mp new ▸ own rfl
  | switch id => exact { keyed with switches := keyed.switches.insert ⟨rfl, own rfl⟩ }
  | packetFilter id =>
      exact { keyed with packetFilters := keyed.packetFilters.insert ⟨rfl, own rfl⟩ }
  | cdrom id => exact { keyed with cdroms := keyed.cdroms.insert ⟨rfl, own rfl⟩ }
  | sim id => exact { keyed with sims := keyed.sims.insert ⟨rfl, own rfl⟩ }
  | registry record => exact { keyed with registries := keyed.registries.insert ⟨rfl, own rfl⟩ }
  | localRouter record =>
      exact { keyed with localRouters := keyed.localRouters.insert ⟨rfl, own rfl⟩ }

/-- What holds of an empty cloud and lasts from seed to seed holds of a seeded cloud. -/
theorem seeded_elim {motive : Cloud → Prop} (settleReads : Nat) (seeds : List Seed)
    (empty : motive (Cloud.empty.withSettleReads settleReads))
    (step : ∀ cloud, ∀ seed ∈ seeds, motive cloud → motive (cloud.seed seed)) :
    motive (seeded settleReads seeds) :=
  List.foldlRecOn seeds Cloud.seed empty fun cloud holds seed listed =>
    step cloud seed listed holds

/-- A seeded cloud is keyed when the identifiers of all seeds are allowed. -/
theorem keyed_seeded (settleReads : Nat) (seeds : List Seed)
    (allows : ∀ seed ∈ seeds, ∀ id ∈ seed.ids, allowed id) :
    (seeded settleReads seeds).Keyed allowed := by
  exact seeded_elim settleReads seeds (keyed_empty settleReads)
    fun _ seed listed keyed => keyed.seed seed (allows seed listed)

/-- A keyed cloud is keyed after an event whose numbers are allowed. -/
theorem Keyed.handle (keyed : cloud.Keyed allowed) (event : Event)
    (allots : ∀ number ∈ cloud.numbers event, allowed ⟨number⟩) :
    (cloud.handle event).Keyed allowed := by
  cases event with
  | announce endpoint times error => exact { keyed with }
  | call request => exact keyed.call request allots

/-- A run keeps a cloud keyed when the numbers of its ledger are allowed. -/
theorem Keyed.through (keyed : cloud.Keyed allowed) (events : List Event)
    (allots : ∀ number ∈ cloud.ledger events, allowed ⟨number⟩) :
    (cloud.through events).Keyed allowed := by
  induction events generalizing cloud with
  | nil => exact keyed
  | cons event rest inductionHypothesis =>
      obtain ⟨now, later⟩ := List.forall_mem_append.mp allots
      exact inductionHypothesis (keyed.handle event now) later

/-- Whatever a run adds to the inventory bears a number of its ledger. -/
theorem Keyed.inventory_through (keyed : cloud.Keyed allowed) (events : List Event)
    {id : ResourceId} (member : id ∈ (cloud.through events).inventory) :
    id ∈ cloud.inventory ∨ id.value ∈ cloud.ledger events := by
  let known (id : ResourceId) : Prop := id ∈ cloud.inventory ∨ id.value ∈ cloud.ledger events
  have keyed : cloud.Keyed known := keyed.of_inventory fun _ listed => .inl listed
  exact (keyed.through events fun _ drawn => .inr drawn).of_mem member

/-- A cloud is reachable when it comes about from an empty one by seeds, calls and announcements, by
other patience, and by clearing the log. -/
inductive Reachable : Cloud → Prop where
  | empty : Reachable .empty
  | seeded {cloud : Cloud} (reachable : Reachable cloud) (seed : Seed) : Reachable (cloud.seed seed)
  | handled {cloud : Cloud} (reachable : Reachable cloud) (event : Event) :
      Reachable (cloud.handle event)
  | patient {cloud : Cloud} (reachable : Reachable cloud) (settleReads : Nat) :
      Reachable (cloud.withSettleReads settleReads)
  | cleared {cloud : Cloud} (reachable : Reachable cloud) : Reachable cloud.clearCalls

/-- Every reachable cloud keeps its records under their own identifiers. -/
theorem Reachable.keyed (reachable : cloud.Reachable) : cloud.Keyed fun _ => True := by
  induction reachable with
  | empty => exact keyed_empty 2
  | seeded reachable seed keyed => exact keyed.seed seed fun _ _ => trivial
  | handled reachable event keyed => exact keyed.handle event fun _ _ => trivial
  | patient reachable settleReads keyed => exact { keyed with }
  | cleared reachable keyed => exact { keyed with }

end Cloud

end Provisioning
