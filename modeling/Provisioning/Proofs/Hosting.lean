import Provisioning.Proofs.OrderlyPlans
import Provisioning.Proofs.ServerBuild

/-!
How a cloud hosts a server. The cloud stores the server as it is, its disks are connected to it, and
its interfaces belong to no other server. Looks and calls about keys and notes keep this, and every
other call of a build changes the server in one respect.
-/

namespace Provisioning

/-- An idle request looks, or it is about keys and notes. -/
def Request.Idle (request : Request) : Prop := request.Looks ∨ ∃ call, request = .credential call

/-- A server lists more disks. -/
def Server.listing (server : Server) (ids : List ResourceId) : Server :=
  { server with diskIds := server.diskIds ++ ids }

/-- A server that lists more disks twice lists them one after the other. -/
@[simp] theorem Server.listing_listing (server : Server) (first more : List ResourceId) :
    (server.listing first).listing more = server.listing (first ++ more) := by
  simp only [listing, List.append_assoc]

namespace Cloud

open CloudStep

variable {cloud before after : Cloud} {server next : Server}

/-- The hosting stays the same when the servers do and each disk is connected as before. -/
structure SameHosting (before after : Cloud) : Prop where
  servers : after.servers = before.servers
  serverPlans : after.serverPlans = before.serverPlans
  hosts : ∀ id, (after.disks.get? id).map Disk.serverId = (before.disks.get? id).map Disk.serverId

theorem SameHosting.refl (cloud : Cloud) : SameHosting cloud cloud := ⟨rfl, rfl, fun _ => rfl⟩

theorem SameHosting.trans {middle : Cloud} (first : SameHosting before middle)
    (second : SameHosting middle after) : SameHosting before after where
  servers := second.servers.trans first.servers
  serverPlans := second.serverPlans.trans first.serverPlans
  hosts id := (second.hosts id).trans (first.hosts id)

/-- A disk that settles stays where it is connected. -/
theorem readDisk_sameHosting (id : ResourceId) :
    (answerDisk (.read id)).Yields cloud (fun _ after => SameHosting cloud after)
      (fun _ after => SameHosting cloud after) := by
  have settles {disk : Disk} (stored : cloud.disks.get? id = some disk) (pending : Records Nat)
      (availability : Availability) : SameHosting cloud
        { cloud with
          pending := pending
          disks := cloud.disks.insert id { disk with availability } } := by
    refine ⟨rfl, rfl, fun other => ?_⟩
    simp only [SortedMap.get?_insert]
    split
    next here => rw [here, stored]; rfl
    next => rfl
  simp only [answerDisk, yields_readSettling, yields_change, yields_find, diskTable]
  cases stored : cloud.disks.get? id with
  | none => exact .refl cloud
  | some disk =>
      dsimp only
      cases cloud.pending.get? id with
      | none => exact settles stored cloud.pending _
      | some left =>
          dsimp only
          split
          · exact ⟨rfl, rfl, fun _ => rfl⟩
          · exact settles stored _ _

/-- An idle call leaves the hosting as it is, whether it succeeds or fails. -/
theorem call_sameHosting {request : Request} (idle : request.Idle) (cloud : Cloud) :
    SameHosting cloud (call request cloud).2 := by
  have logged (failures : List (Endpoint × RemoteError)) :
      SameHosting cloud (cloud.logging request failures) := ⟨rfl, rfl, fun _ => rfl⟩
  obtain ⟨failures, written⟩ := call_footprint request cloud
  cases request with
  | disk zone call =>
      have reads : ∃ id, call = .read id := by
        rcases idle with looks | ⟨_, same⟩
        · cases call <;> first | exact ⟨_, rfl⟩ | nomatch looks
        · nomatch same
      obtain ⟨id, rfl⟩ := reads
      refine call_elim (motive := fun _ after => SameHosting cloud after) ?_ fun _ => ?_
      · exact fun _ failures _ => logged failures
      · apply (readDisk_sameHosting id).mono
        · exact fun _ _ same => (logged _).trans same
        · exact fun _ _ same => (logged _).trans same
  | catalogue | credential | sim | localRouter =>
      rw [written]
      exact ⟨rfl, rfl, fun _ => rfl⟩
  | server | database | vpcRouter | mobileGateway | containerRegistry =>
      rcases idle with looks | ⟨_, same⟩
      · nomatch looks
      · nomatch same

/-- A cloud hosts a server when it stores the server as it is, when the disks of the server are
connected to it, and when no other server has one of its interfaces. -/
structure Hosts (server : Server) (cloud : Cloud) : Prop where
  stored : cloud.servers.get? server.id = some server
  disks : ∀ id ∈ server.diskIds, (cloud.disks.get? id).map Disk.serverId = some server.id
  sole : ∀ id other, cloud.servers.get? id = some other → id ≠ server.id →
    ∀ interface ∈ other.interfaceIds, interface ∉ server.interfaceIds

namespace Hosts

/-- A cloud hosts a server as long as its hosting stays the same. -/
theorem of_same (hosts : before.Hosts server) (same : SameHosting before after) :
    after.Hosts server where
  stored := same.servers ▸ hosts.stored
  disks id listed := (same.hosts id).trans (hosts.disks id listed)
  sole := same.servers ▸ hosts.sole

/-- Another record of the server takes its place. -/
theorem replace (hosts : before.Hosts server) (named : next.id = server.id)
    (interfaces : next.interfaceIds = server.interfaceIds)
    (servers : ∀ id, after.servers.get? id =
      if id = server.id then some next else before.servers.get? id)
    (disks : ∀ id ∈ next.diskIds, (after.disks.get? id).map Disk.serverId = some server.id) :
    after.Hosts next where
  stored := by rw [named, servers, if_pos rfl]
  disks := named ▸ disks
  sole id other stored apart := by
    rw [named] at apart
    rw [servers, if_neg apart] at stored
    rw [interfaces]
    exact hosts.sole id other stored apart

/-- A cloud hosts the next version of a server when the identifier, the interfaces and the disks are
those of the last one. -/
theorem write (hosts : cloud.Hosts server) (named : next.id = server.id)
    (interfaces : next.interfaceIds = server.interfaceIds)
    (diskIds : next.diskIds = server.diskIds) :
    Hosts next { cloud with servers := cloud.servers.insert server.id next } :=
  hosts.replace named interfaces (SortedMap.get?_insert cloud.servers server.id · next)
    (diskIds ▸ hosts.disks)

/-- A disk that is created for the server is connected to it. -/
theorem createDisk (hosts : cloud.Hosts server) {request : DiskCreateRequest}
    (meant : request.serverId = server.id) (edit : Option DiskEditRequest) :
    (createDisk request edit).Yields cloud
      (fun disk after => after.Hosts (server.listing [disk.id]))
      (fun _ _ => True) := by
  have created : (cloud.withDisk request edit).Hosts (server.listing [⟨cloud.lastId + 1⟩]) := by
    apply hosts.replace
    · rfl
    · rfl
    · intro id
      rw [withDisk, meant, SortedMap.get?_modify]
      split
      next here => rw [here, hosts.stored]; rfl
      next => rfl
    · intro id listed
      rw [withDisk, SortedMap.get?_insert]
      split
      next => exact congrArg some meant
      next other =>
        have earlier := (List.mem_append.mp listed).resolve_right fun last =>
          other (List.mem_singleton.mp last)
        exact hosts.disks id earlier
  rw [yields_createDisk]
  split
  · exact created
  · split
    · trivial
    · exact created

/-- A disk that is stored already is connected to the server. -/
theorem connectDisk (hosts : cloud.Hosts server) (id : ResourceId) :
    (connectDisk id server.id).Yields cloud
      (fun _ after => after.Hosts (server.listing [id]))
      (fun _ _ => True) := by
  rw [Cloud.connectDisk, yields_bind]
  apply CloudStep.Yields.change _ _ hosts.stored
  rw [yields_bind, yields_change]
  split
  next disk stored =>
    rw [yields_pure]
    apply hosts.replace
    · rfl
    · rfl
    · exact fun other => SortedMap.get?_insert cloud.servers server.id other _
    · intro other listed
      have connected := SortedMap.get?_insert cloud.disks id other
        { disk with serverId := server.id }
      refine (congrArg (Option.map Disk.serverId) connected).trans ?_
      split
      next => rfl
      next apart =>
        have earlier := (List.mem_append.mp listed).resolve_right fun last =>
          apart (List.mem_singleton.mp last)
        exact hosts.disks other earlier
  next => trivial

end Hosts

/-- An interface is changed where it stands. -/
theorem changeInterfaceIn_append {id : ResourceId} (change : Interface → Interface)
    {before after : List Interface} {interface : Interface} (same : interface.id = id)
    (apart : ∀ other ∈ before, other.id ≠ id) :
    changeInterfaceIn id change (before ++ interface :: after) =
      some (before ++ change interface :: after) := by
  induction before with
  | nil => rw [List.nil_append, changeInterfaceIn, if_pos same, List.nil_append]
  | cons first rest inductionHypothesis =>
      obtain ⟨firstApart, restApart⟩ := List.forall_mem_cons.mp apart
      rw [List.cons_append, changeInterfaceIn, if_neg firstApart, inductionHypothesis restApart,
        Option.map_some, List.cons_append]

/-- A change of an interface is a change of its server and of no other. -/
theorem Hosts.changeInterface (hosts : cloud.Hosts server) {before after : List Interface}
    {interface : Interface} {change : Interface → Interface}
    (parts : server.interfaces = before ++ interface :: after)
    (distinct : server.interfaceIds.Nodup) (keeps : (change interface).id = interface.id) :
    (changeInterface interface.id change).Yields cloud
      (fun _ cloud =>
        cloud.Hosts { server with interfaces := before ++ change interface :: after })
      (fun _ _ => True) := by
  have ids : server.interfaceIds =
      before.map Interface.id ++ interface.id :: after.map Interface.id := by
    rw [Server.interfaceIds, parts, List.map_append, List.map_cons]
  have apart : ∀ other ∈ before, other.id ≠ interface.id := by
    intro other member same
    rw [ids] at distinct
    have separate := (List.nodup_append.mp distinct).2.2
    exact separate _ (List.mem_map_of_mem member) _ List.mem_cons_self same
  have own : interface.id ∈ server.interfaceIds :=
    ids ▸ List.mem_append_right _ List.mem_cons_self
  rw [yields_changeInterface]
  split
  next owner changed found =>
    obtain ⟨record, member, changes⟩ := findInterfaceOwner_sound found
    have stored : cloud.servers.get? owner = some record :=
      SortedMap.find?_of_mem cloud.servers.ascending member
    have listed : interface.id ∈ record.interfaceIds := changeInterfaceIn_lists changes
    have isOwner : owner = server.id :=
      Classical.byContradiction fun other => hosts.sole owner record stored other _ listed own
    subst isOwner
    cases hosts.stored.symm.trans stored
    rw [parts, changeInterfaceIn_append change rfl apart] at changes
    cases changes
    apply CloudStep.Yields.change _ _ hosts.stored
    apply hosts.write
    · rfl
    · rw [ids, Server.interfaceIds, List.map_append, List.map_cons, keeps]
    · rfl
  next => trivial

end Cloud

open Program Cloud

section Programs

variable {context : Context} {world : World Cloud} {server : Server} {zone : Zone}

/-- What holds of every answer to a call holds after the call, whatever failures are announced. -/
theorem Cloud.Hosts.call (hosts : world.store.Hosts server) {label : String} {request : Request}
    {changed : request.Answer → Server}
    (answered : ∀ cloud : Cloud, cloud.Hosts server → (answerRequest request).Yields cloud
      (fun value after => after.Hosts (changed value)) (fun _ _ => True)) :
    Yields context Cloud.remote (Build.call label request) world
      (fun value after => after.store.Hosts (changed value)) (fun _ _ => True) := by
  have logged : (world.store.logging request world.store.failures).Hosts server :=
    hosts.of_same ⟨rfl, rfl, fun _ => rfl⟩
  apply yields_calm_look (.of_noisy not_false)
  exact (answered _ logged).mono (fun _ _ changed _ => changed) fun _ _ _ => trivial

/-- Idle programs change nothing about a server. -/
theorem Cloud.Hosts.idle {α : Type} {program : Build α} (hosts : world.store.Hosts server)
    (idle : Orderly Request.Idle program.run) :
    Yields context Cloud.remote program world (fun _ after => after.store.Hosts server)
      (fun _ _ => True) := by
  apply (idle.keeps (fun cloud => cloud.Hosts server) _ hosts).onSuccess
  · exact fun _ _ kept => kept
  · exact fun request idle now hosts => hosts.of_same (call_sameHosting idle now.store)

namespace DiskBlueprint

end DiskBlueprint

end Programs

end Provisioning
