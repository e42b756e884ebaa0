import Provisioning.Blueprint.Server
import Provisioning.Proofs.DiskBuild

/-!
Builds of servers. A validation finds the plan, what the interfaces refer to, the optical disc and
all disks. After that the server, its disks and its interfaces extend the cloud step by step, and in
quiet circumstances no step fails.
-/

namespace Provisioning

/-- These are the identifiers of the interfaces of a server. -/
def Server.interfaceIds (server : Server) : List ResourceId := server.interfaces.map Interface.id

namespace Cloud

variable {cloud : Cloud} {id : ResourceId} {change : Interface → Interface}

/-- A change of an interface that keeps its identifier keeps all identifiers. -/
theorem changeInterfaceIn_ids {interfaces changed : List Interface}
    (keeps : ∀ interface : Interface, (change interface).id = interface.id)
    (found : changeInterfaceIn id change interfaces = some changed) :
    changed.map Interface.id = interfaces.map Interface.id := by
  induction interfaces generalizing changed with
  | nil => nomatch found
  | cons interface rest inductionHypothesis =>
      rw [changeInterfaceIn] at found
      split at found
      · cases found
        rw [List.map_cons, List.map_cons, keeps]
      · obtain ⟨others, foundToo, rfl⟩ := Option.map_eq_some_iff.mp found
        rw [List.map_cons, List.map_cons, inductionHypothesis foundToo]

/-- An interface that is listed is found and changed. -/
theorem changeInterfaceIn_isSome (change : Interface → Interface) {interfaces : List Interface}
    (listed : id ∈ interfaces.map Interface.id) :
    (changeInterfaceIn id change interfaces).isSome := by
  induction interfaces with
  | nil => nomatch listed
  | cons interface rest inductionHypothesis =>
      rw [changeInterfaceIn]
      split
      · rfl
      next other =>
        rw [List.map_cons, List.mem_cons] at listed
        rw [Option.isSome_map]
        exact inductionHypothesis (listed.resolve_left fun same => other same.symm)

/-- An interface that is changed is in the list. -/
theorem changeInterfaceIn_lists {interfaces changed : List Interface}
    (found : changeInterfaceIn id change interfaces = some changed) :
    id ∈ interfaces.map Interface.id := by
  induction interfaces generalizing changed with
  | nil => nomatch found
  | cons interface rest inductionHypothesis =>
      rw [changeInterfaceIn] at found
      split at found
      next same => exact same ▸ List.mem_cons_self
      next =>
        obtain ⟨others, found, -⟩ := Option.map_eq_some_iff.mp found
        exact List.mem_cons_of_mem _ (inductionHypothesis found)

/-- The owner of an interface is listed, and the interface is changed in it. -/
theorem findInterfaceOwner_sound {entries : List (ResourceId × Server)} {owner : ResourceId}
    {changed : List Interface}
    (found : findInterfaceOwner id change entries = some (owner, changed)) :
    ∃ server, (owner, server) ∈ entries ∧
      changeInterfaceIn id change server.interfaces = some changed := by
  induction entries with
  | nil => nomatch found
  | cons entry rest inductionHypothesis =>
      obtain ⟨first, server⟩ := entry
      rw [findInterfaceOwner] at found
      split at found
      next interfaces inside =>
        cases found
        exact ⟨server, List.mem_cons_self, inside⟩
      next =>
        obtain ⟨server, member, inside⟩ := inductionHypothesis found
        exact ⟨server, List.mem_cons_of_mem _ member, inside⟩

/-- An interface of a stored server has an owner. -/
theorem findInterfaceOwner_isSome (change : Interface → Interface)
    {entries : List (ResourceId × Server)} {owner : ResourceId} {server : Server}
    (member : (owner, server) ∈ entries) (listed : id ∈ server.interfaceIds) :
    (findInterfaceOwner id change entries).isSome := by
  induction entries with
  | nil => nomatch member
  | cons entry rest inductionHypothesis =>
      obtain ⟨first, other⟩ := entry
      rw [findInterfaceOwner]
      split
      · rfl
      next missing =>
        rcases List.mem_cons.mp member with same | inside
        · cases same
          have found := changeInterfaceIn_isSome change listed
          rw [missing] at found
          nomatch found
        · exact inductionHypothesis inside

/-- A change of an interface that a stored server has leaves all identifiers of interfaces. -/
theorem changeInterface_yields {owner : ResourceId} {server : Server}
    {fails : RemoteError → Cloud → Prop}
    (keeps : ∀ interface : Interface, (change interface).id = interface.id)
    (stored : cloud.servers.get? owner = some server) (listed : id ∈ server.interfaceIds) :
    (changeInterface id change).Yields cloud
      (fun _ after => after = { cloud with servers := after.servers } ∧ ∀ other,
        (after.servers.get? other).map Server.interfaceIds =
          (cloud.servers.get? other).map Server.interfaceIds)
      fails := by
  have member := SortedMap.mem_of_find? stored
  obtain ⟨⟨holder, changed⟩, found⟩ :=
    Option.isSome_iff_exists.mp (findInterfaceOwner_isSome change member listed)
  obtain ⟨host, inside, changes⟩ := findInterfaceOwner_sound found
  have same := changeInterfaceIn_ids keeps changes
  have storedHost : cloud.servers.get? holder = some host :=
    SortedMap.find?_of_mem cloud.servers.ascending inside
  rw [CloudStep.yields_changeInterface, found]
  apply CloudStep.Yields.change _ _ storedHost
  refine ⟨rfl, fun other => ?_⟩
  refine (congrArg (Option.map Server.interfaceIds) (SortedMap.get?_insert _ _ _ _)).trans ?_
  split
  next here =>
    rw [here, storedHost]
    exact congrArg some same
  next => rfl

end Cloud

namespace ServerBlueprint

open Program Cloud

variable {quiet : Prop} {context : Context} {world : World Cloud} {zone : Zone} {base : Cloud}
  {blueprint : ServerBlueprint} {id : ResourceId} {drawn : Nat}

/-- A cloud that accepts a server with a plan has the plan, the packet filters of the interfaces,
the optical disc, and everything that the disks refer to. -/
structure Accepted (blueprint : ServerBlueprint) (planId : ResourceId) (cloud : Cloud) : Prop where
  plan : ∃ plan, cloud.serverPlans.find? (fun plan => plan.id == planId) = some plan
  filters : ∀ nic ∈ blueprint.nics, ∀ id, nic.packetFilterId.set? = some id →
    ∃ filter, cloud.packetFilters.get? id = some filter
  cdrom : ∀ id, blueprint.cdromId.set? = some id → ∃ cdrom, cloud.cdroms.get? id = some cdrom
  disks : ∀ disk ∈ blueprint.disks, disk.Accepted cloud

/-- The plan that is chosen is the only one that answers the query. -/
theorem choosePlan_eq_ok {query : ServerPlanQuery} {plans : List ServerPlan} {planId : ResourceId}
    (chosen : choosePlan query plans = .ok planId) :
    ∃ plan, plans.filter query.isAnsweredBy = [plan] ∧ plan.id = planId := by
  rw [choosePlan] at chosen
  split at chosen
  next plan only =>
    cases chosen
    exact ⟨plan, only, rfl⟩
  · nomatch chosen
  · nomatch chosen

/-- The only plan that answers a query is one of the plans. -/
theorem mem_of_filter_eq {query : ServerPlanQuery} {plans : List ServerPlan} {plan : ServerPlan}
    (only : plans.filter query.isAnsweredBy = [plan]) : plan ∈ plans :=
  List.mem_of_mem_filter (only ▸ List.mem_cons_self)

/-- A plan that is chosen is found under its identifier. -/
theorem find?_of_choosePlan {query : ServerPlanQuery} {plans : List ServerPlan}
    {planId : ResourceId} (chosen : choosePlan query plans = .ok planId) :
    ∃ plan, plans.find? (fun plan => plan.id == planId) = some plan := by
  obtain ⟨plan, only, rfl⟩ := choosePlan_eq_ok chosen
  apply Option.isSome_iff_exists.mp
  rw [List.find?_isSome]
  exact ⟨plan, mem_of_filter_eq only, beq_self_eq_true _⟩

/-- The plan that is resolved is one of the base. -/
theorem resolvePlan_yields (calm : Calm quiet context world) (looked : base.Looked world.store) :
    Yields context Cloud.remote (blueprint.resolvePlan zone) world
      (fun planId after => (Calm quiet context after ∧ base.Looked after.store) ∧
        ∃ plan, base.serverPlans.find? (fun plan => plan.id == planId) = some plan)
      (fun _ _ => True) := by
  rw [resolvePlan, yields_bind]
  apply yields_calm_look calm
  intro calmAfter
  have plans : (world.store.logging (.catalogue zone .findServerPlans)
      world.store.failures).serverPlans = base.serverPlans := by
    change world.store.serverPlans = base.serverPlans
    rw [looked.rest]
  rw [yields_liftExcept, plans]
  cases chosen : choosePlan blueprint.plan base.serverPlans with
  | error error => trivial
  | ok planId =>
      exact ⟨⟨calmAfter, looked.trans (.logging _ _)⟩, find?_of_choosePlan chosen⟩

/-- A packet filter is looked up when there is one. -/
theorem readPacketFilter_yields (nic : NicSpec) (calm : Calm quiet context world)
    (looked : base.Looked world.store) :
    Yields context Cloud.remote (do
      if let some id := nic.packetFilterId.set? then
        let _ ← Build.call "read packet filter" (.catalogue zone (.readPacketFilter id))) world
      (fun _ after => (Calm quiet context after ∧ base.Looked after.store) ∧
        ∀ id, nic.packetFilterId.set? = some id →
          ∃ filter, base.packetFilters.get? id = some filter)
      (fun _ _ => True) := by
  split
  next id present =>
    rw [yields_bind]
    apply (yields_calm_finds calm looked (.catalogue zone (.readPacketFilter id))
      packetFilterTable id rfl fun _ _ _ _ _ => rfl).mono
    · rintro - after ⟨goesOn, found⟩
      refine ⟨goesOn, fun other same => ?_⟩
      cases present.symm.trans same
      exact found
    · exact fun _ _ _ => trivial
  next absent => exact ⟨⟨calm, looked⟩, fun id present => absurd present (absent id)⟩

/-- After the validation of an interface its packet filter is found. -/
theorem validateNic_yields (nic : NicSpec) (calm : Calm quiet context world)
    (looked : base.Looked world.store) :
    Yields context Cloud.remote (validateNic zone nic) world
      (fun _ after => (Calm quiet context after ∧ base.Looked after.store) ∧
        ∀ id, nic.packetFilterId.set? = some id →
          ∃ filter, base.packetFilters.get? id = some filter)
      (fun _ _ => True) := by
  rw [validateNic]
  split
  next id _ =>
    apply (yields_calm_switch calm looked zone id).bind
    rintro - after ⟨⟨calm, looked⟩, -⟩
    exact readPacketFilter_yields nic calm looked
  next =>
    rw [yields_bind]
    exact .checked (fun _ => readPacketFilter_yields nic calm looked) fun _ _ => trivial

/-- After the search for an optical disc it is found when one is declared. -/
theorem readCdrom_yields (cdromId : ResourceId) (calm : Calm quiet context world)
    (looked : base.Looked world.store) :
    Yields context Cloud.remote (readCdrom zone cdromId) world
      (fun _ after => (Calm quiet context after ∧ base.Looked after.store) ∧
        ∀ id, cdromId.set? = some id → ∃ cdrom, base.cdroms.get? id = some cdrom)
      (fun _ _ => True) := by
  rw [readCdrom]
  split
  next id present =>
    rw [yields_bind]
    apply (yields_calm_finds calm looked (.catalogue zone (.readCdrom id)) cdromTable id rfl
      fun _ _ _ _ _ => rfl).mono
    · rintro - after ⟨goesOn, found⟩
      refine ⟨goesOn, fun other same => ?_⟩
      cases present.symm.trans same
      exact found
    · exact fun _ _ _ => trivial
  next absent => exact ⟨⟨calm, looked⟩, fun id present => absurd present (absent id)⟩

/-- A check that succeeds has found a plan with which the server is accepted. -/
theorem check_yields (calm : Calm quiet context world)
    (scattered : quiet ∨ world.store.Scattered) :
    Yields context Cloud.remote (blueprint.check zone) world
      (fun planId after => (Calm quiet context after ∧ world.store.Looked after.store) ∧
        blueprint.Accepted planId world.store)
      (fun _ _ => True) := by
  rw [check, yields_bind]
  refine .checked (fun _ => ?_) fun _ _ => trivial
  rw [yields_bind]
  refine .checked (fun _ => ?_) fun _ _ => trivial
  apply (resolvePlan_yields calm (.refl _)).bind
  rintro planId after ⟨goesOn, plan⟩
  have nics : Yields context Cloud.remote (blueprint.nics.forM (validateNic zone)) after
      (fun _ after => (Calm quiet context after ∧ world.store.Looked after.store) ∧
        ∀ nic ∈ blueprint.nics, ∀ id, nic.packetFilterId.set? = some id →
          ∃ filter, world.store.packetFilters.get? id = some filter)
      (fun _ _ => True) :=
    .forM _ _ (fun nic _ now ⟨calm, looked⟩ => validateNic_yields nic calm looked) goesOn
  apply nics.bind
  rintro - after ⟨⟨calm, looked⟩, filters⟩
  apply (readCdrom_yields blueprint.cdromId calm looked).bind
  rintro - after ⟨goesOn, cdrom⟩
  have disks : Yields context Cloud.remote
      (blueprint.disks.forM (DiskBlueprint.validate zone)) after
      (fun _ after => (Calm quiet context after ∧ world.store.Looked after.store) ∧
        ∀ disk ∈ blueprint.disks, disk.Accepted world.store)
      (fun _ _ => True) :=
    .forM _ _ (fun disk _ now ⟨calm, looked⟩ =>
      (disk.validate_yields calm looked scattered).mono (fun _ _ found => found)
        fun _ _ _ => trivial) goesOn
  apply disks.bind
  exact fun _ _ ⟨goesOn, disks⟩ => ⟨goesOn, plan, filters, cdrom, disks⟩

/-- There are as many new interfaces as uplinks. -/
theorem length_numberedInterfaces (last : UInt64) (uplinks : List SwitchConnection) :
    (numberedInterfaces last uplinks).length = uplinks.length := by
  induction uplinks generalizing last with
  | nil => rfl
  | cons uplink rest inductionHypothesis =>
      rw [numberedInterfaces, List.length_cons, List.length_cons, inductionHypothesis]

/-- New interfaces lie beyond the counter. -/
theorem numberedInterfaces_above {last : UInt64} {uplinks : List SwitchConnection}
    (room : last.toNat + uplinks.length < UInt64.size) :
    ∀ interface ∈ numberedInterfaces last uplinks, last.toNat < interface.id.value.toNat := by
  induction uplinks generalizing last with
  | nil => nofun
  | cons uplink rest inductionHypothesis =>
      rw [List.length_cons] at room
      have next : (last + 1).toNat = last.toNat + 1 := next_toNat (by omega)
      rw [numberedInterfaces]
      refine List.forall_mem_cons.mpr ⟨?_, fun interface member => ?_⟩
      · dsimp only
        omega
      · have above := inductionHypothesis (by omega) interface member
        omega

/-- A new server is stored with one interface for each declared one, and the counter has reached
everything that is stored. -/
structure Created (blueprint : ServerBlueprint) (base : Cloud) (server : Server) (cloud : Cloud) :
    Prop where
  grown : base.Extends cloud (1 + blueprint.nics.length)
  numbered : cloud.Numbered
  stored : cloud.servers.get? server.id = some server
  complete : server.interfaces.length = blueprint.nics.length

/-- A server is stored under the next number, and its interfaces draw the numbers after it. -/
theorem created_of_insert {cloud : Cloud} (numbered : cloud.Numbered) {server : Server}
    (named : server.id = ⟨cloud.lastId + 1⟩)
    (complete : server.interfaces.length = blueprint.nics.length)
    (room : cloud.lastId.toNat + (1 + blueprint.nics.length) < UInt64.size) :
    blueprint.Created cloud server
      { cloud with
        lastId := cloud.lastId + 1 + UInt64.ofNat blueprint.nics.length
        servers := cloud.servers.insert server.id server } := by
  have next : (cloud.lastId + 1).toNat = cloud.lastId.toNat + 1 := next_toNat (by omega)
  have counted : (cloud.lastId + 1 + UInt64.ofNat blueprint.nics.length).toNat =
      cloud.lastId.toNat + (1 + blueprint.nics.length) := by
    have few : (UInt64.ofNat blueprint.nics.length).toNat = blueprint.nics.length :=
      UInt64.toNat_ofNat_of_lt' (by omega)
    rw [UInt64.toNat_add, next, few, Nat.add_assoc]
    exact Nat.mod_eq_of_lt room
  have grown : cloud.Extends
      { cloud with
        lastId := cloud.lastId + 1 + UInt64.ofNat blueprint.nics.length
        servers := cloud.servers.insert server.id server } (1 + blueprint.nics.length) := {
    (Looked.refl cloud).extends_zero with
    counted := counted
    interfaces := fun id early => by
      have apart : id ≠ server.id := named ▸ ne_next (by omega) early
      dsimp only
      rw [SortedMap.get?_insert, if_neg apart] }
  refine ⟨grown, ?_, SortedMap.get?_insert_self _ _ _, complete⟩
  exact {
    disks := fun id disk stored => grown.reached (numbered.disks id disk stored)
    archives := fun id archive stored => grown.reached (numbered.archives id archive stored)
    sshKeys := fun id key stored => grown.reached (numbered.sshKeys id key stored)
    notes := fun id note stored => grown.reached (numbered.notes id note stored)
    servers := fun id other stored => by
      rw [SortedMap.get?_insert] at stored
      split at stored
      next same =>
        rw [same, named, Reached, counted, next]
        omega
      next => exact grown.reached (numbered.servers id other stored) }

/-- A server that is created after a call was logged is created in the cloud before the call. -/
theorem Created.of_logging {request : Request} {failures : List (Endpoint × RemoteError)}
    {server : Server} {cloud : Cloud}
    (created : blueprint.Created (base.logging request failures) server cloud) :
    blueprint.Created base server cloud where
  grown := Nat.zero_add (1 + _) ▸ (Looked.logging request failures).extends_zero.trans created.grown
  numbered := created.numbered
  stored := created.stored
  complete := created.complete

/-- A server is created with a plan that is there, and in quiet circumstances its creation does not
fail. -/
theorem create_yields (calm : Calm quiet context world) (numbered : world.store.Numbered)
    {planId : ResourceId} {plan : ServerPlan}
    (found : world.store.serverPlans.find? (fun plan => plan.id == planId) = some plan)
    (room : world.store.lastId.toNat + (1 + blueprint.nics.length) < UInt64.size) :
    Yields context Cloud.remote
      (Build.call "create server" (.server zone (.create (blueprint.createRequest planId)))) world
      (fun server after => Calm quiet context after ∧
        blueprint.Created world.store server after.store)
      (fun error _ => error.Excused quiet) := by
  apply yields_calm_call calm
  rw [answerRequest, answerServer, createServer, CloudStep.yields_bind,
    CloudStep.yields_findServerPlan]
  let request : Request := .server zone (.create (blueprint.createRequest planId))
  have foundToo : (world.store.logging request world.store.failures).serverPlans.find?
      (fun plan => plan.id == (blueprint.createRequest planId).planId) = some plan := found
  rw [foundToo]
  dsimp only
  rw [CloudStep.yields_bind, CloudStep.yields_allocate, CloudStep.yields_bind,
    CloudStep.yields_createInterfaces, createRequest, List.length_map]
  intro calmAfter
  refine ⟨calmAfter, Created.of_logging (created_of_insert
    ((Looked.logging request world.store.failures).numbered numbered) rfl ?_ room)⟩
  rw [length_numberedInterfaces, List.length_map]

/-- The disks of a server draw their numbers one after the other. -/
def drawsOf (disks : List DiskBlueprint) : Nat :=
  disks.foldr (fun disk later => disk.draws + later) 0

/-- Disks that were accepted before are built one after the other, each validated once more. -/
theorem buildDisks_yields {disks : List DiskBlueprint} {timing : Timing}
    (calm : Calm quiet context world) (numbered : base.Numbered)
    (scattered : quiet ∨ base.Scattered) (hosted : quiet → DiskBlueprint.Hosted id base)
    (before : base.Extends world.store drawn) (accepted : ∀ disk ∈ disks, disk.Accepted base)
    (room : base.lastId.toNat + (drawn + drawsOf disks) < UInt64.size)
    (covers : quiet → timing.wait.Covers (base.settleReads - 1)) :
    Yields context Cloud.remote (buildDisks zone id timing disks) world
      (fun _ after => Calm quiet context after ∧
        base.Extends after.store (drawn + drawsOf disks))
      (fun error _ => error.Excused quiet) := by
  induction disks generalizing world drawn with
  | nil => exact ⟨calm, before⟩
  | cons disk rest inductionHypothesis =>
      obtain ⟨acceptedHere, acceptedRest⟩ := List.forall_mem_cons.mp accepted
      rw [drawsOf, List.foldr_cons, ← drawsOf, ← Nat.add_assoc drawn] at room ⊢
      apply (disk.build_yields calm numbered scattered hosted before acceptedHere (by omega)
        covers).bind
      rintro built after ⟨calm, grown⟩
      exact (inductionHypothesis calm grown acceptedRest room).bind fun _ _ all => all

/-- The wiring stays the same when packet filters, optical discs and the identifiers of interfaces
do. -/
structure SameWiring (before after : Cloud) : Prop where
  packetFilters : after.packetFilters = before.packetFilters
  cdroms : after.cdroms = before.cdroms
  interfaceIds : ∀ id, (after.servers.get? id).map Server.interfaceIds =
    (before.servers.get? id).map Server.interfaceIds

namespace SameWiring

variable {before middle after : Cloud}

theorem refl (cloud : Cloud) : SameWiring cloud cloud := ⟨rfl, rfl, fun _ => rfl⟩

theorem trans (first : SameWiring before middle) (second : SameWiring middle after) :
    SameWiring before after where
  packetFilters := second.packetFilters.trans first.packetFilters
  cdroms := second.cdroms.trans first.cdroms
  interfaceIds id := (second.interfaceIds id).trans (first.interfaceIds id)

/-- A server is still there, and its interfaces have the same identifiers. -/
theorem server (same : SameWiring before after) {server : Server}
    (stored : before.servers.get? id = some server) :
    ∃ found, after.servers.get? id = some found ∧ found.interfaceIds = server.interfaceIds := by
  have kept := same.interfaceIds id
  rw [stored, Option.map_some] at kept
  exact Option.map_eq_some_iff.mp kept

end SameWiring

/-- A request that changes an interface of a stored server keeps the wiring. -/
theorem changeInterface_wiring {request : Request} {failures : List (Endpoint × RemoteError)}
    {owner interfaceId : ResourceId} {server : Server} {fails : RemoteError → Cloud → Prop}
    (change : Interface → Interface)
    (keeps : ∀ interface : Interface, (change interface).id = interface.id)
    (stored : base.servers.get? owner = some server) (listed : interfaceId ∈ server.interfaceIds) :
    (changeInterface interfaceId change).Yields (base.logging request failures)
      (fun _ after => SameWiring base after) fails := by
  have storedNow : (base.logging request failures).servers.get? owner = some server := stored
  apply (changeInterface_yields keeps storedNow listed).mono
  · rintro - after ⟨rest, ids⟩
    exact ⟨by rw [rest]; rfl, by rw [rest]; rfl, ids⟩
  · exact fun _ _ failure => failure

/-- An interface is shown with an address when one is declared. -/
theorem displayAddress_yields {server found : Server} {nic : NicSpec} {interfaceId : ResourceId}
    (calm : Calm quiet context world) (wiring : SameWiring base world.store)
    (stored : base.servers.get? server.id = some found)
    (listed : interfaceId ∈ found.interfaceIds) :
    Yields context Cloud.remote (do
      if let some address := nic.displayIpAddress then
        Build.call "update interface"
          (.server zone (.updateInterface interfaceId { userIpAddress := some address }))) world
      (fun _ after => Calm quiet context after ∧ SameWiring base after.store)
      (fun error _ => error.Excused quiet) := by
  split
  next address _ =>
    obtain ⟨owner, storedNow, sameNow⟩ := wiring.server stored
    rw [← sameNow] at listed
    apply yields_calm_call calm
    rw [answerRequest, answerServer]
    apply (changeInterface_wiring
      (fun interface => { interface with userIpAddress := some address }) (fun _ => rfl)
      storedNow listed).mono
    · exact fun _ _ kept calmAfter => ⟨calmAfter, wiring.trans kept⟩
    · exact fun _ _ noisy => noisy
  next => exact ⟨calm, wiring⟩

/-- An interface of a stored server is connected and shown as declared. -/
theorem configureNic_yields {server found : Server} {index : Nat} {nic : NicSpec}
    (calm : Calm quiet context world) (inside : index < server.interfaces.length)
    (stored : world.store.servers.get? server.id = some found)
    (same : found.interfaceIds = server.interfaceIds)
    (filters : ∀ id, nic.packetFilterId.set? = some id →
      ∃ filter, world.store.packetFilters.get? id = some filter) :
    Yields context Cloud.remote (configureNic zone server index nic) world
      (fun _ after => Calm quiet context after ∧ SameWiring world.store after.store)
      (fun error _ => error.Excused quiet) := by
  rw [configureNic]
  split
  · exact ⟨calm, .refl _⟩
  have inPlace : findInterface server index = .ok server.interfaces[index] := by
    rw [findInterface, List.getElem?_eq_getElem inside]
  have listed : server.interfaces[index].id ∈ found.interfaceIds :=
    same ▸ List.mem_map_of_mem (List.getElem_mem inside)
  generalize server.interfaces[index] = interface at inPlace listed
  rw [yields_bind, yields_liftExcept, inPlace]
  dsimp only
  split
  next filterId present =>
    obtain ⟨filter, storedFilter⟩ := filters filterId present
    have connected : Yields context Cloud.remote
        (Build.call "connect packet filter"
          (.server zone (.connectToPacketFilter interface.id filterId))) world
        (fun _ after => Calm quiet context after ∧ SameWiring world.store after.store)
        (fun error _ => error.Excused quiet) := by
      apply yields_calm_call calm
      rw [answerRequest, answerServer, CloudStep.yields_bind]
      apply CloudStep.Yields.find _ _ storedFilter
      apply (changeInterface_wiring
        (fun interface => { interface with packetFilterId := filterId }) (fun _ => rfl)
        stored listed).mono
      · exact fun _ _ kept calmAfter => ⟨calmAfter, kept⟩
      · exact fun _ _ noisy => noisy
    apply connected.bind
    rintro - after ⟨calm, wiring⟩
    exact displayAddress_yields calm wiring stored listed
  next => exact displayAddress_yields calm (.refl _) stored listed

/-- All interfaces are configured, and the wiring stays as it was before the first one. -/
theorem configureNics_yields {server found : Server} {index : Nat} {nics : List NicSpec}
    (calm : Calm quiet context world)
    (complete : index + nics.length = server.interfaces.length)
    (stored : base.servers.get? server.id = some found)
    (same : found.interfaceIds = server.interfaceIds)
    (filters : ∀ nic ∈ nics, ∀ id, nic.packetFilterId.set? = some id →
      ∃ filter, base.packetFilters.get? id = some filter)
    (wiring : SameWiring base world.store) :
    Yields context Cloud.remote (configureNics zone server index nics) world
      (fun _ after => Calm quiet context after ∧ SameWiring base after.store)
      (fun error _ => error.Excused quiet) := by
  induction nics generalizing world index with
  | nil => exact ⟨calm, wiring⟩
  | cons nic rest inductionHypothesis =>
      obtain ⟨filterHere, filtersRest⟩ := List.forall_mem_cons.mp filters
      rw [List.length_cons] at complete
      obtain ⟨now, storedNow, sameNow⟩ := wiring.server stored
      rw [← wiring.packetFilters] at filterHere
      apply (configureNic_yields calm (by omega) storedNow (sameNow.trans same) filterHere).bind
      rintro - after ⟨calm, kept⟩
      exact inductionHypothesis calm (by omega) filtersRest (wiring.trans kept)

/-- An optical disc that is there is inserted into a stored server, and in quiet circumstances this
does not fail. -/
theorem insertCdrom_yields {cdromId : ResourceId} {server : Server}
    (calm : Calm quiet context world) (stored : world.store.servers.get? id = some server)
    (cdrom : ∀ wanted, cdromId.set? = some wanted →
      ∃ cdrom, world.store.cdroms.get? wanted = some cdrom) :
    Yields context Cloud.remote (insertCdrom zone id cdromId) world
      (fun _ after => Calm quiet context after ∧
        ∃ server, after.store.servers.get? id = some server)
      (fun error _ => error.Excused quiet) := by
  rw [insertCdrom]
  split
  next wanted present =>
    obtain ⟨disc, storedDisc⟩ := cdrom wanted present
    apply yields_calm_call calm
    rw [answerRequest, answerServer, CloudStep.yields_bind]
    apply CloudStep.Yields.find _ _ storedDisc
    rw [CloudStep.yields_bind]
    apply CloudStep.Yields.change _ _ stored
    exact fun calmAfter => ⟨calmAfter, _, SortedMap.get?_insert_self _ _ _⟩
  next => exact ⟨calm, server, stored⟩

/-- A server is stored, and its instance is up. -/
def Up (id : ResourceId) (cloud : Cloud) : Prop :=
  ∃ server, cloud.servers.get? id = some server ∧ server.instanceStatus = .up

/-- In quiet circumstances the boot of a stored server does not fail. -/
theorem boot_yields {server : Server} (calm : Calm quiet context world)
    (stored : world.store.servers.get? id = some server)
    (covers : quiet → blueprint.timing.wait.Covers 0) :
    Yields context Cloud.remote (blueprint.boot zone id) world
      (fun _ after => Calm quiet context after) (fun error _ => error.Excused quiet) := by
  rw [boot]
  apply ((serverPower zone id).switch_yields
    (fun cloud => ∃ server, cloud.servers.get? id = some server) (Up id)
    _ _ calm (fun _ => ⟨server, stored⟩) covers).mono
  · exact fun _ after booted => booted.1
  · exact fun _ _ excused => excused
  · rintro now calmNow ⟨found, storedNow⟩
    apply yields_calm_attempt calmNow
    · rw [answerRequest, answerServer, CloudStep.yields_bind]
      apply CloudStep.Yields.change _ _ storedNow
      exact fun calmAfter => ⟨calmAfter, _, SortedMap.get?_insert_self _ _ _, rfl⟩
    · exact fun noisy _ _ => noisy
  · rintro now calmNow ⟨found, storedNow, isUp⟩
    have reads : Yields context Cloud.remote (Build.attempt (.server zone (.read id))) now
        (fun seen after => Calm quiet context after ∧ seen.instanceStatus = .up ∧
          after.timeline = now.timeline ∧ Up id after.store)
        (fun _ _ => ¬ quiet) := by
      apply yields_calm_attempt calmNow
      · rw [answerRequest, answerServer]
        apply CloudStep.Yields.find _ _ storedNow
        exact fun calmAfter => ⟨calmAfter, isUp, rfl, found, storedNow, isUp⟩
      · exact fun noisy _ _ => noisy
    exact reads.bind fun _ _ seen => seen

/-- A build draws a number for its server, one for each interface, and those of its disks. -/
def draws (blueprint : ServerBlueprint) : Nat :=
  1 + blueprint.nics.length + drawsOf blueprint.disks

/-- A build of a server goes on after its check. -/
theorem build_goesOn (blueprint : ServerBlueprint) (calm : Calm quiet context world)
    (numbered : world.store.Numbered) (scattered : quiet ∨ world.store.Scattered)
    (room : world.store.lastId.toNat + blueprint.draws < UInt64.size)
    (covers : quiet → blueprint.timing.wait.Covers (world.store.settleReads - 1)) :
    GoesOn quiet context Cloud.remote (blueprint.check zone) (blueprint.build zone) world := by
  rw [draws] at room
  refine ⟨_, rfl, (check_yields calm scattered).mono ?_ fun _ _ _ => trivial⟩
  rintro planId checked ⟨⟨calm, looked⟩, accepted⟩
  have counted : checked.store.lastId = world.store.lastId := by rw [looked.rest]
  have plans : checked.store.serverPlans = world.store.serverPlans := by rw [looked.rest]
  obtain ⟨plan, found⟩ := accepted.plan
  rw [← plans] at found
  apply (create_yields calm (looked.numbered numbered) found (by rw [counted]; omega)).bind
  rintro server created ⟨calm, new⟩
  have grown : world.store.Extends created.store (1 + blueprint.nics.length) :=
    Nat.zero_add (1 + _) ▸ looked.extends_zero.trans new.grown
  have disks : ∀ disk ∈ blueprint.disks, disk.Accepted created.store :=
    fun disk member => (accepted.disks disk member).extended numbered grown
  have coversAfter : quiet → blueprint.timing.wait.Covers (created.store.settleReads - 1) :=
    grown.settleReads ▸ covers
  have start := (Looked.refl created.store).extends_zero
  apply (buildDisks_yields calm new.numbered (scattered.imp_right (grown.scattered numbered))
    (fun _ => .inr ⟨server, new.stored⟩) start disks (by rw [grown.counted]; omega)
    coversAfter).bind
  rintro key equipped ⟨calm, all⟩
  obtain ⟨found, stored, same⟩ := all.server new.numbered new.stored
  have kept := grown.trans all
  have filters : ∀ nic ∈ blueprint.nics, ∀ id, nic.packetFilterId.set? = some id →
      ∃ filter, equipped.store.packetFilters.get? id = some filter := by
    rw [kept.packetFilters]
    exact accepted.filters
  have sameIds : found.interfaceIds = server.interfaceIds := by
    rw [Server.interfaceIds, same, Server.interfaceIds]
  apply (configureNics_yields calm (by rw [new.complete, Nat.zero_add]) stored sameIds filters
    (.refl _)).bind
  rintro - wired ⟨calm, wiring⟩
  obtain ⟨now, storedNow, -⟩ := wiring.server stored
  have cdrom : ∀ id, blueprint.cdromId.set? = some id →
      ∃ cdrom, wired.store.cdroms.get? id = some cdrom := by
    rw [wiring.cdroms, kept.cdroms]
    exact accepted.cdrom
  apply (insertCdrom_yields calm storedNow cdrom).bind
  rintro - loaded ⟨calm, last, storedLast⟩
  split
  · exact (boot_yields calm storedLast fun silent => (covers silent).zero).bind
      fun _ _ _ => trivial
  · trivial

end ServerBlueprint

end Provisioning
