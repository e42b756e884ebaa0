import Provisioning.Proofs.ServerHosting

/-!
Updates of servers. An update revises one server and leaves everything else as it is, except that a
move to another plan gives the server another identifier, under which its disks follow. The main
statement tells the record of the server, the other servers and the disks after an update.
-/

namespace Provisioning

open Program Cloud

/-- A disk follows its server to another identifier. -/
def Disk.following (disk : Disk) (former id : ResourceId) : Disk :=
  if disk.serverId = former then { disk with serverId := id } else disk

/-- A disk that follows its server to where the server is stays as it is. -/
theorem Disk.following_self (disk : Disk) (id : ResourceId) : disk.following id id = disk := by
  rw [following]
  split
  next here => rw [← here]
  next => rfl

/-- A server that runs is shut down. -/
def Server.stopped (server : Server) : Server :=
  { server with
    instanceStatus := if server.instanceStatus = .up then .down else server.instanceStatus }

/-- A server moves to a plan under another identifier. -/
def Server.moved (server : Server) (id : ResourceId) (plan : ServerPlan) : Server :=
  { server with id, planId := plan.id, cpu := plan.cpu, memoryGb := plan.memoryGb }

/-- A request consults the remote when it is a call to the catalogue. -/
def Request.Consults (request : Request) : Prop := ∃ zone call, request = .catalogue zone call

namespace Cloud

variable {cloud base : Cloud} {server : Server}

/-- A server leaves its place for the next number, and its disks follow. -/
def vacating (cloud : Cloud) (id : ResourceId) : Cloud :=
  { cloud with
    lastId := cloud.lastId + 1
    servers := cloud.servers.erase id
    disks := cloud.disks.mapValues fun _ disk => disk.following id ⟨cloud.lastId + 1⟩ }

/-- A cloud revises a base in one server when it stores the record of the server and has the other
servers, the disks and the counter of the base. -/
structure Revises (cloud base : Cloud) (server : Server) : Prop where
  stored : cloud.servers.get? server.id = some server
  others : ∀ id, id ≠ server.id → cloud.servers.get? id = base.servers.get? id
  disks : cloud.disks = base.disks
  lastId : cloud.lastId = base.lastId

namespace Revises

/-- A cloud that revises a base in a server views the server. -/
theorem isServerView (base : Cloud) :
    IsServerView fun server cloud => cloud.Revises base server where
  stored revises := revises.stored
  logging _ _ revises := ⟨revises.stored, revises.others, revises.disks, revises.lastId⟩
  write _ revises named _ _ := by
    refine ⟨?_, fun id other => ?_, revises.disks, revises.lastId⟩
    · rw [named]
      exact SortedMap.get?_insert_self _ _ _
    · rw [named] at other
      exact (SortedMap.get?_insert _ _ _ _).trans ((if_neg other).trans (revises.others id other))

/-- A change of the plan revises the cloud that the server has left. -/
theorem changePlan (revises : cloud.Revises base server) (planId : ResourceId) :
    (changeServerPlan server.id planId).Yields cloud
      (fun moved after => ∃ plan, plan.id = planId ∧ moved = server.moved ⟨base.lastId + 1⟩ plan ∧
        after.Revises (base.vacating server.id) moved)
      (fun _ _ => True) := by
  rw [changeServerPlan, CloudStep.yields_bind, CloudStep.yields_findServerPlan]
  split
  next plan found =>
    have planned : plan.id = planId :=
      eq_of_beq (List.find?_some (p := fun other : ServerPlan => other.id == planId) found)
    rw [CloudStep.yields_bind]
    apply CloudStep.Yields.find _ _ revises.stored
    dsimp only
    split
    · trivial
    · rw [CloudStep.yields_bind, CloudStep.yields_allocate, CloudStep.yields_bind,
        CloudStep.yields_modify, revises.lastId]
      refine ⟨plan, planned, rfl, SortedMap.get?_insert_self _ _ _, fun id other => ?_, ?_, rfl⟩
      · refine (SortedMap.get?_insert _ _ _ _).trans ((if_neg other).trans ?_)
        rw [vacating, SortedMap.get?_erase, SortedMap.get?_erase]
        split
        · rfl
        next apart => exact revises.others id apart
      · let follow (_ : ResourceId) (disk : Disk) : Disk :=
          disk.following server.id ⟨base.lastId + 1⟩
        exact congrArg (fun disks : Records Disk => disks.mapValues follow) revises.disks
  next => trivial

end Revises

/-- A cloud that has only been consulted differs in its log and in the announced failures. -/
def Consulted (before after : Cloud) : Prop :=
  after = { before with calls := after.calls, failures := after.failures }

namespace Consulted

variable {start : Cloud}

theorem logging (consulted : start.Consulted cloud) (request : Request)
    (failures : List (Endpoint × RemoteError)) :
    start.Consulted (cloud.logging request failures) := by
  rw [consulted]
  rfl

theorem servers (consulted : start.Consulted cloud) : cloud.servers = start.servers := by
  rw [consulted]

theorem call (consulted : start.Consulted cloud) {request : Request} (consults : request.Consults) :
    start.Consulted (Cloud.call request cloud).2 := by
  obtain ⟨zone, call, rfl⟩ := consults
  obtain ⟨failures, written⟩ := call_footprint (.catalogue zone call) cloud
  rw [written]
  exact consulted.logging _ failures

/-- A program that only consults the cloud leaves it consulted. -/
theorem orderly {context : Context} {world : World Cloud} {α : Type} {program : Build α}
    (consulted : start.Consulted world.store) (consults : Orderly Request.Consults program.run) :
    Yields context Cloud.remote program world (fun _ last => start.Consulted last.store)
      (fun _ _ => True) :=
  (consults.keeps start.Consulted (fun _ consults _ consulted => consulted.call consults)
    consulted).onSuccess fun _ _ kept => kept

/-- A consulted cloud revises the cloud that it was, in any server that it stores. -/
theorem revises (consulted : start.Consulted cloud)
    (stored : start.servers.get? server.id = some server) : cloud.Revises start server := by
  rw [consulted]
  exact ⟨stored, fun _ _ => rfl, rfl, rfl⟩

end Consulted

end Cloud

namespace ServerBlueprint

variable {context : Context} {world : World Cloud} {zone : Zone} {server current : Server}
  {start base : Cloud}

/-- A server that is stopped is booted when it ran before or when the blueprint wants it to run. -/
def boots (blueprint : ServerBlueprint) (current : Server) (replans : Bool) : Bool :=
  let wasUp := current.instanceStatus == .up
  let isUp := wasUp && !replans
  !isUp && (wasUp || blueprint.bootAfterCreate)

/-- A server whose plan is settled gets its metadata and its optical disc, and it is booted unless
it runs already. -/
def refit (zone : Zone) (blueprint : ServerBlueprint) (current : Server) (replans : Bool)
    (id : ResourceId) : Build BuildResult := do
  let _ ← Build.call "update server" (.server zone (.update id blueprint.updateRequest))
  exchangeCdrom zone id current.cdromId blueprint.cdromId
  if blueprint.boots current replans then blueprint.boot zone id
  return .ofId id

/-- The plan is changed only when it differs. -/
def settlePlan (zone : Zone) (blueprint : ServerBlueprint) (current : Server)
    (planId : ResourceId) : Build ResourceId :=
  if current.planId != planId then blueprint.changePlan zone current planId else pure current.id

/-- An update checks its blueprint, resolves the plan, looks up the optical disc, reads the server,
settles the plan and refits the server. -/
theorem update_eq (blueprint : ServerBlueprint) :
    blueprint.update zone = (do
      Check.requireSet "server" "id" blueprint.id
      Check.requireNonBlank "server" "name" blueprint.name
      let planId ← blueprint.resolvePlan zone
      readCdrom zone blueprint.cdromId
      let current ← Build.call "read server" (.server zone (.read blueprint.id))
      let id ← blueprint.settlePlan zone current planId
      blueprint.refit zone current (current.planId != planId) id) := by
  rw [update]
  refine bind_congr fun _ => bind_congr fun _ => bind_congr fun planId => bind_congr fun _ =>
    bind_congr fun current => ?_
  rw [settlePlan]
  dsimp only
  split <;> rfl

/-- A server has the metadata of its blueprint. -/
def renamed (blueprint : ServerBlueprint) (server : Server) : Server :=
  { server with
    name := blueprint.name
    description := blueprint.description
    tags := blueprint.tags
    iconId := blueprint.iconId }

/-- This is the record of a server that has been updated. -/
def refitted (blueprint : ServerBlueprint) (boots : Bool) (server : Server) : Server :=
  { blueprint.renamed server with
    cdromId := blueprint.cdromId
    instanceStatus := if boots then .up else server.instanceStatus }

/-- Another optical disc takes the place of the one that is inserted. -/
theorem exchangeCdrom_revises {wanted : ResourceId} (revises : world.store.Revises base server) :
    Yields context Cloud.remote (exchangeCdrom zone server.id server.cdromId wanted) world
      (fun _ last => last.store.Revises base { server with cdromId := wanted })
      (fun _ _ => True) := by
  have isView := Revises.isServerView base
  let emptied : Server := { server with cdromId := .unset }
  have inserts (world : World Cloud) (revises : world.store.Revises base emptied) :
      Yields context Cloud.remote (insertCdrom zone emptied.id wanted) world
        (fun _ last => last.store.Revises base { server with cdromId := wanted })
        (fun _ _ => True) := isView.insertCdrom revises rfl
  rw [exchangeCdrom]
  split
  next same =>
    rw [← same]
    exact revises
  next =>
    cases inserted : server.cdromId.set? with
    | none =>
        have same : server = emptied := by
          rw [show emptied = { server with cdromId := .unset } from rfl,
            ← ResourceId.set?_eq_none inserted]
        exact inserts world (same ▸ revises)
    | some disc =>
        have ejects : Yields context Cloud.remote
            (Build.call "eject ISO image" (.server zone (.ejectCdrom server.id disc))) world
            (fun _ last => last.store.Revises base emptied) (fun _ _ => True) := by
          apply isView.call revises
          intro cloud revises
          rw [answerRequest, answerServer, CloudStep.yields_bind]
          exact isView.change revises rfl rfl rfl
        exact ejects.bind fun _ ejected revises => inserts ejected revises

/-- The metadata of the server are written. -/
theorem update_revises (blueprint : ServerBlueprint) (revises : world.store.Revises base server) :
    Yields context Cloud.remote
      (Build.call "update server" (.server zone (.update server.id blueprint.updateRequest))) world
      (fun _ last => last.store.Revises base (blueprint.renamed server)) (fun _ _ => True) := by
  have isView := Revises.isServerView base
  apply isView.call revises
  exact fun cloud revises => isView.change revises rfl rfl rfl

/-- A server whose plan is settled is refitted. -/
theorem refit_revises (blueprint : ServerBlueprint) {replans : Bool}
    (revises : world.store.Revises base server) (inserted : current.cdromId = server.cdromId) :
    Yields context Cloud.remote (blueprint.refit zone current replans server.id) world
      (fun result last => result = .ofId server.id ∧
        last.store.Revises base (blueprint.refitted (blueprint.boots current replans) server))
      (fun _ _ => True) := by
  have isView := Revises.isServerView base
  apply (blueprint.update_revises revises).bind
  intro _ renamed revises
  rw [inserted]
  apply (exchangeCdrom_revises revises).bind
  intro _ exchanged revises
  rw [refitted]
  cases blueprint.boots current replans with
  | false => exact ⟨rfl, revises⟩
  | true =>
      apply (isView.switch .boot blueprint.noWait revises).bind
      exact fun _ _ booted => ⟨rfl, booted⟩

/-- Another plan moves the server to the next number, stopped. -/
theorem changePlan_revises (blueprint : ServerBlueprint) (planId : ResourceId)
    (revises : world.store.Revises base server) :
    Yields context Cloud.remote (blueprint.changePlan zone server planId) world
      (fun id last => ∃ plan, plan.id = planId ∧ id = ⟨base.lastId + 1⟩ ∧
        last.store.Revises (base.vacating server.id) (server.stopped.moved id plan))
      (fun _ _ => True) := by
  have isView := Revises.isServerView base
  have moves (world : World Cloud) (server : Server) (revises : world.store.Revises base server) :
      Yields context Cloud.remote (do
        let changed ← Build.call "change server plan" (.server zone (.changePlan server.id planId))
        return changed.id) world
        (fun id last => ∃ plan, plan.id = planId ∧ id = ⟨base.lastId + 1⟩ ∧
          last.store.Revises (base.vacating server.id) (server.moved id plan))
        (fun _ _ => True) := by
    rw [yields_bind]
    apply yields_calm_look (.of_noisy not_false)
    have logged := isView.logging (.server zone (.changePlan server.id planId))
      world.store.failures revises
    apply (Revises.changePlan logged planId).mono
    · rintro _ after ⟨plan, planned, rfl, moved⟩ -
      exact ⟨plan, planned, rfl, moved⟩
    · exact fun _ _ _ => trivial
  rw [changePlan, Server.stopped]
  split
  · apply (isView.switch (.shutdown blueprint.forceShutdown) false revises).bind
    exact fun _ down revises => moves down _ revises
  · exact moves world server revises

/-- An update refits a server when the stored record has the declared metadata and optical disc and
the plan that matches. The interfaces and the list of disks are those of the former record. The
instance runs when it ran before or when the blueprint wants it to. A server that keeps its plan
keeps its identifier. Any other server leaves it for a new one, and its disks follow. All other
servers and disks stay as they were. -/
structure Refits (blueprint : ServerBlueprint) (start : Cloud) (result : BuildResult) (last : Cloud)
    (plan : ServerPlan) (former server : Server) : Prop where
  matching : start.serverPlans.filter blueprint.plan.isAnsweredBy = [plan]
  found : start.servers.get? blueprint.id = some former
  stored : last.servers.get? result.id = some server
  name : server.name = blueprint.name
  description : server.description = blueprint.description
  tags : server.tags = blueprint.tags
  iconId : server.iconId = blueprint.iconId
  cdromId : server.cdromId = blueprint.cdromId
  planId : server.planId = plan.id
  interfaces : server.interfaces = former.interfaces
  diskIds : server.diskIds = former.diskIds
  instanceStatus : server.instanceStatus =
    if former.instanceStatus = .up ∨ blueprint.bootAfterCreate then .up else former.instanceStatus
  stays : former.planId = plan.id → result.id = blueprint.id
  moves : former.planId ≠ plan.id →
    ¬ start.Reached result.id ∧ last.servers.get? blueprint.id = none
  others : ∀ id, id ≠ blueprint.id → id ≠ result.id →
    last.servers.get? id = start.servers.get? id
  disks : ∀ id, last.disks.get? id =
    (start.disks.get? id).map fun disk => disk.following blueprint.id result.id

/-- A server that was up or is wanted up is up in the end, and any other one keeps its status. -/
theorem status_of_boots (blueprint : ServerBlueprint) (former : Server) (replans : Bool) :
    (if blueprint.boots former replans then .up
      else if replans then former.stopped.instanceStatus else former.instanceStatus) =
    if former.instanceStatus = .up ∨ blueprint.bootAfterCreate then RunStatus.up
      else former.instanceStatus := by
  cases replans <;> cases status : former.instanceStatus <;>
    cases boot : blueprint.bootAfterCreate <;> simp [boots, Server.stopped, status, boot]

/-- A server that keeps its plan is refitted where it is. -/
theorem refits_in_place (blueprint : ServerBlueprint) {last : Cloud} {plan : ServerPlan}
    {former : Server}
    (matching : start.serverPlans.filter blueprint.plan.isAnsweredBy = [plan])
    (found : start.servers.get? blueprint.id = some former) (named : former.id = blueprint.id)
    (keeps : former.planId = plan.id)
    (revises : last.Revises start (blueprint.refitted (blueprint.boots former false) former)) :
    blueprint.Refits start (.ofId former.id) last plan former
      (blueprint.refitted (blueprint.boots former false) former) where
  matching := matching
  found := found
  stored := revises.stored
  name := rfl
  description := rfl
  tags := rfl
  iconId := rfl
  cdromId := rfl
  planId := keeps
  interfaces := rfl
  diskIds := rfl
  instanceStatus := blueprint.status_of_boots former false
  stays _ := named
  moves other := absurd keeps other
  others id apart _ := revises.others id (named ▸ apart)
  disks id := by
    have same : (fun disk : Disk => disk.following blueprint.id former.id) = fun disk => disk :=
      funext fun disk => named ▸ disk.following_self former.id
    have kept : (start.disks.get? id).map (fun disk => disk.following blueprint.id former.id) =
        start.disks.get? id := by
      rw [same, Option.map_id']
    rw [revises.disks]
    exact kept.symm

/-- A server that changes its plan is refitted under a new identifier. -/
theorem refits_moved (blueprint : ServerBlueprint) {last : Cloud} {plan assigned : ServerPlan}
    {former : Server}
    (matching : start.serverPlans.filter blueprint.plan.isAnsweredBy = [plan])
    (found : start.servers.get? blueprint.id = some former) (named : former.id = blueprint.id)
    (reached : start.Reached blueprint.id)
    (room : start.lastId.toNat + 1 < UInt64.size)
    (leaves : former.planId ≠ plan.id) (planned : assigned.id = plan.id)
    (revises : last.Revises (start.vacating former.id) (blueprint.refitted
      (blueprint.boots former true) (former.stopped.moved ⟨start.lastId + 1⟩ assigned))) :
    blueprint.Refits start (.ofId ⟨start.lastId + 1⟩) last plan former (blueprint.refitted
      (blueprint.boots former true) (former.stopped.moved ⟨start.lastId + 1⟩ assigned)) where
  matching := matching
  found := found
  stored := revises.stored
  name := rfl
  description := rfl
  tags := rfl
  iconId := rfl
  cdromId := rfl
  planId := planned
  interfaces := rfl
  diskIds := rfl
  instanceStatus := blueprint.status_of_boots former true
  stays keeps := absurd keeps leaves
  moves _ := by
    refine ⟨next_new room, ?_⟩
    rw [revises.others _ (ne_next room reached), vacating, SortedMap.get?_erase, if_pos named.symm]
  others id apart new := by
    rw [revises.others id new, vacating, SortedMap.get?_erase, if_neg (named ▸ apart)]
  disks id := by
    rw [revises.disks, vacating, SortedMap.get?_mapValues, named]
    rfl

theorem resolvePlan_consults (blueprint : ServerBlueprint) :
    Orderly Request.Consults (blueprint.resolvePlan zone).run :=
  .step rfl ⟨_, _, rfl⟩ fun _ => .lift _

theorem readCdrom_consults (cdromId : ResourceId) :
    Orderly Request.Consults (readCdrom zone cdromId).run := by
  rw [readCdrom]
  split
  · exact .step rfl ⟨_, _, rfl⟩ fun _ => .pure _
  · exact .pure _

/-- The read of a server shows the record that the consulted cloud has of it. -/
theorem read_revises {id : ResourceId}
    (named : ∀ server, start.servers.get? id = some server → server.id = id)
    (consulted : start.Consulted world.store) :
    Yields context Cloud.remote (Build.call "read server" (.server zone (.read id))) world
      (fun former last => start.servers.get? id = some former ∧ last.store.Revises start former)
      (fun _ _ => True) := by
  apply yields_calm_look (.of_noisy not_false)
  rw [answerRequest, answerServer, CloudStep.yields_find]
  split
  next former found =>
    intro _
    have stored : start.servers.get? id = some former := consulted.servers ▸ found
    have own : start.servers.get? former.id = some former := (named former stored).symm ▸ stored
    exact ⟨stored, (consulted.logging _ _).revises own⟩
  next => trivial

/-- Once the plan is settled, the server is refitted where it is or under the next number. -/
theorem settle_revises (blueprint : ServerBlueprint) {planId : ResourceId} {former : Server}
    (revises : world.store.Revises start former) :
    Yields context Cloud.remote (do
      let id ← blueprint.settlePlan zone former planId
      blueprint.refit zone former (former.planId != planId) id) world
      (fun result last =>
        (former.planId = planId ∧ result = .ofId former.id ∧
          last.store.Revises start
            (blueprint.refitted (blueprint.boots former false) former)) ∨
        (former.planId ≠ planId ∧ ∃ assigned, assigned.id = planId ∧
          result = .ofId ⟨start.lastId + 1⟩ ∧
            last.store.Revises (start.vacating former.id) (blueprint.refitted
              (blueprint.boots former true) (former.stopped.moved ⟨start.lastId + 1⟩ assigned))))
      (fun _ _ => True) := by
  rw [settlePlan]
  by_cases keeps : former.planId = planId
  · rw [keeps, bne_self_eq_false, if_neg Bool.false_ne_true, pure_bind]
    apply (blueprint.refit_revises revises rfl).onSuccess
    rintro _ last ⟨rfl, revises⟩
    exact .inl ⟨rfl, rfl, revises⟩
  · have replans : (former.planId != planId) = true := bne_iff_ne.mpr keeps
    rw [replans, if_pos rfl]
    apply (blueprint.changePlan_revises planId revises).bind
    rintro _ moved ⟨assigned, planned, rfl, revises⟩
    -- From here on, the base is the cloud of the start after the server has left its place.
    let settled : Server := former.stopped.moved ⟨start.lastId + 1⟩ assigned
    have refits : Yields context Cloud.remote (blueprint.refit zone former true settled.id) moved
        (fun result last => result = .ofId settled.id ∧
          last.store.Revises (start.vacating former.id)
            (blueprint.refitted (blueprint.boots former true) settled)) (fun _ _ => True) :=
      blueprint.refit_revises revises rfl
    apply refits.onSuccess
    rintro _ last ⟨rfl, revises⟩
    exact .inr ⟨keeps, assigned, planned, rfl, revises⟩

/-- Once the plan is chosen and the server is read, the server is refitted where it is or under a
new identifier. -/
theorem settle_yields_refit (blueprint : ServerBlueprint) {plan : ServerPlan} {former : Server}
    (matching : start.serverPlans.filter blueprint.plan.isAnsweredBy = [plan])
    (found : start.servers.get? blueprint.id = some former) (named : former.id = blueprint.id)
    (reached : start.Reached blueprint.id) (room : start.lastId.toNat + 1 < UInt64.size)
    (revises : world.store.Revises start former) :
    Yields context Cloud.remote (do
      let id ← blueprint.settlePlan zone former plan.id
      blueprint.refit zone former (former.planId != plan.id) id) world
      (fun result last => ∃ server, blueprint.Refits start result last.store plan former server)
      (fun _ _ => True) := by
  apply (blueprint.settle_revises revises).onSuccess
  rintro _ last (⟨keeps, rfl, revises⟩ | ⟨leaves, assigned, planned, rfl, revises⟩)
  · exact ⟨_, blueprint.refits_in_place matching found named keeps revises⟩
  · exact ⟨_, blueprint.refits_moved matching found named reached room leaves planned revises⟩

/-- An update consults the cloud to choose the plan that matches. -/
theorem resolvePlan_consulted (blueprint : ServerBlueprint) :
    Yields context Cloud.remote (blueprint.resolvePlan zone) world
      (fun planId resolved => world.store.Consulted resolved.store ∧
        choosePlan blueprint.plan world.store.serverPlans = .ok planId) (fun _ _ => True) :=
  ((Consulted.orderly rfl blueprint.resolvePlan_consults).and
    blueprint.resolvePlan_chooses).onSuccess fun _ _ both => both

/-- Every update that succeeds refits its server, when the counter has reached the servers, when
servers are stored under their own identifiers, and when there is room for one more number. -/
theorem update_yields_refit (blueprint : ServerBlueprint)
    (reached : ∀ id server, world.store.servers.get? id = some server → world.store.Reached id)
    (named : ∀ id server, world.store.servers.get? id = some server → server.id = id)
    (room : world.store.lastId.toNat + 1 < UInt64.size) :
    Yields context Cloud.remote (blueprint.update zone) world
      (fun result last => ∃ plan former server,
        blueprint.Refits world.store result last.store plan former server)
      (fun _ _ => True) := by
  rw [update_eq, yields_bind]
  apply Yields.checked _ fun _ _ => trivial
  intro _
  rw [yields_bind]
  apply Yields.checked _ fun _ _ => trivial
  intro _
  apply blueprint.resolvePlan_consulted.bind
  intro planId resolved ⟨consulted, chosen⟩
  obtain ⟨plan, matching, rfl⟩ := choosePlan_eq_ok chosen
  apply (consulted.orderly (readCdrom_consults _)).bind
  intro _ checked consulted
  apply (read_revises (named blueprint.id) consulted).bind
  intro former begun ⟨found, revises⟩
  apply (blueprint.settle_yields_refit matching found (named _ _ found) (reached _ _ found) room
    revises).onSuccess
  exact fun result last ⟨server, refits⟩ => ⟨plan, former, server, refits⟩

/-- An update that succeeds refits the server, in any context and whatever failures are announced,
as long as the counter has room for one more number. -/
theorem update_refits (blueprint : ServerBlueprint) {world after : World Cloud}
    {result : BuildResult}
    (reached : ∀ id server, world.store.servers.get? id = some server → world.store.Reached id)
    (named : ∀ id server, world.store.servers.get? id = some server → server.id = id)
    (room : world.store.lastId.toNat + 1 < UInt64.size)
    (updated : (blueprint.update zone).run.run context Cloud.remote world = (.ok result, after)) :
    ∃ plan former server,
      blueprint.Refits world.store result after.store plan former server := by
  have refits : Yields context Cloud.remote (blueprint.update zone) world _ _ :=
    blueprint.update_yields_refit reached named room
  unfold Yields at refits
  rw [updated] at refits
  exact refits

/-- A server that runs is moved to another plan with its disk, and another optical disc is inserted.
A second server with its disk stays as it is. -/
theorem running_server_isRefitted :
    let server : Server :=
      { (default : Server) with
        id := ⟨7⟩
        instanceStatus := .up
        planId := ⟨10⟩
        diskIds := [⟨20⟩]
        cdromId := ⟨30⟩ }
    let blueprint : ServerBlueprint :=
      { (default : ServerBlueprint) with
        id := ⟨7⟩
        name := "web"
        cdromId := ⟨31⟩
        timing := .uniform 1 1 }
    let cloud :=
      (((Cloud.empty.seedServerPlan default).seedCdrom ⟨31⟩).seedServer server).seedServer
        { (default : Server) with id := ⟨8⟩ }
    let stocked := (cloud.seedDisk { (default : Disk) with id := ⟨20⟩, serverId := ⟨7⟩ }).seedDisk
      { (default : Disk) with id := ⟨21⟩, serverId := ⟨8⟩ }
    let finished := (blueprint.update ⟨"is1a"⟩).run.run default Cloud.remote ⟨default, stocked⟩
    ∃ result, finished.1 = .ok result ∧ result.id = ⟨1001⟩ ∧ ∃ plan former server,
      blueprint.Refits stocked result finished.2.store plan former server := by
  intro server blueprint cloud stocked finished
  have succeeds : finished.1.toOption.map BuildResult.id = some ⟨1001⟩ := by decide +kernel
  have entries : ∀ entry ∈ stocked.servers.entries,
      entry.1.value.toNat ≤ stocked.lastId.toNat ∧ entry.2.id = entry.1 := by decide +kernel
  have stored {id : ResourceId} {server : Server} (found : stocked.servers.get? id = some server) :
      stocked.Reached id ∧ server.id = id := entries _ (SortedMap.mem_of_find? found)
  cases outcome : finished.1 with
  | error error =>
      rw [outcome] at succeeds
      nomatch succeeds
  | ok result =>
      rw [outcome] at succeeds
      have updated : finished = (.ok result, finished.2) := Prod.ext outcome rfl
      refine ⟨result, rfl, Option.some.inj succeeds, ?_⟩
      exact blueprint.update_refits (fun _ _ found => (stored found).1)
        (fun _ _ found => (stored found).2) (by decide) updated

end ServerBlueprint

end Provisioning
