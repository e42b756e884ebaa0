import Provisioning.Proofs.Hosting
import Provisioning.Proofs.ServerView

/-!
How the build of a server changes its server. The server is created with the shape of the chosen
plan, its interfaces are configured one after the other, the optical disc is inserted, and the
instance is booted. Each rule tells the record of the server after its step.
-/

namespace Provisioning

/-- This is the record of a server that has just been created. -/
def ServerCreateRequest.record (request : ServerCreateRequest) (plan : ServerPlan)
    (last : UInt64) : Server where
  id := ⟨last + 1⟩
  name := request.name
  description := request.description
  tags := request.tags
  iconId := request.iconId
  availability := .available
  instanceStatus := .down
  planId := plan.id
  cpu := plan.cpu
  memoryGb := plan.memoryGb
  interfaces := Cloud.numberedInterfaces (last + 1) request.connectedSwitches
  diskIds := []
  cdromId := .unset

/-- A server has other interfaces. -/
def Server.wired (server : Server) (interfaces : List Interface) : Server :=
  { server with interfaces }

/-- An interface gets what is declared for it. -/
def Interface.configured (interface : Interface) (nic : NicSpec) : Interface :=
  { interface with
    packetFilterId := nic.packetFilterId
    userIpAddress := nic.displayIpAddress }

namespace Cloud

open CloudStep

variable {cloud : Cloud} {server : Server}

/-- A cloud that hosts a server views it. -/
theorem Hosts.isServerView : IsServerView fun server cloud => cloud.Hosts server where
  stored hosts := hosts.stored
  logging _ _ hosts := hosts.of_same ⟨rfl, rfl, fun _ => rfl⟩
  write _ hosts named interfaces diskIds :=
    (hosts.write named (congrArg (List.map Interface.id) interfaces) diskIds).of_same
      ⟨rfl, rfl, fun _ => rfl⟩

end Cloud

namespace ServerBlueprint

open Program Cloud

variable {context : Context} {world : World Cloud} {zone : Zone} {server current : Server}
  {before after : List Interface} {interface : Interface} {nic : NicSpec}

/-- The plan that is resolved is the one that is chosen among the plans of the cloud. -/
theorem resolvePlan_chooses (blueprint : ServerBlueprint) :
    Yields context Cloud.remote (blueprint.resolvePlan zone) world
      (fun planId _ => choosePlan blueprint.plan world.store.serverPlans = .ok planId)
      (fun _ _ => True) := by
  rw [resolvePlan, yields_bind]
  apply yields_calm_look (.of_noisy not_false)
  intro _
  have plans : (world.store.logging (.catalogue zone .findServerPlans)
      world.store.failures).serverPlans = world.store.serverPlans := rfl
  rw [yields_liftExcept, plans]
  cases choosePlan blueprint.plan world.store.serverPlans <;> trivial

/-- This is the record of a server when its build is over. -/
def finished (blueprint : ServerBlueprint) (server : Server) (diskIds : List ResourceId) : Server :=
  { server with
    interfaces := List.zipWith Interface.configured server.interfaces blueprint.nics
    diskIds := server.diskIds ++ diskIds
    cdromId := blueprint.cdromId
    instanceStatus := if blueprint.bootAfterCreate then .up else server.instanceStatus }

end ServerBlueprint

end Provisioning
