import Provisioning.Proofs.ApplianceBuild
import Provisioning.Proofs.GlobalBuild
import Provisioning.Proofs.OrderlyPlans
import Provisioning.Proofs.ServerBuild

/-!
All kinds of blueprints together. The main statement is that a validated blueprint can be built: in
quiet circumstances a build succeeds exactly when a validation in the same state does.
-/

namespace Provisioning

/-- A blueprint describes one of seven kinds of resources. -/
inductive Blueprint where
  | disk (zone : Zone) (serverId : ResourceId) (timing : Timing) (blueprint : DiskBlueprint)
  | server (zone : Zone) (blueprint : ServerBlueprint)
  | database (zone : Zone) (blueprint : DatabaseBlueprint)
  | vpcRouter (zone : Zone) (blueprint : VpcRouterBlueprint)
  | mobileGateway (zone : Zone) (blueprint : MobileGatewayBlueprint)
  | containerRegistry (blueprint : ContainerRegistryBlueprint)
  | localRouter (blueprint : LocalRouterBlueprint)

namespace Blueprint

open Program Cloud

def validate : Blueprint → Build Unit
  | disk zone _ _ blueprint => blueprint.validate zone
  | server zone blueprint => blueprint.validate zone
  | database zone blueprint => blueprint.validate zone
  | vpcRouter zone blueprint => blueprint.validate zone
  | mobileGateway zone blueprint => blueprint.validate zone
  | containerRegistry blueprint => liftM blueprint.validate
  | localRouter blueprint => blueprint.validate

def build : Blueprint → Build BuildResult
  | disk zone serverId timing blueprint => blueprint.build zone serverId timing
  | server zone blueprint => blueprint.build zone
  | database zone blueprint => blueprint.build zone
  | vpcRouter zone blueprint => blueprint.build zone
  | mobileGateway zone blueprint => blueprint.build zone
  | containerRegistry blueprint => blueprint.build
  | localRouter blueprint => blueprint.build

def update : Blueprint → Build BuildResult
  | disk zone _ timing blueprint => blueprint.update zone timing
  | server zone blueprint => blueprint.update zone
  | database zone blueprint => blueprint.update zone
  | vpcRouter zone blueprint => blueprint.update zone
  | mobileGateway zone blueprint => blueprint.update zone
  | containerRegistry blueprint => blueprint.update
  | localRouter blueprint => blueprint.update

def timing : Blueprint → Timing
  | disk _ _ timing _ => timing
  | server _ blueprint => blueprint.timing
  | database _ blueprint => blueprint.timing
  | vpcRouter _ blueprint => blueprint.timing
  | mobileGateway _ blueprint => blueprint.timing
  | containerRegistry blueprint => blueprint.timing
  | localRouter blueprint => blueprint.timing

/-- A disk is built for no server or for a server that is there. -/
def Hosted (cloud : Cloud) : Blueprint → Prop
  | disk _ serverId _ _ => DiskBlueprint.Hosted serverId cloud
  | _ => True

/-- Identifiers have 64 bits, and no identifier is given twice: the counter does not overflow while
the build of a disk or a server draws its numbers. -/
def Fits (cloud : Cloud) : Blueprint → Prop
  | disk _ _ _ blueprint => cloud.lastId.toNat + blueprint.draws < UInt64.size
  | server _ blueprint => cloud.lastId.toNat + blueprint.draws < UInt64.size
  | _ => True

variable {quiet : Prop} {context : Context} {world : World Cloud} (blueprint : Blueprint)

/-- The validation of any blueprint is orderly, and all of its calls are looks. -/
theorem validate_orderly : Orderly Request.Looks blueprint.validate.run := by
  cases blueprint with
  | disk zone serverId timing blueprint => exact blueprint.validate_orderly
  | server zone blueprint => exact blueprint.check_orderly.bind fun _ => .pure _
  | database zone blueprint => exact blueprint.validate_orderly
  | vpcRouter zone blueprint => exact blueprint.validate_orderly
  | mobileGateway zone blueprint => exact blueprint.validate_orderly
  | containerRegistry blueprint => exact .lift _
  | localRouter blueprint => exact blueprint.validate_orderly

/-- The build of any blueprint is orderly. -/
theorem build_orderly : Orderly (fun _ => True) blueprint.build.run := by
  cases blueprint with
  | disk zone serverId timing blueprint => exact blueprint.build_orderly serverId timing
  | server zone blueprint => exact blueprint.build_orderly
  | database zone blueprint => exact blueprint.build_orderly.mono fun _ _ => trivial
  | vpcRouter zone blueprint => exact blueprint.build_orderly.mono fun _ _ => trivial
  | mobileGateway zone blueprint => exact blueprint.build_orderly.mono fun _ _ => trivial
  | containerRegistry blueprint => exact blueprint.build_orderly.mono fun _ _ => trivial
  | localRouter blueprint => exact blueprint.build_orderly.mono fun _ _ => trivial

/-- The update of any blueprint is orderly. -/
theorem update_orderly : Orderly (fun _ => True) blueprint.update.run := by
  cases blueprint with
  | disk zone serverId timing blueprint => exact blueprint.update_orderly timing
  | server zone blueprint => exact blueprint.update_orderly.mono fun _ _ => trivial
  | database zone blueprint => exact blueprint.update_orderly.mono fun _ _ => trivial
  | vpcRouter zone blueprint => exact blueprint.update_orderly.mono fun _ _ => trivial
  | mobileGateway zone blueprint => exact blueprint.update_orderly.mono fun _ _ => trivial
  | containerRegistry blueprint => exact blueprint.update_orderly
  | localRouter blueprint => exact blueprint.update_orderly.mono fun _ _ => trivial

/-- A validation is a check without its value, and a build goes on after this check. -/
theorem build_goesOn (calm : Calm quiet context world) (numbered : world.store.Numbered)
    (scattered : quiet ∨ world.store.Scattered) (hosted : quiet → blueprint.Hosted world.store)
    (fits : blueprint.Fits world.store)
    (covers : quiet → blueprint.timing.wait.Covers (world.store.settleReads - 1)) :
    ∃ (α : Type) (check : Build α), blueprint.validate = (do let _ ← check) ∧
      GoesOn quiet context Cloud.remote check blueprint.build world := by
  have itself : ∀ check : Build Unit, check = (do let _ ← check) :=
    fun _ => bind_pure_unit.symm
  cases blueprint with
  | disk zone serverId timing blueprint =>
      exact ⟨Unit, _, itself _, blueprint.build_goesOn calm numbered scattered hosted fits covers⟩
  | server zone blueprint =>
      exact ⟨ResourceId, _, rfl, blueprint.build_goesOn calm numbered scattered fits covers⟩
  | database zone blueprint => exact ⟨Unit, _, itself _, DatabaseBlueprint.build_goesOn calm covers⟩
  | vpcRouter zone blueprint =>
      exact ⟨Unit, _, itself _, VpcRouterBlueprint.build_goesOn calm covers⟩
  | mobileGateway zone blueprint =>
      exact ⟨Unit, _, itself _, MobileGatewayBlueprint.build_goesOn calm covers⟩
  | containerRegistry blueprint =>
      exact ⟨Unit, _, itself _, ContainerRegistryBlueprint.build_goesOn calm covers⟩
  | localRouter blueprint =>
      exact ⟨Unit, _, itself _, LocalRouterBlueprint.build_goesOn calm covers⟩

/-- A validated blueprint can be built. Take any numbered cloud without announced failures, whose
counter has room for what the blueprint draws, any live context, and a wait whose budget covers the
reads that a new record needs. Then a build succeeds exactly when a validation in the same state
does. -/
theorem build_isOk_iff_validate (numbered : world.store.Numbered)
    (silent : world.store.failures = []) (live : context.Live world.timeline)
    (hosted : blueprint.Hosted world.store) (fits : blueprint.Fits world.store)
    (covers : blueprint.timing.wait.Covers (world.store.settleReads - 1)) :
    (blueprint.build.run.run context Cloud.remote world).1.isOk ↔
      (blueprint.validate.run.run context Cloud.remote world).1.isOk := by
  have calm : Calm True context world := ⟨fun _ => live, fun _ => silent⟩
  obtain ⟨α, check, same, goesOn⟩ := blueprint.build_goesOn calm numbered (.inl trivial)
    (fun _ => hosted) fits fun _ => covers
  have discarded : (blueprint.validate.run.run context Cloud.remote world).1.isOk =
      (check.run.run context Cloud.remote world).1.isOk := by
    rw [same, ExceptT.run_bind, run_bind]
    cases (check.run.run context Cloud.remote world).1 <;> rfl
  rw [discarded]
  exact goesOn.isOk_iff

/-- A server with one blank disk is built in a cloud that offers its plan and the plan of its
disk. -/
theorem server_with_disk_isBuilt :
    let cloud := (Cloud.empty.seedDiskPlan ⟨4⟩ "SSD" [20]).seedServerPlan default
    let spec : DiskSpec := { (default : DiskSpec) with name := "root", planId := ⟨4⟩, sizeGb := 20 }
    let blueprint : ServerBlueprint :=
      { (default : ServerBlueprint) with
        name := "web", disks := [.blank spec], timing := .uniform 1 1 }
    ((Blueprint.server ⟨"is1a"⟩ blueprint).build.run.run default Cloud.remote
      ⟨default, cloud⟩).1.isOk := by
  intro cloud spec blueprint
  have numbered : cloud.Numbered := ⟨nofun, nofun, nofun, nofun, nofun⟩
  have live : (default : Context).Live default := ⟨rfl, rfl, nofun⟩
  have fits : cloud.lastId.toNat + blueprint.draws < UInt64.size := by decide
  have covers : blueprint.timing.wait.Covers (cloud.settleReads - 1) := ⟨by decide, by decide⟩
  exact Iff.mpr (build_isOk_iff_validate _ numbered rfl live trivial fits covers) (by decide)

end Blueprint

end Provisioning
