import Provisioning.Proofs.Blame
import Provisioning.Proofs.Blueprints

/-!
Validation errors come before all changes. A validation of a blueprint only looks, and a build or an
update that ends with a validation error has only looked.
-/

namespace Provisioning.Blueprint

open Program Cloud

variable (blueprint : Blueprint)

/-- The update of any blueprint looks first. -/
theorem update_looksFirst : LooksFirst blueprint.update := by
  cases blueprint with
  | disk zone serverId timing blueprint => exact blueprint.update_looksFirst timing
  | server zone blueprint => exact blueprint.update_looksFirst
  | database zone blueprint => exact blueprint.update_looksFirst
  | vpcRouter zone blueprint => exact blueprint.update_looksFirst
  | mobileGateway zone blueprint => exact blueprint.update_looksFirst
  | containerRegistry blueprint => exact blueprint.update_looksFirst
  | localRouter blueprint => exact blueprint.update_looksFirst

variable {blueprint} {context : Context} {world after : World Cloud} {error : ProvisionError}

/-- A build ends with a validation error only if the validation in the same state ends with this
error, and then nothing has happened since the validation. -/
theorem build_stops (numbered : world.store.Numbered) (scattered : world.store.Scattered)
    (fits : blueprint.Fits world.store)
    (failed : blueprint.build.run.run context Cloud.remote world = (.error error, after))
    (validation : error.IsValidation) :
    blueprint.validate.run.run context Cloud.remote world = (.error error, after) := by
  have calm : Calm False context world := .of_noisy not_false
  obtain ⟨α, check, same, goesOn⟩ := blueprint.build_goesOn calm numbered (.inr scattered)
    False.elim fits False.elim
  have stopped := goesOn.stops failed validation
  rw [same, ExceptT.run_bind, run_bind, stopped]
  rfl

/-- Validation errors come before all changes, whatever failures are announced and whatever the
context does, as long as the counter has room for what the blueprint draws. A validation logs only
calls that look. When a build ends with a validation error, it is the error of the validation in the
same state and the build has stopped there, so no disk that is validated again after its server was
created is the first to report one. An update that ends with a validation error has logged only
calls that look. -/
theorem validation_precedes_changes (blueprint : Blueprint) (context : Context)
    (world : World Cloud) (numbered : world.store.Numbered) (scattered : world.store.Scattered)
    (fits : blueprint.Fits world.store) :
    world.store.Browsed (blueprint.validate.run.run context Cloud.remote world).2.store ∧
    (∀ error after, blueprint.build.run.run context Cloud.remote world = (.error error, after) →
      error.IsValidation → world.store.Browsed after.store ∧
        blueprint.validate.run.run context Cloud.remote world = (.error error, after)) ∧
    (∀ error after, blueprint.update.run.run context Cloud.remote world = (.error error, after) →
      error.IsValidation → world.store.Browsed after.store) := by
  have validates : world.store.Browsed
      (blueprint.validate.run.run context Cloud.remote world).2.store := by
    have yields := Browses.of_orderly blueprint.validate_orderly context world
    unfold Yields at yields
    split at yields
    next value after same => exact same ▸ yields
    next error after same => exact same ▸ yields
  refine ⟨validates, ?_, ?_⟩
  · intro error after failed validation
    have stopped := build_stops numbered scattered fits failed validation
    rw [stopped] at validates
    exact ⟨validates, stopped⟩
  · intro error after failed validation
    have yields := blueprint.update_looksFirst context world
    unfold Yields at yields
    rw [failed] at yields
    exact yields validation

/-- No server is created when the plan of its disk does not offer the size. -/
theorem server_of_unoffered_size_changes_nothing :
    let cloud := (Cloud.empty.seedDiskPlan ⟨4⟩ "SSD" [20]).seedServerPlan default
    let spec : DiskSpec := { (default : DiskSpec) with name := "root", planId := ⟨4⟩, sizeGb := 40 }
    let blueprint : ServerBlueprint :=
      { (default : ServerBlueprint) with
        name := "web", disks := [.blank spec], timing := .uniform 1 1 }
    ((Blueprint.server ⟨"is1a"⟩ blueprint).build.run.run default Cloud.remote
      ⟨default, cloud⟩).2.store.mutatingCalls = [] := by
  intro cloud spec blueprint
  have numbered : cloud.Numbered := ⟨nofun, nofun, nofun, nofun, nofun⟩
  have scattered : cloud.Scattered := nofun
  have fits : (Blueprint.server ⟨"is1a"⟩ blueprint).Fits cloud := by
    change cloud.lastId.toNat + blueprint.draws < UInt64.size
    decide
  let result := (Blueprint.server ⟨"is1a"⟩ blueprint).build.run.run default Cloud.remote
    ⟨default, cloud⟩
  obtain ⟨message, rejected⟩ : ∃ message, result.1 = .error (.validation "disk" message) := by
    dsimp only [result, blueprint, spec, cloud]
    exact ⟨_, rfl⟩
  have failed : result = (.error (.validation "disk" message), result.2) := Prod.ext rejected rfl
  have first := validation_precedes_changes (.server ⟨"is1a"⟩ blueprint) default
    ⟨default, cloud⟩ numbered scattered fits
  exact (first.2.1 _ _ failed ⟨_, _, rfl⟩).1.mutatingCalls

end Provisioning.Blueprint
