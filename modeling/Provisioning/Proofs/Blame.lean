import Provisioning.Proofs.Browse
import Provisioning.Proofs.Trusting

/-!
Programs that never blame their input, and programs that look first. A program that looks first has
only looked at the cloud whenever it ends with a validation error. All updates look first: what
follows their last check never blames the input.
-/

namespace Provisioning

namespace Program

variable {α β : Type}

/-- A program is blameless when it never fails with a validation error. -/
def Blameless (program : Build α) : Prop :=
  ∀ context world, Yields context Cloud.remote program world (fun _ _ => True)
    (fun error _ => ¬ error.IsValidation)

/-- A program that trusts its input is blameless. -/
theorem Trusting.blameless {program : Build α} (trusting : Trusting program) : Blameless program :=
  fun context world => trusting Cloud context Cloud.remote world

/-- A program looks first when it ends with a validation error only before it has done anything but
look. -/
def LooksFirst (program : Build α) : Prop :=
  ∀ context world, Yields context Cloud.remote program world (fun _ _ => True)
    (fun error after => error.IsValidation → world.store.Browsed after.store)

namespace LooksFirst

/-- A program that never blames its input looks first. -/
theorem of_blameless {program : Build α} (blameless : Blameless program) : LooksFirst program :=
  fun context world => (blameless context world).mono (fun _ _ _ => trivial)
    fun _ _ blame validation => absurd validation blame

/-- A program that trusts its input looks first. -/
theorem of_trusting {program : Build α} (trusting : Trusting program) : LooksFirst program :=
  .of_blameless trusting.blameless

/-- A look may stand before a program that looks first. -/
theorem bind {program : Build α} {continuation : α → Build β} (first : Browses program)
    (rest : ∀ value, LooksFirst (continuation value)) : LooksFirst (program >>= continuation) := by
  intro context world
  rw [yields_bind]
  apply (first context world).mono
  · intro value middle browsed
    exact (rest value context middle).mono (fun _ _ _ => trivial)
      fun _ _ more validation => browsed.trans (more validation)
  · exact fun _ _ browsed _ => browsed

end LooksFirst

end Program

open Program

section Updates

variable {zone : Zone}

theorem DiskBlueprint.update_looksFirst (blueprint : DiskBlueprint) (timing : Timing) :
    LooksFirst (blueprint.update zone timing) := by
  refine .bind (.lift _) fun _ => .of_trusting ?_
  refine (Trusting.during _ _).bind fun _ => ?_
  cases blueprint with
  | unix spec system edit => exact (reapply_trusting _ _ _ edit).bind fun _ => .pure _
  | windows | fixedArchive | copied | blank | connected => exact .pure _

namespace ServerBlueprint

/-- The insertion of an optical disc never blames the input. -/
theorem insertCdrom_trusting (id cdromId : ResourceId) :
    Trusting (insertCdrom zone id cdromId) := by
  rw [insertCdrom]
  split
  · exact .during _ _
  · exact .pure _

/-- The exchange of optical discs never blames the input. -/
theorem exchangeCdrom_trusting (id inserted wanted : ResourceId) :
    Trusting (exchangeCdrom zone id inserted wanted) := by
  rw [exchangeCdrom]
  split
  · exact .pure _
  · split
    · exact (Trusting.during _ _).bind fun _ => insertCdrom_trusting _ _
    · exact insertCdrom_trusting _ _

/-- A change of plan never blames the input. -/
theorem changePlan_trusting (blueprint : ServerBlueprint) (current : Server)
    (planId : ResourceId) : Trusting (blueprint.changePlan zone current planId) := by
  have changes : Trusting (do
      let changed ← Build.call "change server plan" (.server zone (.changePlan current.id planId))
      return changed.id) := (Trusting.during _ _).bind fun _ => .pure _
  rw [changePlan]
  split
  · exact (Trusting.switch _ _ _ _).bind fun _ => changes
  · exact changes

/-- An update of a server looks first: its last check comes before all changes. -/
theorem update_looksFirst (blueprint : ServerBlueprint) : LooksFirst (blueprint.update zone) := by
  have finishes : ∀ (current : Server) (boots : Bool) (id : ResourceId), Trusting (do
      let _ ← Build.call "update server" (.server zone (.update id blueprint.updateRequest))
      exchangeCdrom zone id current.cdromId blueprint.cdromId
      if boots then blueprint.boot zone id
      return BuildResult.ofId id) := by
    intro current boots id
    refine (Trusting.during _ _).bind fun _ => (exchangeCdrom_trusting _ _ _).bind fun _ => ?_
    split
    · exact (Trusting.switch _ _ _ _).bind fun _ => .pure _
    · exact .pure _
  rw [update]
  refine .bind (.lift _) fun _ => .bind (.lift _) fun _ => ?_
  refine .bind (.of_orderly blueprint.resolvePlan_orderly) fun planId => ?_
  refine .bind (.of_orderly (readCdrom_orderly _)) fun _ => .bind (.call rfl) fun current => ?_
  refine .of_trusting ?_
  dsimp only
  split
  · exact (blueprint.changePlan_trusting current planId).bind fun id => finishes current _ id
  · exact finishes current _ current.id

end ServerBlueprint

theorem DatabaseBlueprint.update_looksFirst (blueprint : DatabaseBlueprint) :
    LooksFirst (blueprint.update zone) := by
  have parameters : Trusting (blueprint.applyParameters zone blueprint.id) := by
    rw [applyParameters]
    split
    · exact .pure _
    · exact .during _ _
  rw [update]
  refine .bind (.lift _) fun _ => .bind (.lift _) fun _ => .bind (.call rfl) fun current => ?_
  refine .of_trusting ((Trusting.during _ _).bind fun _ => (Trusting.during _ _).bind fun _ => ?_)
  refine parameters.bind fun _ => ?_
  split
  · exact (Trusting.switch _ _ _ _).bind fun _ => .pure _
  · exact .pure _

theorem VpcRouterBlueprint.update_looksFirst (blueprint : VpcRouterBlueprint) :
    LooksFirst (blueprint.update zone) := by
  rw [update]
  refine .bind (.lift _) fun _ => .bind (.lift _) fun _ => .bind (.call rfl) fun current => ?_
  refine .of_trusting (Trusting.bind ?_ fun _ => .pure _)
  exact (Trusting.during _ _).bind fun _ => .during _ _

theorem MobileGatewayBlueprint.update_looksFirst (blueprint : MobileGatewayBlueprint) :
    LooksFirst (blueprint.update zone) := by
  rw [update]
  refine .bind (.lift _) fun _ => .bind (.lift _) fun _ => .bind (.call rfl) fun current => ?_
  refine .of_trusting (Trusting.bind ?_ fun _ => Trusting.bind ?_ fun _ => .pure _)
  · exact (Trusting.during _ _).bind fun _ => .during _ _
  · exact .forM fun _ => (Trusting.during _ _).bind fun _ => .during _ _

theorem ContainerRegistryBlueprint.update_looksFirst (blueprint : ContainerRegistryBlueprint) :
    LooksFirst blueprint.update := by
  rw [update]
  refine .bind (.lift _) fun _ => .bind (.lift _) fun _ => .of_trusting ?_
  refine (Trusting.during _ _).bind fun current => ?_
  refine (Trusting.forM fun _ => .during _ _).bind fun _ => ?_
  exact (Trusting.forM fun _ => .during _ _).bind fun _ => .pure _

theorem LocalRouterBlueprint.update_looksFirst (blueprint : LocalRouterBlueprint) :
    LooksFirst blueprint.update := by
  rw [update]
  refine .bind (.lift _) fun _ => .bind (.of_orderly blueprint.validate_orderly) fun _ => ?_
  refine .bind (.call rfl) fun current => .of_trusting ?_
  refine Trusting.bind ?_ fun _ => .pure _
  exact (Trusting.during _ _).bind fun _ => .pure _

end Updates

end Provisioning
