import Provisioning.Blueprint.Disk
import Provisioning.Proofs.Extension

/-!
Validations of disks. A cloud accepts the blueprint of a disk when it has everything that the
blueprint refers to. A validation decides whether it does, and in all extensions of a cloud it
decides in the same way.
-/

namespace Provisioning

open Program Cloud

variable {quiet : Prop} {context : Context} {world : World Cloud} {zone : Zone} {base cloud : Cloud}
  {drawn : Nat}

/-- The plan of a disk is there and offers its size. -/
structure DiskSpec.Accepted (spec : DiskSpec) (cloud : Cloud) : Prop where
  named : Check.requireNonBlank "disk" "name" spec.name = .ok ()
  planned : Check.requireSet "disk" "plan" spec.planId = .ok ()
  offered : ∃ plan, cloud.diskPlans.get? spec.planId = some plan ∧ plan.offers spec.sizeGb = true

/-- The plan of an accepted disk is still there in every extension. -/
theorem DiskSpec.Accepted.extended {spec : DiskSpec} (accepted : spec.Accepted base)
    (grown : base.Extends cloud drawn) : spec.Accepted cloud where
  named := accepted.named
  planned := accepted.planned
  offered := grown.diskPlans ▸ accepted.offered

/-- The validation of a disk specification decides whether the cloud accepts it. -/
theorem DiskSpec.validate_yields (spec : DiskSpec) (calm : Calm quiet context world)
    (looked : base.Looked world.store) :
    Yields context Cloud.remote (spec.validate zone) world
      (fun _ after => (Calm quiet context after ∧ base.Looked after.store) ∧
        spec.Accepted base)
      (fun error _ => spec.Accepted base → error.Excused quiet) := by
  rw [validate, yields_bind]
  refine .checked (fun named => ?_) fun _ rejected accepted =>
    absurd accepted.named (Check.ne_ok_of_error rejected)
  rw [yields_bind]
  refine .checked (fun planned => ?_) fun _ rejected accepted =>
    absurd accepted.planned (Check.ne_ok_of_error rejected)
  rw [yields_bind]
  apply (yields_calm_lookup calm looked (.catalogue zone (.readDiskPlan spec.planId))
    diskPlanTable spec.planId rfl fun _ _ _ _ _ => rfl).mono
  · rintro plan after ⟨goesOn, stored⟩
    have stored : base.diskPlans.get? spec.planId = some plan := stored
    refine .checked (fun offered => ?_) ?_
    · refine ⟨goesOn, named, planned, plan, stored, ?_⟩
      exact Check.require_eq_ok.mp offered
    · rintro error rejected ⟨-, -, other, storedToo, offered⟩
      cases stored.symm.trans storedToo
      exact absurd (Check.require_eq_ok.mpr offered) (Check.ne_ok_of_error rejected)
  · rintro error - excused ⟨-, -, plan, stored, -⟩
    exact excused ⟨plan, stored⟩

/-- This is the archive that a system is built from. -/
def OperatingSystem.archive? (system : OperatingSystem) (cloud : Cloud) : Option Archive :=
  if system.archiveTags.isEmpty then none
  else (cloud.archives.values.filter (isMatch (.withTags system.archiveTags))).find? fun archive =>
    archive.availability == .available

/-- The archive of a system is found when there is one. -/
theorem OperatingSystem.findArchive_yields (system : OperatingSystem)
    (calm : Calm quiet context world) (looked : base.Looked world.store) :
    Yields context Cloud.remote (system.findArchive zone) world
      (fun archive after => (Calm quiet context after ∧ base.Looked after.store) ∧
        system.archive? base = some archive)
      (fun error _ => (∃ archive, system.archive? base = some archive) →
        error.Excused quiet) := by
  rw [findArchive]
  split
  next custom =>
    rintro ⟨archive, found⟩
    rw [archive?, if_pos custom] at found
    cases found
  next proper =>
    have same : system.archive? base = _ := if_neg proper
    dsimp only
    rw [same, yields_bind, Build.call, yields_during]
    apply yields_calm_attempt calm
    · simp only [answerRequest, answerCatalogue, CloudStep.yields_bind, CloudStep.yields_get,
        CloudStep.yields_pure]
      intro calmAfter
      have archives : (world.store.logging
          (.catalogue zone (.findArchives (.withTags system.archiveTags)))
            world.store.failures).archives = base.archives := looked.archives
      rw [archives]
      split
      next archive found => exact ⟨⟨calmAfter, looked.trans (.logging _ _)⟩, found⟩
      next missing =>
        rintro ⟨archive, found⟩
        cases missing.symm.trans found
    · exact fun noisy error failures _ => ⟨noisy, ProvisionError.not_isValidation_ofRemote _ _⟩

/-- The archive of a system is found again while it is there. -/
theorem OperatingSystem.findArchive_again (system : OperatingSystem)
    (calm : Calm quiet context world)
    (there : ∃ archive, system.archive? world.store = some archive) :
    Yields context Cloud.remote (system.findArchive zone) world
      (fun _ after => Calm quiet context after ∧ world.store.Looked after.store)
      (fun error _ => error.Excused quiet) := by
  apply (system.findArchive_yields calm (.refl _)).mono
  · exact fun _ _ found => found.1
  · exact fun _ _ fails => fails there

/-- An edit is accepted when its rules hold and the keys and notes that it names are there. -/
structure UnixEdit.Accepted (edit : UnixEdit) (cloud : Cloud) : Prop where
  lawful : edit.check = .ok ()
  keys : ∀ id ∈ edit.sshKeyIds, ∃ key, cloud.sshKeys.get? id = some key
  notes : ∀ note ∈ edit.notes, ∃ stored, cloud.notes.get? note.id = some stored

/-- What an accepted edit names is still there in every extension. -/
theorem UnixEdit.Accepted.extended {edit : UnixEdit} (accepted : edit.Accepted base)
    (numbered : base.Numbered) (grown : base.Extends cloud drawn) : edit.Accepted cloud where
  lawful := accepted.lawful
  keys id member := by
    obtain ⟨key, stored⟩ := accepted.keys id member
    exact ⟨key, (grown.sshKeys id (numbered.sshKeys id key stored)).trans stored⟩
  notes note member := by
    obtain ⟨found, stored⟩ := accepted.notes note member
    exact ⟨found, (grown.notes note.id (numbered.notes _ found stored)).trans stored⟩

/-- The validation of an edit decides whether the cloud accepts it. -/
theorem UnixEdit.validate_yields (edit : UnixEdit) (calm : Calm quiet context world)
    (looked : base.Looked world.store) :
    Yields context Cloud.remote edit.validate world
      (fun _ after => (Calm quiet context after ∧ base.Looked after.store) ∧
        edit.Accepted base)
      (fun error _ => edit.Accepted base → error.Excused quiet) := by
  rw [validate, yields_bind]
  refine .checked (fun lawful => ?_) fun _ rejected accepted =>
    absurd accepted.lawful (Check.ne_ok_of_error rejected)
  have keys : Yields context Cloud.remote
      (edit.sshKeyIds.forM fun id => do
        let _ ← Build.call "read SSH key" (.credential (.readSshKey id))) world
      (fun _ after => (Calm quiet context after ∧ base.Looked after.store) ∧
        ∀ id ∈ edit.sshKeyIds, ∃ key, base.sshKeys.get? id = some key)
      (fun error _ => edit.Accepted base → error.Excused quiet) :=
    .forM _ _ (fun id member now ⟨calmNow, lookedNow⟩ =>
      ((yields_calm_finds calmNow lookedNow (.credential (.readSshKey id)) sshKeyTable id rfl
        fun _ _ _ _ _ => rfl).mono (fun _ _ found => found) fun _ _ excused accepted =>
          excused (accepted.keys id member)).bind fun _ _ found => found) ⟨calm, looked⟩
  apply keys.bind
  rintro - after ⟨goesOn, keys⟩
  have notes : Yields context Cloud.remote
      (edit.notes.forM fun note => do
        let _ ← Build.call "read note" (.credential (.readNote note.id))) after
      (fun _ after => (Calm quiet context after ∧ base.Looked after.store) ∧
        ∀ note ∈ edit.notes, ∃ stored, base.notes.get? note.id = some stored)
      (fun error _ => edit.Accepted base → error.Excused quiet) :=
    .forM _ _ (fun note member now ⟨calmNow, lookedNow⟩ =>
      ((yields_calm_finds calmNow lookedNow (.credential (.readNote note.id)) noteTable note.id rfl
        fun _ _ _ _ _ => rfl).mono (fun _ _ found => found) fun _ _ excused accepted =>
          excused (accepted.notes note member)).bind fun _ _ found => found) goesOn
  exact notes.mono (fun _ _ ⟨goesOn, notes⟩ => ⟨goesOn, lawful, keys, notes⟩) fun _ _ fails => fails

/-- The source of a copy is there. -/
def Lineage.Node.Stored (cloud : Cloud) : Lineage.Node → Prop
  | .disk id => ∃ disk, cloud.disks.get? id = some disk
  | .archive id => ∃ archive, cloud.archives.get? id = some archive

/-- A source that is there is still there in every extension. -/
theorem Lineage.Node.Stored.extended {source : Lineage.Node} (stored : source.Stored base)
    (numbered : base.Numbered) (grown : base.Extends cloud drawn) : source.Stored cloud := by
  cases source with
  | disk id =>
      obtain ⟨disk, stored⟩ := stored
      obtain ⟨same, found, -⟩ := grown.disk numbered stored
      exact ⟨same, found⟩
  | archive id =>
      rw [Stored, grown.archives]
      exact stored

/-- The lineage that begins at a record supports edits. -/
def Cloud.Editable (cloud : Cloud) (id : ResourceId) : Prop :=
  ∃ left last, cloud.library.Walks [] (.disk id) left last ∧
    cloud.library.Ends id left last (.editable true)

/-- A lineage that supports edits still supports them in every extension. -/
theorem Cloud.Editable.extended {id : ResourceId} (editable : base.Editable id)
    (numbered : base.Numbered) (grown : base.Extends cloud drawn) : cloud.Editable id := by
  obtain ⟨left, last, walks, ends⟩ := editable
  exact ⟨left, last, grown.walks numbered walks ends⟩

namespace DiskBlueprint

/-- A cloud that accepts a blueprint has everything that the blueprint refers to. -/
def Accepted (cloud : Cloud) : DiskBlueprint → Prop
  | unix spec system edit => spec.Accepted cloud ∧ system.supportsDiskEdit = true ∧
      (∃ archive, system.archive? cloud = some archive) ∧ edit.Accepted cloud
  | windows spec system _ => spec.Accepted cloud ∧ system.isWindows = true ∧
      ∃ archive, system.archive? cloud = some archive
  | fixedArchive spec system => spec.Accepted cloud ∧
      ∃ archive, system.archive? cloud = some archive
  | copied spec sourceDiskId sourceArchiveId edit => spec.Accepted cloud ∧
      ∃ source, sourceOf sourceDiskId sourceArchiveId = .ok source ∧ source.Stored cloud ∧
        ∀ unixEdit, edit = some unixEdit →
          cloud.Editable source.id ∧ unixEdit.Accepted cloud
  | blank spec => spec.Accepted cloud
  | connected _ diskId => Check.requireSet "disk" "disk id" diskId = .ok () ∧
      ∃ disk, cloud.disks.get? diskId = some disk

/-- What a cloud accepts is accepted by all its extensions. -/
theorem Accepted.extended {blueprint : DiskBlueprint} (accepted : blueprint.Accepted base)
    (numbered : base.Numbered) (grown : base.Extends cloud drawn) : blueprint.Accepted cloud := by
  have archives : ∀ system : OperatingSystem, system.archive? cloud = system.archive? base := by
    intro system
    rw [OperatingSystem.archive?, grown.archives, OperatingSystem.archive?]
  cases blueprint with
  | unix spec system edit =>
      obtain ⟨fits, supported, found, edits⟩ := accepted
      rw [← archives] at found
      exact ⟨fits.extended grown, supported, found, edits.extended numbered grown⟩
  | windows spec system edit =>
      obtain ⟨fits, supported, found⟩ := accepted
      rw [← archives] at found
      exact ⟨fits.extended grown, supported, found⟩
  | fixedArchive spec system =>
      obtain ⟨fits, found⟩ := accepted
      rw [← archives] at found
      exact ⟨fits.extended grown, found⟩
  | copied spec sourceDiskId sourceArchiveId edit =>
      obtain ⟨fits, source, chosen, stored, edits⟩ := accepted
      refine ⟨fits.extended grown, source, chosen, stored.extended numbered grown, ?_⟩
      intro unixEdit same
      obtain ⟨editable, lawful⟩ := edits unixEdit same
      exact ⟨editable.extended numbered grown, lawful.extended numbered grown⟩
  | blank spec => exact DiskSpec.Accepted.extended accepted grown
  | connected spec diskId =>
      obtain ⟨set, disk, stored⟩ := accepted
      obtain ⟨same, found, -⟩ := grown.disk numbered stored
      exact ⟨set, same, found⟩

/-- A source of a copy is read when it is there. -/
theorem readSource_yields (source : Lineage.Node) (calm : Calm quiet context world)
    (looked : base.Looked world.store) :
    Yields context Cloud.remote (readSource zone source) world
      (fun _ after => (Calm quiet context after ∧ base.Looked after.store) ∧ source.Stored base)
      (fun error _ => source.Stored base → error.Excused quiet) := by
  cases source with
  | disk id =>
      exact (yields_calm_readDisk calm looked "read source disk" zone id).bind
        fun _ _ found => found
  | archive id =>
      exact (yields_calm_finds calm looked (.catalogue zone (.readArchive id)) archiveTable id rfl
        fun _ _ _ _ _ => rfl).bind fun _ _ found => found

/-- A copy is edited when its lineage supports edits and the edit is accepted. -/
theorem validateCopyEdit_yields (source : ResourceId) (edit : UnixEdit)
    (calm : Calm quiet context world) (looked : base.Looked world.store)
    (scattered : quiet ∨ base.Scattered) :
    Yields context Cloud.remote (validateCopyEdit zone source edit) world
      (fun _ after => (Calm quiet context after ∧ base.Looked after.store) ∧
        base.Editable source ∧ edit.Accepted base)
      (fun error _ => base.Editable source ∧ edit.Accepted base → error.Excused quiet) := by
  have walked := Lineage.walk_yields (base.answers quiet context zone) scattered source
    (.disk source) List.nodup_nil (Nat.lt_succ_self Lineage.nodeCount) ⟨calm, looked⟩
  rw [validateCopyEdit, yields_bind, Lineage.canEdit]
  apply walked.mono
  · rintro supported after ⟨⟨calm, looked⟩, left, last, walks, ends⟩
    rw [yields_bind]
    refine .checked (fun passed => ?_) ?_
    · cases supported with
      | false => nomatch passed
      | true =>
          apply (edit.validate_yields calm looked).mono
          · exact fun _ _ ⟨goesOn, accepted⟩ => ⟨goesOn, ⟨left, last, walks, ends⟩, accepted⟩
          · exact fun _ _ fails ⟨_, accepted⟩ => fails accepted
    · rintro error rejected ⟨⟨leftToo, lastToo, walksToo, endsToo⟩, -⟩
      cases walks.unique ends walksToo endsToo
      nomatch rejected
  · rintro error after ⟨-, excused | ⟨left, last, ending, walks, ends, reports⟩⟩
    · exact fun _ => excused
    · rintro ⟨⟨leftToo, lastToo, walksToo, endsToo⟩, -⟩
      cases walks.unique ends walksToo endsToo
      exact reports.elim

/-- The validation of a copied disk decides whether the cloud accepts its blueprint, with or without
an edit. -/
theorem validate_copied_yields (spec : DiskSpec) (sourceDiskId sourceArchiveId : ResourceId)
    (edit : Option UnixEdit) (calm : Calm quiet context world) (looked : base.Looked world.store)
    (scattered : quiet ∨ base.Scattered) :
    Yields context Cloud.remote
      (validate zone (.copied spec sourceDiskId sourceArchiveId edit)) world
      (fun _ after => (Calm quiet context after ∧ base.Looked after.store) ∧
        Accepted base (.copied spec sourceDiskId sourceArchiveId edit))
      (fun error _ => Accepted base (.copied spec sourceDiskId sourceArchiveId edit) →
        error.Excused quiet) := by
  rw [validate, yields_bind]
  apply (spec.validate_yields calm looked).mono _ fun _ _ fails accepted => fails accepted.1
  rintro - after ⟨⟨calm, looked⟩, fits⟩
  rw [yields_bind, yields_liftExcept]
  cases chosen : sourceOf sourceDiskId sourceArchiveId with
  | error error =>
      rintro ⟨-, source, same, -⟩
      cases chosen.symm.trans same
  | ok source =>
      dsimp only
      rw [yields_bind]
      apply (readSource_yields source calm looked).mono
      · rintro - after ⟨⟨calm, looked⟩, stored⟩
        cases edit with
        | none =>
            dsimp only
            rw [yields_pure]
            refine ⟨⟨calm, looked⟩, fits, source, chosen, stored, ?_⟩
            rintro unixEdit ⟨⟩
        | some edit =>
            apply (validateCopyEdit_yields source.id edit calm looked scattered).mono
            · rintro - after ⟨goesOn, edits⟩
              refine ⟨goesOn, fits, source, chosen, stored, ?_⟩
              rintro unixEdit ⟨⟩
              exact edits
            · rintro error after fails ⟨-, other, same, -, edits⟩
              cases chosen.symm.trans same
              exact fails (edits edit rfl)
      · rintro error after fails ⟨-, other, same, storedToo, -⟩
        cases chosen.symm.trans same
        exact fails storedToo

/-- A validation succeeds only in a cloud that accepts the blueprint, and there it fails only with
an excuse. -/
theorem validate_yields (blueprint : DiskBlueprint) (calm : Calm quiet context world)
    (looked : base.Looked world.store) (scattered : quiet ∨ base.Scattered) :
    Yields context Cloud.remote (blueprint.validate zone) world
      (fun _ after => (Calm quiet context after ∧ base.Looked after.store) ∧
        blueprint.Accepted base)
      (fun error _ => blueprint.Accepted base → error.Excused quiet) := by
  cases blueprint with
  | unix spec system edit =>
      rw [validate, yields_bind]
      apply (spec.validate_yields calm looked).mono _ fun _ _ fails accepted => fails accepted.1
      rintro - after ⟨⟨calm, looked⟩, fits⟩
      rw [yields_bind]
      refine .checked (fun supported => ?_) fun _ rejected accepted =>
        absurd (Check.require_eq_ok.mpr accepted.2.1) (Check.ne_ok_of_error rejected)
      rw [yields_bind]
      apply (system.findArchive_yields calm looked).mono _
        fun _ _ fails accepted => fails accepted.2.2.1
      rintro archive after ⟨⟨calm, looked⟩, found⟩
      apply (edit.validate_yields calm looked).mono _
        fun _ _ fails accepted => fails accepted.2.2.2
      rintro - after ⟨goesOn, lawful⟩
      exact ⟨goesOn, fits, Check.require_eq_ok.mp supported, ⟨archive, found⟩, lawful⟩
  | windows spec system edit =>
      rw [validate, yields_bind]
      apply (spec.validate_yields calm looked).mono _ fun _ _ fails accepted => fails accepted.1
      rintro - after ⟨⟨calm, looked⟩, fits⟩
      rw [yields_bind]
      refine .checked (fun supported => ?_) fun _ rejected accepted =>
        absurd (Check.require_eq_ok.mpr accepted.2.1) (Check.ne_ok_of_error rejected)
      rw [yields_bind]
      apply (system.findArchive_yields calm looked).mono _
        fun _ _ fails accepted => fails accepted.2.2
      rintro archive after ⟨goesOn, found⟩
      exact ⟨goesOn, fits, Check.require_eq_ok.mp supported, archive, found⟩
  | fixedArchive spec system =>
      rw [validate, yields_bind]
      apply (spec.validate_yields calm looked).mono _ fun _ _ fails accepted => fails accepted.1
      rintro - after ⟨⟨calm, looked⟩, fits⟩
      rw [yields_bind]
      apply (system.findArchive_yields calm looked).mono _
        fun _ _ fails accepted => fails accepted.2
      rintro archive after ⟨goesOn, found⟩
      exact ⟨goesOn, fits, archive, found⟩
  | copied spec sourceDiskId sourceArchiveId edit =>
      exact validate_copied_yields spec sourceDiskId sourceArchiveId edit calm looked scattered
  | blank spec => exact spec.validate_yields calm looked
  | connected spec diskId =>
      rw [validate, yields_bind]
      refine .checked (fun set => ?_) fun _ rejected accepted =>
        absurd accepted.1 (Check.ne_ok_of_error rejected)
      rw [yields_bind]
      apply (yields_calm_readDisk calm looked "read disk" zone diskId).mono
      · exact fun _ _ ⟨goesOn, found⟩ => ⟨goesOn, set, found⟩
      · exact fun _ _ fails accepted => fails accepted.2

end DiskBlueprint

end Provisioning
