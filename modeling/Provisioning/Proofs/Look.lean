import Provisioning.Proofs.Calm
import Provisioning.Proofs.LineageRule

/-!
Looks at a cloud. A look leaves a cloud as it is, but a read of a disk may settle the disk. What a
validation looks up is what the cloud had when the validation began.
-/

namespace Provisioning

namespace Cloud

open CloudStep

/-- A look at a cloud may settle disks, which keep their lineage, and leaves the rest as it is. -/
structure Looked (before after : Cloud) : Prop where
  rest : after =
    { before with
      calls := after.calls
      failures := after.failures
      pending := after.pending
      disks := after.disks }
  lineage : ∀ id,
    (after.disks.get? id).map Disk.lineage = (before.disks.get? id).map Disk.lineage

namespace Looked

variable {before middle after : Cloud}

theorem refl (cloud : Cloud) : cloud.Looked cloud := ⟨rfl, fun _ => rfl⟩

theorem trans (first : before.Looked middle) (second : middle.Looked after) :
    before.Looked after where
  rest := by
    rw [second.rest, first.rest]
  lineage id := (second.lineage id).trans (first.lineage id)

/-- Logging a call is a look. -/
theorem logging (request : Request) (failures : List (Endpoint × RemoteError)) :
    before.Looked (before.logging request failures) := ⟨rfl, fun _ => rfl⟩

/-- A look after a call was logged is a look at the cloud before the call. -/
theorem of_logging {request : Request} {failures : List (Endpoint × RemoteError)}
    (looked : (before.logging request failures).Looked after) : before.Looked after :=
  ⟨looked.rest, looked.lineage⟩

theorem archives (looked : before.Looked after) : after.archives = before.archives := by
  rw [looked.rest]

theorem settleReads (looked : before.Looked after) : after.settleReads = before.settleReads := by
  rw [looked.rest]

theorem switches (looked : before.Looked after) : after.switches = before.switches := by
  rw [looked.rest]

theorem sims (looked : before.Looked after) : after.sims = before.sims := by
  rw [looked.rest]

/-- A disk that is there after a look was there before it. -/
theorem disk (looked : before.Looked after) {id : ResourceId} {disk : Disk}
    (stored : after.disks.get? id = some disk) :
    ∃ original, before.disks.get? id = some original ∧ disk.lineage = original.lineage := by
  have same := looked.lineage id
  rw [stored, Option.map_some] at same
  obtain ⟨original, found, equal⟩ := Option.map_eq_some_iff.mp same.symm
  exact ⟨original, found, equal.symm⟩

/-- A look neither brings a disk into being nor removes one. -/
theorem disk_none (looked : before.Looked after) {id : ResourceId} :
    after.disks.get? id = none ↔ before.disks.get? id = none := by
  rw [← Option.map_eq_none_iff (f := Disk.lineage), looked.lineage, Option.map_eq_none_iff]

/-- A write that keeps the lineage of a stored disk is a look. -/
theorem of_insert {id : ResourceId} {disk changed : Disk} {pending : Records Nat}
    (stored : before.disks.get? id = some disk) (same : changed.lineage = disk.lineage) :
    before.Looked
      { before with pending := pending, disks := before.disks.insert id changed } where
  rest := rfl
  lineage other := by
    dsimp only
    rw [SortedMap.get?_insert]
    split
    next here =>
      subst here
      rw [stored, Option.map_some, Option.map_some, same]
    next elsewhere => rfl

end Looked

/-- A look leaves a steady table as it is. -/
def Table.Steady {ρ : Type} (table : Table ρ) : Prop :=
  ∀ cloud calls failures pending disks,
    table.read { cloud with
      calls := calls
      failures := failures
      pending := pending
      disks := disks } = table.read cloud

/-- A steady table has the same records after a look. -/
theorem Table.Steady.read_eq {ρ : Type} {table : Table ρ} (steady : table.Steady)
    {before after : Cloud} (looked : before.Looked after) :
    table.read after = table.read before := by
  rw [looked.rest]
  exact steady _ _ _ _ _

/-- A read of a disk looks at the cloud and shows the lineage of the disk. -/
theorem answerDisk_read (cloud : Cloud) (id : ResourceId) :
    Yields (answerDisk (.read id)) cloud
      (fun read after => cloud.Looked after ∧
        ∃ disk, cloud.disks.get? id = some disk ∧ read.lineage = disk.lineage)
      (fun miss after => cloud.Looked after ∧ cloud.disks.get? id = none ∧ miss.isNotFound) := by
  simp only [answerDisk, yields_readSettling, yields_change, yields_find, diskTable]
  cases stored : cloud.disks.get? id with
  | none => exact ⟨.refl cloud, rfl, rfl⟩
  | some disk =>
      dsimp only
      cases cloud.pending.get? id with
      | none => exact ⟨.of_insert stored rfl, disk, rfl, rfl⟩
      | some left =>
          dsimp only
          split
          · exact ⟨⟨rfl, fun _ => rfl⟩, disk, rfl, rfl⟩
          · exact ⟨.of_insert stored rfl, disk, rfl, rfl⟩

end Cloud

namespace Program

variable {quiet : Prop} {context : Context} {world : World Cloud} {base : Cloud}

/-- A lookup leaves the cloud as it is. When the record is there, it fails only with an excuse. -/
theorem yields_calm_lookup (calm : Calm quiet context world)
    (looked : base.Looked world.store) {label : String} (request : Request)
    (table : Cloud.Table request.Answer) (id : ResourceId)
    (looksUp : Cloud.answerRequest request = table.find id) (steady : table.Steady) :
    Yields context Cloud.remote (Build.call label request) world
      (fun record after => (Calm quiet context after ∧ base.Looked after.store) ∧
        (table.read base).get? id = some record)
      (fun error _ => (∃ record, (table.read base).get? id = some record) →
        error.Excused quiet) := by
  rw [Build.call, yields_during]
  have logged := looked.trans (.logging request world.store.failures)
  apply yields_calm_attempt calm
  · rw [looksUp, CloudStep.yields_find, steady.read_eq logged]
    cases (table.read base).get? id with
    | none =>
        rintro - ⟨record, stored⟩
        cases stored
    | some record => exact fun calmAfter => ⟨⟨calmAfter, logged⟩, rfl⟩
  · exact fun noisy error failures _ => ⟨noisy, ProvisionError.not_isValidation_ofRemote _ _⟩

/-- A validation that looks a record up finds out that the record is there. -/
theorem yields_calm_finds (calm : Calm quiet context world)
    (looked : base.Looked world.store) {label : String} (request : Request)
    (table : Cloud.Table request.Answer) (id : ResourceId)
    (looksUp : Cloud.answerRequest request = table.find id) (steady : table.Steady) :
    Yields context Cloud.remote (Build.call label request) world
      (fun _ after => (Calm quiet context after ∧ base.Looked after.store) ∧
        ∃ record, (table.read base).get? id = some record)
      (fun error _ => (∃ record, (table.read base).get? id = some record) →
        error.Excused quiet) :=
  (yields_calm_lookup calm looked request table id looksUp steady).mono
    (fun record _ ⟨goesOn, stored⟩ => ⟨goesOn, record, stored⟩) fun _ _ fails => fails

/-- A switch that is read is in the base that was looked at. -/
theorem yields_calm_switch (calm : Calm quiet context world)
    (looked : base.Looked world.store) (zone : Zone) (id : ResourceId) :
    Yields context Cloud.remote
      (Build.call "read switch" (.catalogue zone (.readSwitch id))) world
      (fun _ after => (Calm quiet context after ∧ base.Looked after.store) ∧
        ∃ switch, base.switches.get? id = some switch)
      (fun _ _ => True) :=
  (yields_calm_finds calm looked (.catalogue zone (.readSwitch id)) Cloud.switchTable id rfl
    fun _ _ _ _ _ => rfl).mono (fun _ _ found => found) fun _ _ _ => trivial

/-- A read of a disk looks at the cloud. When the disk is there, it fails only with an excuse. -/
theorem yields_calm_readDisk (calm : Calm quiet context world) (looked : base.Looked world.store)
    (label : String) (zone : Zone) (id : ResourceId) :
    Yields context Cloud.remote (Build.call label (.disk zone (.read id))) world
      (fun _ after => (Calm quiet context after ∧ base.Looked after.store) ∧
        ∃ disk, base.disks.get? id = some disk)
      (fun error _ => (∃ disk, base.disks.get? id = some disk) → error.Excused quiet) := by
  rw [Build.call, yields_during]
  apply yields_calm_attempt calm
  · apply (Cloud.answerDisk_read _ id).mono
    · rintro read after ⟨lookedToo, disk, stored, -⟩ calmAfter
      obtain ⟨original, found, -⟩ := looked.disk stored
      exact ⟨⟨calmAfter, looked.trans lookedToo.of_logging⟩, original, found⟩
    · rintro miss after ⟨lookedToo, absent, -⟩ - ⟨disk, stored⟩
      cases (looked.disk_none.mp absent).symm.trans stored
  · exact fun noisy error failures _ => ⟨noisy, ProvisionError.not_isValidation_ofRemote _ _⟩

end Program

end Provisioning
