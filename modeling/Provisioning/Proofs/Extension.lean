import Provisioning.Proofs.LineageWalk

/-!
Extensions of a cloud. A cloud extends another one when its counter has gone on and everything that
was numbered before is still there. What a validation has found in a cloud can be found in all its
extensions, and a walk that has decided for edits decides for them again.
-/

namespace Provisioning.Cloud

open Lineage

/-- The counter of a cloud has reached an identifier. -/
def Reached (cloud : Cloud) (id : ResourceId) : Prop := id.value.toNat ≤ cloud.lastId.toNat

/-- The counter of a numbered cloud has reached the identifiers of its disks and archives, of its
keys and notes, and of its servers. -/
structure Numbered (cloud : Cloud) : Prop where
  disks : ∀ id disk, cloud.disks.get? id = some disk → cloud.Reached id
  archives : ∀ id archive, cloud.archives.get? id = some archive → cloud.Reached id
  sshKeys : ∀ id key, cloud.sshKeys.get? id = some key → cloud.Reached id
  notes : ∀ id note, cloud.notes.get? id = some note → cloud.Reached id
  servers : ∀ id server, cloud.servers.get? id = some server → cloud.Reached id

/-- No disk of a scattered cloud shares its identifier with an archive. -/
abbrev Scattered (cloud : Cloud) : Prop := cloud.library.Scattered

/-- A cloud extends a base when it has drawn some numbers since and has kept what the counter of the
base had reached: the lineage of disks, keys, notes and the interfaces of servers. -/
structure Extends (base cloud : Cloud) (drawn : Nat) : Prop where
  counted : cloud.lastId.toNat = base.lastId.toNat + drawn
  settleReads : cloud.settleReads = base.settleReads
  archives : cloud.archives = base.archives
  diskPlans : cloud.diskPlans = base.diskPlans
  packetFilters : cloud.packetFilters = base.packetFilters
  cdroms : cloud.cdroms = base.cdroms
  lineage : ∀ id, base.Reached id →
    (cloud.disks.get? id).map Disk.lineage = (base.disks.get? id).map Disk.lineage
  sshKeys : ∀ id, base.Reached id → cloud.sshKeys.get? id = base.sshKeys.get? id
  notes : ∀ id, base.Reached id → cloud.notes.get? id = base.notes.get? id
  interfaces : ∀ id, base.Reached id →
    (cloud.servers.get? id).map Server.interfaces = (base.servers.get? id).map Server.interfaces

namespace Looked

variable {before after : Cloud}

/-- A cloud that has only been looked at extends itself without drawing a number. -/
theorem extends_zero (looked : before.Looked after) : before.Extends after 0 where
  counted := by rw [looked.rest]; rfl
  settleReads := looked.settleReads
  archives := looked.archives
  diskPlans := by rw [looked.rest]
  packetFilters := by rw [looked.rest]
  cdroms := by rw [looked.rest]
  lineage id _ := looked.lineage id
  sshKeys id _ := by rw [looked.rest]
  notes id _ := by rw [looked.rest]
  interfaces id _ := by rw [looked.rest]

/-- A look reaches no further identifier. -/
theorem reached (looked : before.Looked after) {id : ResourceId} :
    after.Reached id ↔ before.Reached id := by
  rw [Reached, looked.rest]
  exact Iff.rfl

/-- A numbered cloud is still numbered after it has been looked at. -/
theorem numbered (looked : before.Looked after) (numbered : before.Numbered) : after.Numbered where
  disks id disk stored := by
    obtain ⟨original, found, -⟩ := looked.disk stored
    exact looked.reached.mpr (numbered.disks id original found)
  archives id archive stored := by
    rw [looked.archives] at stored
    exact looked.reached.mpr (numbered.archives id archive stored)
  sshKeys id key stored := by
    rw [looked.rest] at stored
    exact looked.reached.mpr (numbered.sshKeys id key stored)
  notes id note stored := by
    rw [looked.rest] at stored
    exact looked.reached.mpr (numbered.notes id note stored)
  servers id server stored := by
    rw [looked.rest] at stored
    exact looked.reached.mpr (numbered.servers id server stored)

end Looked

namespace Extends

variable {base cloud last : Cloud} {drawn more : Nat} {id : ResourceId}

/-- An extension has reached every identifier that the base has reached. -/
theorem reached (grown : base.Extends cloud drawn) (early : base.Reached id) :
    cloud.Reached id := by
  rw [Reached, grown.counted]
  exact Nat.le_add_right_of_le early

/-- Extensions of extensions are extensions, and the numbers that they draw add up. -/
theorem trans (first : base.Extends cloud drawn) (second : cloud.Extends last more) :
    base.Extends last (drawn + more) where
  counted := by rw [second.counted, first.counted, Nat.add_assoc]
  settleReads := second.settleReads.trans first.settleReads
  archives := second.archives.trans first.archives
  diskPlans := second.diskPlans.trans first.diskPlans
  packetFilters := second.packetFilters.trans first.packetFilters
  cdroms := second.cdroms.trans first.cdroms
  lineage id early := (second.lineage id (first.reached early)).trans (first.lineage id early)
  sshKeys id early := (second.sshKeys id (first.reached early)).trans (first.sshKeys id early)
  notes id early := (second.notes id (first.reached early)).trans (first.notes id early)
  interfaces id early :=
    (second.interfaces id (first.reached early)).trans (first.interfaces id early)

/-- An extension that is looked at is still an extension. -/
theorem looked (grown : base.Extends cloud drawn) (looked : cloud.Looked last) :
    base.Extends last drawn :=
  grown.trans looked.extends_zero

/-- A disk of the base is still there, with its lineage. -/
theorem disk (grown : base.Extends cloud drawn) (numbered : base.Numbered) {disk : Disk}
    (stored : base.disks.get? id = some disk) :
    ∃ same, cloud.disks.get? id = some same ∧ same.lineage = disk.lineage := by
  have kept := grown.lineage id (numbered.disks id disk stored)
  rw [stored, Option.map_some] at kept
  exact Option.map_eq_some_iff.mp kept

/-- A disk whose identifier the base had reached was in the base. -/
theorem base_disk (grown : base.Extends cloud drawn) (early : base.Reached id) {disk : Disk}
    (stored : cloud.disks.get? id = some disk) :
    ∃ original, base.disks.get? id = some original ∧ original.lineage = disk.lineage := by
  have kept := grown.lineage id early
  rw [stored, Option.map_some] at kept
  exact Option.map_eq_some_iff.mp kept.symm

/-- A server of the base is still there with the same interfaces. -/
theorem server (grown : base.Extends cloud drawn) (numbered : base.Numbered) {server : Server}
    (stored : base.servers.get? id = some server) :
    ∃ same, cloud.servers.get? id = some same ∧ same.interfaces = server.interfaces := by
  have kept := grown.interfaces id (numbered.servers id server stored)
  rw [stored, Option.map_some] at kept
  exact Option.map_eq_some_iff.mp kept

/-- An extension of a scattered cloud is scattered. -/
theorem scattered (grown : base.Extends cloud drawn) (numbered : base.Numbered)
    (scattered : base.Scattered) : cloud.Scattered := by
  intro id disk stored
  change cloud.archives.get? id = none
  rw [grown.archives]
  by_cases early : base.Reached id
  · obtain ⟨original, found, -⟩ := grown.base_disk early stored
    exact scattered id original found
  · cases found : base.archives.get? id with
    | none => rfl
    | some archive => exact absurd (numbered.archives id archive found) early

section Lineage

variable {start : ResourceId} {visited left : List Node} {node next final : Node}
  {supported : Bool}

/-- A record is judged as in the base, unless it is a disk that the base had not reached. -/
theorem judge? (grown : base.Extends cloud drawn)
    (early : ∀ id, node = .disk id → base.Reached id) :
    cloud.library.judge? node = base.library.judge? node := by
  cases node with
  | disk id =>
      have kept := grown.lineage id (early id rfl)
      have absent : base.disks.get? id = none → cloud.library.disk? id = none := by
        intro stored
        rwa [stored, Option.map_none, Option.map_eq_none_iff] at kept
      have present : ∀ disk, base.disks.get? id = some disk →
          ∃ same, cloud.library.disk? id = some same ∧ same.lineage = disk.lineage := by
        intro disk stored
        rw [stored, Option.map_some] at kept
        exact Option.map_eq_some_iff.mp kept
      rw [Library.judge?, Library.judge?]
      cases stored : base.library.disk? id with
      | none => rw [absent stored]
      | some disk =>
          obtain ⟨same, found, equal⟩ := present disk stored
          rw [found]
          exact congrArg some (judgeDisk_congr equal)
  | archive id =>
      rw [Library.judge?, Library.judge?]
      change (cloud.archives.get? id).map judgeArchive = (base.archives.get? id).map judgeArchive
      rw [grown.archives]

/-- A walk that decides about edits comes by no disk that the base had not reached. -/
theorem reached_of_walks (numbered : base.Numbered)
    (walks : base.library.Walks visited (.disk id) left final)
    (ends : base.library.Ends start left final (.editable supported)) : base.Reached id := by
  cases stored : base.disks.get? id with
  | some disk => exact numbered.disks id disk stored
  | none =>
      have absent : base.library.disk? id = none := stored
      cases walks with
      | here =>
          cases ends with
          | bareDisk fresh found proper noDisk noArchive => nomatch absent.symm.trans found
      | step fresh follows rest =>
          cases follows with
          | absentDisk _ =>
              cases found : base.archives.get? id with
              | some archive => exact numbered.archives id archive found
              | none => exact absurd ends (Library.not_walks_of_absent found rest)
          | diskOfDisk found proper set => nomatch absent.symm.trans found
          | archiveOfDisk found proper unset set => nomatch absent.symm.trans found

/-- A walk that decides about edits in the base decides in the same way in an extension. -/
theorem walks (grown : base.Extends cloud drawn) (numbered : base.Numbered)
    (walks : base.library.Walks visited node left final)
    (ends : base.library.Ends start left final (.editable supported)) :
    cloud.library.Walks visited node left final ∧
      cloud.library.Ends start left final (.editable supported) := by
  have judged : ∀ {visited : List Node} {node : Node},
      base.library.Walks visited node left final →
        cloud.library.judge? node = base.library.judge? node := by
    intro visited node walks
    apply grown.judge?
    rintro id rfl
    exact reached_of_walks numbered walks ends
  induction walks with
  | here =>
      refine ⟨.here, ?_⟩
      rcases ends.judge? with ⟨-, same⟩ | ⟨fresh, decided⟩
      · nomatch same
      · have sound := cloud.library.judge?_sound start fresh
        rw [judged .here, decided] at sound
        exact sound
  | step fresh follows rest inductionHypothesis =>
      obtain ⟨restToo, endsToo⟩ := inductionHypothesis ends judged
      have sound := cloud.library.judge?_sound start fresh
      rw [judged (.step fresh follows rest), follows.judge?] at sound
      exact ⟨.step fresh sound restToo, endsToo⟩

end Lineage

end Extends

end Provisioning.Cloud
