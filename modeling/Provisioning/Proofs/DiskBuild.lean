import Provisioning.Proofs.DiskCheck
import Provisioning.Proofs.Waits

/-!
Builds of disks. A build of an accepted disk extends the cloud: it draws some numbers, and what it
deletes again it has made itself. In quiet circumstances it does not fail.
-/

namespace Provisioning

open Program Cloud

variable {quiet : Prop} {context : Context} {world : World Cloud} {zone : Zone} {base cloud : Cloud}
  {drawn : Nat}

namespace Cloud

/-- The next number is above the counter unless the counter overflows. -/
theorem next_toNat {last : UInt64} (room : last.toNat + 1 < UInt64.size) :
    (last + 1).toNat = last.toNat + 1 := by
  rw [UInt64.toNat_add, UInt64.toNat_one]
  exact Nat.mod_eq_of_lt room

/-- No counter has reached its next number. -/
theorem next_new (room : cloud.lastId.toNat + 1 < UInt64.size) :
    ¬ cloud.Reached ⟨cloud.lastId + 1⟩ := by
  rw [Reached, next_toNat room]
  omega

/-- An identifier that the counter has reached is not the next one. -/
theorem ne_next (room : cloud.lastId.toNat + 1 < UInt64.size) {id : ResourceId}
    (early : cloud.Reached id) : id ≠ ⟨cloud.lastId + 1⟩ := by
  rintro rfl
  exact next_new room early

end Cloud

namespace UnixEdit

/-- An edit draws a number for its generated key and one for each note. -/
def draws (edit : UnixEdit) : Nat := edit.generateSshKey.toList.length + edit.noteContents.length

/-- A note is stored under a new identifier, and the keys stay as they are. -/
theorem createNote_yields (content : String) (calm : Calm quiet context world)
    (room : world.store.lastId.toNat + 1 < UInt64.size) :
    Yields context Cloud.remote (createNote content) world
      (fun id after => Calm quiet context after ∧ world.store.Extends after.store 1 ∧
        after.store.sshKeys = world.store.sshKeys ∧
        (∃ note, after.store.notes.get? id = some note) ∧ ¬ world.store.Reached id ∧
        after.store.Reached id)
      (fun error _ => error.Excused quiet) := by
  rw [createNote, yields_bind]
  apply yields_calm_call calm
  intro calmAfter
  refine ⟨calmAfter, ?_, rfl, ⟨_, SortedMap.get?_insert_self _ _ _⟩, next_new room,
    Nat.le_refl _⟩
  exact {
    (Looked.refl world.store).extends_zero with
    counted := next_toNat room
    notes := fun id early =>
      (SortedMap.get?_insert _ _ _ _).trans (if_neg (ne_next room early)) }

/-- The notes of an edit are new and differ from each other. -/
theorem createNotes_yields (contents : List String) (calm : Calm quiet context world)
    (room : world.store.lastId.toNat + contents.length < UInt64.size) :
    Yields context Cloud.remote (contents.mapM createNote) world
      (fun ids after => Calm quiet context after ∧
        world.store.Extends after.store contents.length ∧
        after.store.sshKeys = world.store.sshKeys ∧
        (∀ id ∈ ids, (∃ note, after.store.notes.get? id = some note) ∧
          ¬ world.store.Reached id) ∧ ids.Nodup)
      (fun error _ => error.Excused quiet) := by
  induction contents generalizing world with
  | nil =>
      rw [List.mapM_nil]
      exact ⟨calm, (Looked.refl _).extends_zero, rfl, nofun, List.nodup_nil⟩
  | cons content rest inductionHypothesis =>
      rw [List.length_cons] at room
      rw [List.mapM_cons]
      apply (createNote_yields content calm (by omega)).bind
      rintro id after ⟨calm, grown, keys, ⟨note, stored⟩, new, reached⟩
      have counted := grown.counted
      apply (inductionHypothesis calm (by omega)).bind
      rintro ids last ⟨calm, grownToo, keysToo, others, distinct⟩
      refine ⟨calm, ?_, keysToo.trans keys, ?_, ?_⟩
      · rw [List.length_cons, Nat.add_comm]
        exact grown.trans grownToo
      · refine List.forall_mem_cons.mpr ⟨⟨⟨note, ?_⟩, new⟩, fun other member => ?_⟩
        · exact (grownToo.notes id reached).trans stored
        · obtain ⟨found, newToo⟩ := others other member
          exact ⟨found, fun early => newToo (grown.reached early)⟩
      · exact List.nodup_cons.mpr ⟨fun again => (others id again).2 reached, distinct⟩

/-- A key is stored under a new identifier when the edit generates one. -/
theorem generateKey_yields (edit : UnixEdit) (calm : Calm quiet context world)
    (room : world.store.lastId.toNat + edit.generateSshKey.toList.length < UInt64.size) :
    Yields context Cloud.remote edit.generateKey world
      (fun key after => Calm quiet context after ∧
        world.store.Extends after.store edit.generateSshKey.toList.length ∧
        ∀ pair, key = some pair → (∃ stored, after.store.sshKeys.get? pair.id = some stored) ∧
          ¬ world.store.Reached pair.id)
      (fun error _ => error.Excused quiet) := by
  rw [generateKey]
  cases declared : edit.generateSshKey with
  | none => exact ⟨calm, (Looked.refl _).extends_zero, nofun⟩
  | some generation =>
      rw [declared] at room
      dsimp only
      rw [yields_bind]
      apply yields_calm_call calm
      intro calmAfter
      refine ⟨calmAfter, ?_, ?_⟩
      · exact {
          (Looked.refl world.store).extends_zero with
          counted := next_toNat room
          sshKeys := fun id early =>
            (SortedMap.get?_insert _ _ _ _).trans (if_neg (ne_next room early)) }
      · rintro pair ⟨⟩
        exact ⟨⟨_, SortedMap.get?_insert_self _ _ _⟩, next_new room⟩

end UnixEdit

/-- Artifacts that were made after a base are there and differ from each other. -/
structure Artifacts.Made (base cloud : Cloud) (artifacts : Artifacts) : Prop where
  key : ∀ pair, artifacts.generatedKey = some pair →
    (∃ stored, cloud.sshKeys.get? pair.id = some stored) ∧ ¬ base.Reached pair.id
  notes : ∀ id ∈ artifacts.noteIds,
    (∃ note, cloud.notes.get? id = some note) ∧ ¬ base.Reached id
  distinct : artifacts.noteIds.Nodup

theorem Artifacts.made_none : Artifacts.none.Made base cloud := ⟨nofun, nofun, List.nodup_nil⟩

/-- What was made after a later cloud was made after an earlier one. -/
theorem Artifacts.Made.extended {artifacts : Artifacts} {middle : Cloud}
    (made : artifacts.Made middle cloud) (grown : base.Extends middle drawn) :
    artifacts.Made base cloud where
  key pair present := by
    obtain ⟨stored, new⟩ := made.key pair present
    exact ⟨stored, fun early => new (grown.reached early)⟩
  notes id member := by
    obtain ⟨stored, new⟩ := made.notes id member
    exact ⟨stored, fun early => new (grown.reached early)⟩
  distinct := made.distinct

/-- The preparation of an edit draws the numbers of the edit and makes its artifacts, and in quiet
circumstances it does not fail. -/
theorem UnixEdit.prepare_yields (edit : UnixEdit) (calm : Calm quiet context world)
    (room : world.store.lastId.toNat + edit.draws < UInt64.size) :
    Yields context Cloud.remote edit.prepare world
      (fun prepared after => Calm quiet context after ∧
        world.store.Extends after.store edit.draws ∧ prepared.2.Made world.store after.store)
      (fun error _ => error.Excused quiet) := by
  rw [draws] at room
  apply (edit.generateKey_yields calm (by omega)).bind
  rintro key after ⟨calm, grown, keyMade⟩
  have counted := grown.counted
  apply (createNotes_yields edit.noteContents calm (by omega)).bind
  rintro ids last ⟨calm, grownToo, keys, notes, distinct⟩
  refine ⟨calm, grown.trans grownToo, ?_, ?_, distinct⟩
  · rw [keys]
    exact keyMade
  · intro id member
    obtain ⟨found, new⟩ := notes id member
    exact ⟨found, fun early => new (grown.reached early)⟩

namespace Artifacts

variable {artifacts : Artifacts}

/-- The deletion of a note that was made after the base leaves the other notes. -/
theorem deleteNote_yields {id : ResourceId} {note : Note} (calm : Calm quiet context world)
    (grown : base.Extends world.store drawn) (stored : world.store.notes.get? id = some note)
    (new : ¬ base.Reached id) :
    Yields context Cloud.remote (Build.call "delete note" (.credential (.deleteNote id))) world
      (fun _ after => Calm quiet context after ∧ base.Extends after.store drawn ∧
        ∀ other ≠ id, after.store.notes.get? other = world.store.notes.get? other)
      (fun error _ => error.Excused quiet) := by
  apply yields_calm_call calm
  rw [answerRequest, answerCredential]
  apply CloudStep.Yields.remove _ _ stored
  intro calmAfter
  refine ⟨calmAfter, ?_, fun other apart => (SortedMap.get?_erase _ _ _).trans (if_neg apart)⟩
  exact {
    grown with
    notes := fun other early => by
      have apart : other ≠ id := fun same => new (same ▸ early)
      exact ((SortedMap.get?_erase _ _ _).trans (if_neg apart)).trans (grown.notes other early) }

/-- The notes that were made after the base are deleted one by one, and the cloud still extends the
base. -/
theorem forM_deleteNote_yields {ids : List ResourceId} (calm : Calm quiet context world)
    (grown : base.Extends world.store drawn)
    (made : ∀ id ∈ ids, (∃ note, world.store.notes.get? id = some note) ∧ ¬ base.Reached id)
    (distinct : ids.Nodup) :
    Yields context Cloud.remote
      (ids.forM fun id => Build.call "delete note" (.credential (.deleteNote id))) world
      (fun _ after => Calm quiet context after ∧ base.Extends after.store drawn)
      (fun error _ => error.Excused quiet) := by
  induction ids generalizing world with
  | nil => exact ⟨calm, grown⟩
  | cons id rest inductionHypothesis =>
      obtain ⟨⟨⟨note, stored⟩, new⟩, others⟩ := List.forall_mem_cons.mp made
      obtain ⟨apart, distinct⟩ := List.nodup_cons.mp distinct
      rw [List.forM]
      apply (deleteNote_yields calm grown stored new).bind
      rintro - after ⟨calm, grown, kept⟩
      apply inductionHypothesis calm grown _ distinct
      intro other member
      rw [kept other fun same => apart (same ▸ member)]
      exact others other member

/-- The disposal deletes only what was made after the base. -/
theorem dispose_yields (calm : Calm quiet context world) (grown : base.Extends world.store drawn)
    (made : artifacts.Made base world.store) :
    Yields context Cloud.remote artifacts.dispose world
      (fun _ after => Calm quiet context after ∧ base.Extends after.store drawn)
      (fun error _ => error.Excused quiet) := by
  have deletesNotes : ∀ now : World Cloud, Calm quiet context now →
      base.Extends now.store drawn → now.store.notes = world.store.notes →
        Yields context Cloud.remote (do
          if artifacts.deleteNotes then
            artifacts.noteIds.forM fun id =>
              Build.call "delete note" (.credential (.deleteNote id))
          return artifacts.generatedKey.map GeneratedSshKey.privateKey) now
        (fun _ after => Calm quiet context after ∧ base.Extends after.store drawn)
        (fun error _ => error.Excused quiet) := by
    intro now calm grown same
    rw [yields_ite]
    split
    · have notes := made.notes
      rw [← same] at notes
      exact (forM_deleteNote_yields calm grown notes made.distinct).bind fun _ _ goesOn => goesOn
    · exact ⟨calm, grown⟩
  rw [dispose, yields_ite]
  split
  · split
    next pair present =>
      obtain ⟨⟨key, stored⟩, new⟩ := made.key pair present
      have deleted : Yields context Cloud.remote
          (Build.call "delete generated SSH key" (.credential (.deleteSshKey pair.id))) world
          (fun _ after => Calm quiet context after ∧ base.Extends after.store drawn ∧
            after.store.notes = world.store.notes)
          (fun error _ => error.Excused quiet) := by
        apply yields_calm_call calm
        rw [answerRequest, answerCredential]
        apply CloudStep.Yields.remove _ _ stored
        refine fun calmAfter => ⟨calmAfter, ?_, rfl⟩
        exact {
          grown with
          sshKeys := fun other early => by
            have apart : other ≠ pair.id := fun same => new (same ▸ early)
            exact ((SortedMap.get?_erase _ _ _).trans (if_neg apart)).trans
              (grown.sshKeys other early) }
      apply deleted.bind
      rintro - after ⟨calm, grown, same⟩
      exact deletesNotes after calm grown same
    next => exact deletesNotes world calm grown rfl
  · exact deletesNotes world calm grown rfl

end Artifacts

/-- A wait for a disk is a look, for a disk keeps its lineage when it settles. -/
theorem Cloud.Reader.Settles.looked {before after : Cloud} {id : ResourceId} {disk : Disk}
    (settles : (Reader.disks zone).Settles id disk before after)
    (stored : before.disks.get? id = some disk) : before.Looked after := by
  obtain ⟨middle, waited, -, rfl⟩ := settles
  have lookedMiddle : before.Looked middle := ⟨by rw [waited.rest], fun _ => by rw [waited.rest]⟩
  have storedMiddle : middle.disks.get? id = some disk := by
    rw [waited.rest]
    exact stored
  have same : before.disks = middle.disks := by rw [waited.rest]
  have settled : middle.Looked
      { middle with disks := middle.disks.insert id ((Reader.disks zone).settled disk) } :=
    .of_insert storedMiddle rfl
  change before.Looked { middle with disks := before.disks.insert id _ }
  rw [same]
  exact lookedMiddle.trans settled

namespace DiskBlueprint

variable {spec : DiskSpec} {creation : Creation} {serverId diskId : ResourceId}

/-- A disk may be built for no server or for a server that is there. -/
def Hosted (serverId : ResourceId) (cloud : Cloud) : Prop :=
  serverId = .unset ∨ ∃ server, cloud.servers.get? serverId = some server

/-- A server that is there is still there in every extension. -/
theorem Hosted.extended (hosted : Hosted serverId base) (numbered : base.Numbered)
    (grown : base.Extends cloud drawn) : Hosted serverId cloud := by
  rcases hosted with unset | ⟨server, stored⟩
  · exact .inl unset
  · obtain ⟨same, found, -⟩ := grown.server numbered stored
    exact .inr ⟨same, found⟩

/-- A new disk extends the cloud, and its server has the same interfaces as before. -/
theorem extends_withDisk (cloud : Cloud) (request : DiskCreateRequest)
    (edit : Option DiskEditRequest) (room : cloud.lastId.toNat + 1 < UInt64.size) :
    cloud.Extends (cloud.withDisk request edit) 1 :=
  { (Looked.refl cloud).extends_zero with
    counted := next_toNat room
    lineage := fun id early => by
      have apart := ne_next room early
      rw [withDisk]
      dsimp only
      rw [SortedMap.get?_insert, if_neg apart]
    interfaces := fun id early => by
      rw [withDisk]
      dsimp only
      rw [SortedMap.get?_modify]
      split
      · rw [Option.map_map]
        rfl
      · rfl }

/-- A new disk is stored and needs as many reads as any other before it settles. -/
structure Created (base : Cloud) (disk : Disk) (cloud : Cloud) : Prop where
  grown : base.Extends cloud 1
  sshKeys : cloud.sshKeys = base.sshKeys
  notes : cloud.notes = base.notes
  creating : disk.availability = .migrating
  stored : cloud.disks.get? disk.id = some disk
  counted : cloud.pending.get? disk.id = some base.settleReads

/-- A cloud with one more disk has created this disk. -/
theorem created_withDisk (cloud : Cloud) (request : DiskCreateRequest)
    (edit : Option DiskEditRequest) (room : cloud.lastId.toNat + 1 < UInt64.size) :
    Created cloud (request.record ⟨cloud.lastId + 1⟩) (cloud.withDisk request edit) where
  grown := extends_withDisk cloud request edit room
  sshKeys := rfl
  notes := rfl
  creating := rfl
  stored := SortedMap.get?_insert_self _ _ _
  counted := SortedMap.get?_insert_self _ _ _

/-- A disk is created when the server that it is meant for is there. -/
theorem createDisk_yields {request : DiskCreateRequest} {edit : Option DiskEditRequest}
    (hosted : quiet → Hosted request.serverId cloud)
    (room : cloud.lastId.toNat + 1 < UInt64.size) :
    (createDisk request edit).Yields cloud (Created cloud) (fun _ _ => ¬ quiet) := by
  have created := created_withDisk cloud request edit room
  rw [CloudStep.yields_createDisk]
  cases named : request.serverId.set? with
  | none => exact created
  | some id =>
      rw [ResourceId.set?] at named
      split at named
      · nomatch named
      next set =>
        cases named
        dsimp only
        cases found : cloud.servers.get? request.serverId with
        | some server => exact created
        | none =>
            intro silent
            rcases hosted silent with unset | ⟨server, stored⟩
            · exact set (unset ▸ rfl)
            · nomatch found.symm.trans stored

/-- A disk that is created after a call was logged is created in the cloud before the call. -/
theorem Created.of_logging {request : Request} {failures : List (Endpoint × RemoteError)}
    {disk : Disk} (created : Created (base.logging request failures) disk cloud) :
    Created base disk cloud where
  grown := (Looked.logging request failures).extends_zero.trans created.grown
  sshKeys := created.sshKeys
  notes := created.notes
  creating := created.creating
  stored := created.stored
  counted := created.counted

/-- A creation for a server that is there creates its disk, and in quiet circumstances it does not
fail. -/
theorem create_yields (calm : Calm quiet context world)
    (hosted : quiet → Hosted creation.request.serverId world.store)
    (room : world.store.lastId.toNat + 1 < UInt64.size) :
    Yields context Cloud.remote (create zone spec creation) world
      (fun disk after => Calm quiet context after ∧ Created world.store disk after.store)
      (fun error _ => error.Excused quiet) := by
  have created : ∀ (request : Request) (edit : Option DiskEditRequest),
      (createDisk creation.request edit).Yields
        (world.store.logging request world.store.failures) (Created world.store)
        (fun _ _ => ¬ quiet) := by
    intro request edit
    have hosted : quiet → Hosted creation.request.serverId
        (world.store.logging request world.store.failures) := hosted
    exact (createDisk_yields hosted room).mono (fun _ _ created => created.of_logging)
      fun _ _ noisy => noisy
  rw [create]
  split
  · apply yields_calm_call calm
    rw [answerRequest, answerDisk]
    exact (created _ _).mono (fun _ _ created calmAfter => ⟨calmAfter, created⟩)
      fun _ _ noisy => noisy
  · apply yields_calm_call calm
    rw [answerRequest, answerDisk]
    exact (created _ _).mono (fun _ _ created calmAfter => ⟨calmAfter, created⟩)
      fun _ _ noisy => noisy

/-- A new disk is ready when it settles. -/
theorem awaitReady_yields {disk : Disk} {timing : Timing} {looks : Nat}
    (calm : Calm quiet context world)
    (creating : disk.availability = .migrating)
    (stored : world.store.disks.get? disk.id = some disk)
    (counting : world.store.SettlesAfter disk.id looks)
    (covers : quiet → timing.wait.Covers looks) :
    Yields context Cloud.remote (awaitReady zone disk.id timing) world
      (fun _ after => Calm quiet context after ∧ world.store.Looked after.store)
      (fun error _ => error.Excused quiet) := by
  have settled : Lifecycle.availability ((Reader.disks zone).settled disk) = .available :=
    settledAvailability_of_migrating creating
  apply ((Reader.disks zone).untilReady_yields calm stored counting (congrArg _ creating) settled
    covers).bind
  exact fun _ after ⟨calm, _, settles⟩ => ⟨calm, settles.looked stored⟩

/-- A stored disk is connected to a server that is there, and no number is drawn. -/
theorem connect_yields {disk : Disk} (calm : Calm quiet context world)
    (hosted : quiet → Hosted serverId world.store)
    (stored : world.store.disks.get? diskId = some disk) :
    Yields context Cloud.remote (connect zone diskId serverId) world
      (fun _ after => Calm quiet context after ∧ world.store.Extends after.store 0)
      (fun error _ => error.Excused quiet) := by
  rw [connect, yields_ite]
  split
  next set =>
    rw [yields_bind]
    apply yields_calm_call calm
    rw [answerRequest, answerDisk, connectDisk, CloudStep.yields_bind, CloudStep.yields_change]
    split
    next server found =>
      have storedServer : world.store.servers.get? serverId = some server := found
      rw [CloudStep.yields_bind]
      apply CloudStep.Yields.change _ _ stored
      exact fun calmAfter => ⟨calmAfter, {
        (Looked.refl world.store).extends_zero with
        lineage := fun id _ => by
          refine congrArg (Option.map Disk.lineage) (SortedMap.get?_insert _ _ _ _) |>.trans ?_
          split
          next same => rw [same, stored]; rfl
          next => rfl
        interfaces := fun id _ => by
          refine congrArg (Option.map Server.interfaces) (SortedMap.get?_insert _ _ _ _) |>.trans ?_
          split
          next same => rw [same, storedServer]; rfl
          next => rfl }⟩
    next absent =>
      intro silent
      have named : serverId ≠ .unset := (Lineage.not_isUnset_iff serverId).mp set
      obtain ⟨server, storedServer⟩ := (hosted silent).resolve_left named
      cases absent.symm.trans storedServer
  next => exact ⟨calm, (Looked.refl _).extends_zero⟩

/-- A build draws the numbers of its edit and one for its disk, but nothing for an existing disk. -/
def draws : DiskBlueprint → Nat
  | unix _ _ edit => edit.draws + 1
  | copied _ _ _ (some edit) => edit.draws + 1
  | connected .. => 0
  | _ => 1

/-- The preparation of a build leaves a creation for the server, or a disk that exists. -/
def Prepared (blueprint : DiskBlueprint) (serverId : ResourceId) (base cloud : Cloud) :
    Option Creation → Prop
  | none => base.Extends cloud blueprint.draws ∧
      ∃ disk, cloud.disks.get? blueprint.targetId = some disk
  | some creation => creation.request.serverId = serverId ∧ creation.artifacts.Made base cloud ∧
      ∃ drawn, drawn + 1 = blueprint.draws ∧ base.Extends cloud drawn

/-- An accepted blueprint is prepared, and in quiet circumstances the preparation does not fail. -/
theorem prepare_yields {blueprint : DiskBlueprint} (calm : Calm quiet context world)
    (accepted : blueprint.Accepted world.store)
    (room : world.store.lastId.toNat + blueprint.draws < UInt64.size) :
    Yields context Cloud.remote (blueprint.prepare zone serverId) world
      (fun creation after => Calm quiet context after ∧
        blueprint.Prepared serverId world.store after.store creation)
      (fun error _ => error.Excused quiet) := by
  have noArtifacts : ∀ after : World Cloud, world.store.Looked after.store →
      ∀ creation : Creation, creation.request.serverId = serverId → creation.artifacts = .none →
        blueprint.draws = 1 →
        blueprint.Prepared serverId world.store after.store (some creation) := by
    intro after looked creation forServer bare draws
    refine ⟨forServer, ?_, 0, draws.symm, looked.extends_zero⟩
    rw [bare]
    exact Artifacts.made_none
  cases blueprint with
  | unix spec system edit =>
      rw [prepare]
      apply (system.findArchive_again calm accepted.2.2.1).bind
      rintro archive after ⟨calm, looked⟩
      have grown := looked.extends_zero
      rw [draws, ← Nat.add_assoc] at room
      apply (edit.prepare_yields calm (by rw [grown.counted]; omega)).bind
      rintro ⟨request, artifacts⟩ last ⟨calm, grownToo, made⟩
      refine ⟨calm, rfl, made.extended grown, edit.draws, rfl, ?_⟩
      exact Nat.zero_add edit.draws ▸ grown.trans grownToo
  | windows spec system edit =>
      rw [prepare]
      apply (system.findArchive_again calm accepted.2.2).bind
      rintro archive after ⟨calm, looked⟩
      exact ⟨calm, noArtifacts after looked _ rfl rfl rfl⟩
  | fixedArchive spec system =>
      rw [prepare]
      apply (system.findArchive_again calm accepted.2).bind
      rintro archive after ⟨calm, looked⟩
      exact ⟨calm, noArtifacts after looked _ rfl rfl rfl⟩
  | copied spec sourceDiskId sourceArchiveId edit =>
      cases edit with
      | none => exact ⟨calm, noArtifacts world (.refl _) _ rfl rfl rfl⟩
      | some edit =>
          rw [draws, ← Nat.add_assoc] at room
          rw [prepare]
          apply (edit.prepare_yields calm (by omega)).bind
          rintro ⟨request, artifacts⟩ last ⟨calm, grown, made⟩
          exact ⟨calm, rfl, made, edit.draws, rfl, grown⟩
  | blank spec => exact ⟨calm, noArtifacts world (.refl _) _ rfl rfl rfl⟩
  | connected spec diskId =>
      exact ⟨calm, (Looked.refl _).extends_zero, accepted.2⟩

section Build

variable {timing : Timing} (blueprint : DiskBlueprint)

/-- A build begins with a validation, which decides whether the blueprint is accepted. After it, a
build extends the cloud and does not fail in quiet circumstances. -/
theorem build_steps (calm : Calm quiet context world) (numbered : base.Numbered)
    (scattered : quiet ∨ base.Scattered) (hosted : quiet → Hosted serverId base)
    (before : base.Extends world.store drawn)
    (accepts : blueprint.Accepted world.store → blueprint.Accepted base)
    (room : base.lastId.toNat + (drawn + blueprint.draws) < UInt64.size)
    (covers : quiet → timing.wait.Covers (base.settleReads - 1)) :
    ∃ continuation, blueprint.build zone serverId timing =
        blueprint.validate zone >>= continuation ∧
      Yields context Cloud.remote (blueprint.validate zone) world
        (fun value checked => Yields context Cloud.remote (continuation value) checked
          (fun _ after => Calm quiet context after ∧
            base.Extends after.store (drawn + blueprint.draws))
          (fun error _ => error.Excused quiet))
        (fun error _ => blueprint.Accepted world.store → error.Excused quiet) := by
  have scatteredNow := scattered.imp_right (before.scattered numbered)
  refine ⟨_, rfl, (blueprint.validate_yields calm (.refl _) scatteredNow).mono ?_
    fun _ _ fails => fails⟩
  rintro - checked ⟨⟨calm, looked⟩, accepted⟩
  have grown := before.looked looked
  have accepted := (accepts accepted).extended numbered grown
  have counted := grown.counted
  apply (prepare_yields calm accepted (by omega)).bind
  rintro (none | creation) prepared ⟨calm, done⟩
  · obtain ⟨grownToo, disk, stored⟩ := done
    have all := grown.trans grownToo
    apply (connect_yields calm (fun silent => (hosted silent).extended numbered all) stored).mono
    · exact fun _ _ ⟨calm, kept⟩ => ⟨calm, all.trans kept⟩
    · exact fun _ _ excused => excused
  · obtain ⟨forServer, made, steps, draws, grownToo⟩ := done
    have all := grown.trans grownToo
    have hosted : quiet → Hosted creation.request.serverId prepared.store :=
      fun silent => forServer ▸ (hosted silent).extended numbered all
    have countedAll := all.counted
    apply (create_yields calm hosted (by omega)).bind
    rintro disk created ⟨calm, new⟩
    have covers : quiet → timing.wait.Covers (prepared.store.settleReads - 1) :=
      all.settleReads ▸ covers
    apply (awaitReady_yields calm new.creating new.stored (.of_counted new.counted) covers).bind
    rintro - ready ⟨calm, lookedToo⟩
    have grownReady : checked.store.Extends ready.store blueprint.draws := by
      rw [← draws]
      exact (grownToo.trans new.grown).looked lookedToo
    have madeReady : creation.artifacts.Made checked.store ready.store := by
      have keys : ready.store.sshKeys = prepared.store.sshKeys := by
        rw [lookedToo.rest]
        exact new.sshKeys
      have notes : ready.store.notes = prepared.store.notes := by
        rw [lookedToo.rest]
        exact new.notes
      exact ⟨keys ▸ made.key, notes ▸ made.notes, made.distinct⟩
    apply (Artifacts.dispose_yields calm grownReady madeReady).bind
    exact fun _ _ ⟨calm, disposed⟩ => ⟨calm, grown.trans disposed⟩

/-- A build of a disk goes on after its validation. -/
theorem build_goesOn (calm : Calm quiet context world) (numbered : world.store.Numbered)
    (scattered : quiet ∨ world.store.Scattered) (hosted : quiet → Hosted serverId world.store)
    (room : world.store.lastId.toNat + blueprint.draws < UInt64.size)
    (covers : quiet → timing.wait.Covers (world.store.settleReads - 1)) :
    GoesOn quiet context Cloud.remote (blueprint.validate zone)
      (blueprint.build zone serverId timing) world := by
  rw [← Nat.zero_add blueprint.draws] at room
  obtain ⟨continuation, same, yields⟩ := blueprint.build_steps calm numbered scattered hosted
    (Looked.refl _).extends_zero (fun accepted => accepted) room covers
  refine ⟨continuation, same, yields.mono ?_ fun _ _ _ => trivial⟩
  exact fun _ _ rest => rest.mono (fun _ _ _ => trivial) fun _ _ excused => excused

/-- A build of a disk that was accepted before does not fail in quiet circumstances. -/
theorem build_yields (calm : Calm quiet context world) (numbered : base.Numbered)
    (scattered : quiet ∨ base.Scattered) (hosted : quiet → Hosted serverId base)
    (before : base.Extends world.store drawn) (accepted : blueprint.Accepted base)
    (room : base.lastId.toNat + (drawn + blueprint.draws) < UInt64.size)
    (covers : quiet → timing.wait.Covers (base.settleReads - 1)) :
    Yields context Cloud.remote (blueprint.build zone serverId timing) world
      (fun _ after => Calm quiet context after ∧
        base.Extends after.store (drawn + blueprint.draws))
      (fun error _ => error.Excused quiet) := by
  obtain ⟨continuation, same, yields⟩ := blueprint.build_steps calm numbered scattered hosted
    before (fun _ => accepted) room covers
  rw [same, yields_bind]
  exact yields.mono (fun _ _ rest => rest) fun _ _ fails =>
    fails (accepted.extended numbered before)

end Build

end DiskBlueprint

end Provisioning
