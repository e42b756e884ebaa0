import Mathlib.Data.List.Nodup
import Mathlib.Data.List.Perm.Subperm
import Provisioning.Proofs.Look

/-!
Walks along a lineage. A remote answers the reads of a walk from a library, and when it is not quiet
any of its reads may fail. The main statement says that the program that follows a lineage ends as
the rule says.
-/

namespace Provisioning.Lineage

open Program

/-- An error reports how a walk has ended. -/
def Ending.Reports : Ending → ProvisionError → Prop
  | .editable _, _ => False
  | .invalid reported, error => error = reported
  | .absent, error => ∃ miss : RemoteError, miss.isNotFound ∧ error = .ofRemote "read archive" miss

/-- The error that reports the end of a walk is no validation error. -/
theorem Library.Ends.not_isValidation {library : Library} {start : ResourceId}
    {visited : List Node} {node : Node} {ending : Ending} {error : ProvisionError}
    (ends : library.Ends start visited node ending) (reports : ending.Reports error) :
    ¬ error.IsValidation := by
  rintro ⟨resource, message, rfl⟩
  cases ends with
  | loop | selfNamingDisk | selfNamingArchive => nomatch reports
  | bareDisk | marked | tagged | exhausted => exact reports
  | absent =>
      obtain ⟨miss, -, same⟩ := reports
      exact ProvisionError.not_isValidation_ofRemote _ miss ⟨_, _, same.symm⟩

/-- Disks have even numbers and archives have odd ones. -/
def Node.number : Node → Nat
  | .disk id => 2 * id.value.toNat
  | .archive id => 2 * id.value.toNat + 1

/-- Every number of a record is below the number of records. -/
theorem Node.number_lt (node : Node) : node.number < nodeCount := by
  cases node with
  | disk id | archive id =>
      have below := id.value.toNat_lt_size
      rw [number, nodeCount]
      omega

/-- No two records have the same number. -/
theorem Node.number_injective : Function.Injective Node.number := by
  intro first second same
  rcases first with ⟨⟨first⟩⟩ | ⟨⟨first⟩⟩ <;> rcases second with ⟨⟨second⟩⟩ | ⟨⟨second⟩⟩
  · have numbers : first.toNat = second.toNat := by simp only [number] at same; omega
    rw [UInt64.toNat_inj.mp numbers]
  · simp only [number] at same
    omega
  · simp only [number] at same
    omega
  · have numbers : first.toNat = second.toNat := by simp only [number] at same; omega
    rw [UInt64.toNat_inj.mp numbers]

/-- A walk that leaves no record twice leaves no more records than there are. -/
theorem length_le_nodeCount {visited : List Node} (distinct : visited.Nodup) :
    visited.length ≤ nodeCount := by
  have inside : visited.map Node.number ⊆ List.range nodeCount := by
    intro number member
    obtain ⟨node, -, rfl⟩ := List.mem_map.mp member
    exact List.mem_range.mpr node.number_lt
  have numbers := distinct.map Node.number_injective
  have shorter := (List.subperm_of_subset numbers inside).length_le
  rwa [List.length_map, List.length_range] at shorter

/-- No disk of a scattered library shares its identifier with an archive. -/
def Library.Scattered (library : Library) : Prop :=
  ∀ id disk, library.disk? id = some disk → library.archive? id = none

section Reading

variable {Store : Type} {context : Context} {remote : Remote CloudService Store} {zone : Zone}
  {library : Library} {live : World Store → Prop} {world : World Store} {quiet : Prop}

/-- A remote answers from a library while it is live. A read of a disk may settle the disk, which
keeps its lineage. When the remote is not quiet, any read may fail. -/
structure Library.Answers (quiet : Prop) (library : Library) (context : Context)
    (remote : Remote CloudService Store) (zone : Zone) (live : World Store → Prop) : Prop where
  running : ∀ world, live world → quiet → context.check world.timeline = none
  disk : ∀ world id, live world →
    Yields context remote (Build.attempt (.disk zone (.read id))) world
      (fun read after =>
        live after ∧ ∃ disk, library.disk? id = some disk ∧ read.lineage = disk.lineage)
      (fun miss after => live after ∧ (¬ quiet ∨ library.disk? id = none ∧ miss.isNotFound))
  archive : ∀ world id, live world →
    Yields context remote (Build.attempt (.catalogue zone (.readArchive id))) world
      (fun archive after => live after ∧ library.archive? id = some archive)
      (fun miss after => live after ∧ (¬ quiet ∨ library.archive? id = none ∧ miss.isNotFound))

/-- The program inspects a record as the library has it. When the remote is not quiet, a disk may
seem to be absent, and then there is no archive in its place. -/
theorem inspect_yields (answers : library.Answers quiet context remote zone live)
    (scattered : quiet ∨ library.Scattered) (node : Node) (here : live world) :
    Yields context remote (inspect zone node) world
      (fun verdict after => live after ∧ (library.judge? node = some (.ok verdict) ∨
        ¬ quiet ∧ ∃ id, verdict = .follow (.archive id) ∧ library.archive? id = none))
      (fun error after => live after ∧ (error.Excused quiet ∨
        library.judge? node = some (.error error) ∨
        library.judge? node = none ∧ Ending.absent.Reports error)) := by
  cases node with
  | disk id =>
      rw [inspect, yields_bind, yields_outcome]
      apply (answers.disk world id here).mono
      · rintro read after ⟨alive, disk, stored, same⟩
        rw [yields_liftExcept, judgeDisk_congr same, Library.judge?, stored]
        cases judged : judgeDisk disk with
        | ok verdict => exact ⟨alive, .inl (congrArg some judged)⟩
        | error error => exact ⟨alive, .inr (.inl (congrArg some judged))⟩
      · rintro miss after ⟨alive, cause⟩
        dsimp only
        by_cases missing : miss.isNotFound
        · rw [if_pos missing, yields_pure, Library.judge?]
          cases stored : library.disk? id with
          | none => exact ⟨alive, .inl rfl⟩
          | some disk =>
              have noisy : ¬ quiet := by
                rcases cause with noisy | ⟨absent, -⟩
                · exact noisy
                · cases stored.symm.trans absent
              exact ⟨alive, .inr ⟨noisy, id, rfl, scattered.resolve_left noisy id disk stored⟩⟩
        · rw [if_neg missing, yields_throw]
          have noisy : ¬ quiet := cause.resolve_right fun absent => missing absent.2
          exact ⟨alive, .inl ⟨noisy, ProvisionError.not_isValidation_ofRemote _ _⟩⟩
  | archive id =>
      rw [inspect, yields_bind, Build.call, yields_during]
      apply (answers.archive world id here).mono
      · rintro archive after ⟨alive, stored⟩
        rw [yields_liftExcept, Library.judge?, stored, Option.map_some]
        cases judgeArchive archive with
        | ok verdict => exact ⟨alive, .inl rfl⟩
        | error error => exact ⟨alive, .inr (.inl rfl)⟩
      · rintro miss after ⟨alive, noisy | ⟨absent, missing⟩⟩
        · exact ⟨alive, .inl ⟨noisy, ProvisionError.not_isValidation_ofRemote _ _⟩⟩
        · rw [Library.judge?, absent]
          exact ⟨alive, .inr (.inr ⟨rfl, miss, missing, rfl⟩)⟩

/-- A walk does not decide anything at an archive that is absent. -/
theorem Library.not_walks_of_absent {id start : ResourceId} {visited left : List Node}
    {last : Node} {supported : Bool} (absent : library.archive? id = none)
    (walks : library.Walks visited (.archive id) left last) :
    ¬ library.Ends start left last (.editable supported) := by
  intro ends
  by_cases seen : .archive id ∈ visited
  · nomatch walks.unique ends .here (.loop seen)
  · nomatch walks.unique ends .here (.absent seen absent)

/-- The program walks as the rule says, and its number of steps is never exhausted. -/
theorem walk_yields (answers : library.Answers quiet context remote zone live)
    (scattered : quiet ∨ library.Scattered) (start : ResourceId) (node : Node)
    {steps : Nat} {visited : List Node} (distinct : visited.Nodup)
    (enough : nodeCount < steps + visited.length) (here : live world) :
    Yields context remote (walk zone start steps visited node) world
      (fun supported after => live after ∧ ∃ left last, library.Walks visited node left last ∧
        library.Ends start left last (.editable supported))
      (fun error after => live after ∧ (error.Excused quiet ∨
        ∃ left last ending, library.Walks visited node left last ∧
          library.Ends start left last ending ∧ ending.Reports error)) := by
  induction steps generalizing visited node world with
  | zero =>
      have bound := length_le_nodeCount distinct
      omega
  | succ steps inductionHypothesis =>
      rw [walk, yields_bind, yields_check]
      cases checked : context.check world.timeline with
      | some interruption =>
          have noisy : ¬ quiet := fun calm => nomatch (answers.running world here calm) ▸ checked
          exact ⟨here, .inl ⟨noisy, Interruption.not_isValidation _ _⟩⟩
      | none =>
          dsimp only
          by_cases seen : node ∈ visited
          · rw [if_pos seen]
            exact ⟨here, .inr ⟨visited, node, _, .here, .loop seen, rfl⟩⟩
          rw [if_neg seen, yields_bind]
          have distinctToo : (node :: visited).Nodup := List.nodup_cons.mpr ⟨seen, distinct⟩
          have enoughToo : nodeCount < steps + (node :: visited).length := by
            rw [List.length_cons]
            omega
          apply (inspect_yields answers scattered node here).mono
          · rintro verdict after ⟨alive, judged | ⟨noisy, id, rfl, absent⟩⟩
            · have sound := library.judge?_sound start seen
              rw [judged] at sound
              cases verdict with
              | editable supported => exact ⟨alive, visited, node, .here, sound⟩
              | follow source =>
                  apply (inductionHypothesis _ distinctToo enoughToo alive).mono
                  · rintro supported last ⟨aliveToo, left, last, walks, ends⟩
                    exact ⟨aliveToo, left, last, .step seen sound walks, ends⟩
                  · rintro error last ⟨aliveToo, excused | ⟨left, last, ending, walks, ends⟩⟩
                    · exact ⟨aliveToo, .inl excused⟩
                    · exact ⟨aliveToo, .inr ⟨left, last, ending, .step seen sound walks, ends⟩⟩
            · apply (inductionHypothesis _ distinctToo enoughToo alive).mono
              · rintro supported last ⟨-, left, last, walks, ends⟩
                exact absurd ends (Library.not_walks_of_absent absent walks)
              · rintro error last ⟨aliveToo, excused | ⟨left, last, ending, -, ends, reports⟩⟩
                · exact ⟨aliveToo, .inl excused⟩
                · exact ⟨aliveToo, .inl ⟨noisy, ends.not_isValidation reports⟩⟩
          · rintro error after ⟨alive, excused | judged | ⟨judged, reports⟩⟩
            · exact ⟨alive, .inl excused⟩
            · have sound := library.judge?_sound start seen
              rw [judged] at sound
              exact ⟨alive, .inr ⟨visited, node, _, .here, sound, rfl⟩⟩
            · have sound := library.judge?_sound start seen
              rw [judged] at sound
              exact ⟨alive, .inr ⟨visited, node, _, .here, sound, reports⟩⟩

/-- A remote serves a library when nothing keeps it from answering from the library. -/
abbrev Library.Serves (library : Library) (context : Context)
    (remote : Remote CloudService Store) (zone : Zone) (live : World Store → Prop) : Prop :=
  library.Answers True context remote zone live

/-- The outcome of the program is the one that a walk of the rule ends with. -/
theorem canEdit_ends (serves : library.Serves context remote zone live) (id : ResourceId)
    (here : live world) :
    ∃ left last ending, library.Walks [] (.disk id) left last ∧
      library.Ends id left last ending ∧
        match ((canEdit zone id).run.run context remote world).1 with
        | .ok supported => ending = .editable supported
        | .error error => ending.Reports error := by
  have walks := walk_yields serves (.inl trivial) id (.disk id) List.nodup_nil
    (Nat.lt_succ_self nodeCount) here
  unfold Yields at walks
  unfold canEdit
  split at walks
  next supported after same =>
    obtain ⟨-, left, last, walked, ends⟩ := walks
    rw [same]
    exact ⟨left, last, _, walked, ends, rfl⟩
  next error after same =>
    obtain ⟨-, excused | ⟨left, last, ending, walked, ends, reports⟩⟩ := walks
    · exact absurd trivial excused.1
    · rw [same]
      exact ⟨left, last, ending, walked, ends, reports⟩

end Reading

end Provisioning.Lineage

namespace Provisioning.Cloud

open CloudStep Program Lineage

/-- The library of a cloud has its disks and its archives. -/
def library (cloud : Cloud) : Library := ⟨cloud.disks.get?, cloud.archives.get?⟩

/-- A cloud that is only looked at answers from its library. -/
theorem answers (base : Cloud) (quiet : Prop) (context : Context) (zone : Zone) :
    base.library.Answers quiet context Cloud.remote zone
      (fun world => Calm quiet context world ∧ base.Looked world.store) where
  running world here silent := (here.1.live silent).check
  disk world id here := by
    obtain ⟨calm, looked⟩ := here
    apply yields_calm_attempt calm
    · apply (answerDisk_read _ id).mono
      · rintro read after ⟨lookedToo, disk, stored, same⟩ calmAfter
        obtain ⟨original, found, equal⟩ := looked.disk stored
        exact ⟨⟨calmAfter, looked.trans lookedToo.of_logging⟩, original, found, same.trans equal⟩
      · rintro miss after ⟨lookedToo, absent, missing⟩ calmAfter
        exact ⟨⟨calmAfter, looked.trans lookedToo.of_logging⟩,
          .inr ⟨looked.disk_none.mp absent, missing⟩⟩
    · intro noisy error failures
      exact ⟨⟨.of_noisy noisy, looked.trans (.logging _ failures)⟩, .inl noisy⟩
  archive world id here := by
    obtain ⟨calm, looked⟩ := here
    apply yields_calm_attempt calm
    · rw [answerRequest, answerCatalogue, yields_find]
      have same : (archiveTable.read (world.store.logging
          (.catalogue zone (.readArchive id)) world.store.failures)).get? id =
            base.library.archive? id :=
        congrArg (SortedMap.get? · id) looked.archives
      rw [same]
      cases stored : base.library.archive? id with
      | none =>
          intro calmAfter
          exact ⟨⟨calmAfter, looked.trans (.logging _ _)⟩, .inr ⟨rfl, rfl⟩⟩
      | some archive =>
          intro calmAfter
          exact ⟨⟨calmAfter, looked.trans (.logging _ _)⟩, rfl⟩
    · intro noisy error failures
      exact ⟨⟨.of_noisy noisy, looked.trans (.logging _ failures)⟩, .inl noisy⟩

end Provisioning.Cloud

namespace Provisioning.Lineage

variable {Store : Type} {context : Context} {remote : Remote CloudService Store} {zone : Zone}
  {library : Library} {live : World Store → Prop} {world : World Store}

/-- No failure of a remote becomes an invalid state. -/
theorem ofRemote_ne_invalidState (label resource name message : String) (error : RemoteError) :
    ProvisionError.ofRemote label error ≠ .invalidState resource name message := by
  cases error <;> nofun

/-- The program that follows a lineage agrees with the rule. It finds out that edits are supported,
or that they are not, exactly when a walk of the rule ends so. It reports an invalid state exactly
when the walk comes back to a record or meets a record that names itself, and a missing archive
exactly when the walk ends there. -/
theorem canEdit_follows_rule (serves : library.Serves context remote zone live)
    (here : live world) (id : ResourceId) :
    let result := ((canEdit zone id).run.run context remote world).1
    (result = .ok true ↔ ∃ left last, library.Walks [] (.disk id) left last ∧
      library.Ends id left last (.editable true)) ∧
    (result = .ok false ↔ ∃ left last, library.Walks [] (.disk id) left last ∧
      library.Ends id left last (.editable false)) ∧
    (∀ resource name message, result = .error (.invalidState resource name message) ↔
      ∃ left last, library.Walks [] (.disk id) left last ∧
        library.Ends id left last (.invalid (.invalidState resource name message))) ∧
    ((∃ miss : RemoteError, miss.isNotFound ∧ result = .error (.ofRemote "read archive" miss)) ↔
      ∃ left last, library.Walks [] (.disk id) left last ∧
        library.Ends id left last .absent) := by
  obtain ⟨left, last, ending, walks, ends, outcome⟩ := canEdit_ends serves id here
  have only : ∀ other, (∃ left last, library.Walks [] (.disk id) left last ∧
      library.Ends id left last other) ↔ ending = other := by
    intro other
    constructor
    · rintro ⟨leftToo, lastToo, walksToo, endsToo⟩
      exact walks.unique ends walksToo endsToo
    · rintro rfl
      exact ⟨left, last, walks, ends⟩
  dsimp only
  simp only [only]
  generalize ((canEdit zone id).run.run context remote world).1 = result at outcome ⊢
  cases result with
  | ok supported =>
      dsimp only at outcome
      subst outcome
      simp
  | error error =>
      cases ending with
      | editable supported => exact outcome.elim
      | invalid reported =>
          obtain ⟨resource, name, message, rfl⟩ := ends.invalidState
          cases outcome
          have other : ∀ miss, .invalidState resource name message ≠
              ProvisionError.ofRemote "read archive" miss :=
            fun miss same => ofRemote_ne_invalidState _ _ _ _ miss same.symm
          simp [other]
      | absent =>
          obtain ⟨miss, missing, rfl⟩ := outcome
          have found : ∃ same : RemoteError, same.isNotFound ∧
              ProvisionError.ofRemote "read archive" miss = .ofRemote "read archive" same :=
            ⟨miss, missing, rfl⟩
          simp [ofRemote_ne_invalidState, found]

/-- An identifier that names no disk is looked up as an archive, here as one of a Linux system. -/
theorem canEdit_linux_archive :
    let archive : Archive := { (default : Archive) with id := ⟨7⟩, tags := [⟨"os-linux"⟩] }
    ((canEdit ⟨"is1a"⟩ ⟨7⟩).run.run default Cloud.remote
      ⟨default, Cloud.empty.seedArchive archive⟩).1 = .ok true := by
  intro archive
  let cloud := Cloud.empty.seedArchive archive
  have calm : Calm True default ⟨default, cloud⟩ :=
    ⟨fun _ => ⟨rfl, rfl, nofun⟩, fun _ => rfl⟩
  have agrees := canEdit_follows_rule (cloud.answers True default ⟨"is1a"⟩)
    ⟨calm, .refl cloud⟩ ⟨7⟩
  have walks : cloud.library.Walks [] (.disk ⟨7⟩) [.disk ⟨7⟩] (.archive ⟨7⟩) :=
    .step (by decide) (.absentDisk rfl) .here
  have stored : cloud.library.archive? ⟨7⟩ = some archive := rfl
  exact agrees.1.mpr ⟨_, _, walks,
    .tagged (by decide) stored (by decide) (by decide) (by decide)⟩

end Provisioning.Lineage
