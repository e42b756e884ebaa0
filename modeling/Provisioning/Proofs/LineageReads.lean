import Mathlib.Data.Finset.Card
import Provisioning.Proofs.Journal
import Provisioning.Proofs.LineageWalk

/-!
The reads of a walk along a lineage. A walk reads a record when it leaves it, so a remote that
answers differently from read to read cannot make it read a record twice. When the answers come from
a library, only few identifiers that are absent from it are read.
-/

namespace Provisioning.Lineage

open Program

/-- This request reads the record. -/
def Node.request (zone : Zone) : Node → Request
  | .disk id => .disk zone (.read id)
  | .archive id => .catalogue zone (.readArchive id)

/-- The calls so far have read just the records that a walk has left, each of them once. The walk
remembers the latest one first. -/
structure HasRead (zone : Zone) (visited : List Node) {Store : Type}
    (world : World (Observed CloudService Store)) : Prop where
  distinct : visited.Nodup
  written : world.store.journal.map Entry.request = visited.reverse.map (Node.request zone)

section Walks

variable {Store : Type} {context : Context} {remote : Remote CloudService Store} {zone : Zone}
  {start : ResourceId} {node : Node} {visited : List Node}

/-- A walk is followed from record to record. It inspects a record that it has not left before, and
then it ends or goes on to the source of the record. -/
theorem walk_keeps (invariant : List Node → Node → World Store → Prop)
    (holds : World Store → Prop)
    (inspects : ∀ visited node world, invariant visited node world → node ∉ visited →
      Yields context remote (inspect zone node) world
        (fun verdict after =>
          match verdict with
          | .editable _ => holds after
          | .follow source => invariant (node :: visited) source after)
        (fun _ after => holds after))
    (stops : ∀ visited node world, invariant visited node world → holds world)
    (steps : Nat) {world : World Store} (here : invariant visited node world) :
    Yields context remote (walk zone start steps visited node) world
      (fun _ after => holds after) (fun _ after => holds after) := by
  induction steps generalizing visited node world with
  | zero => exact stops visited node world here
  | succ steps inductionHypothesis =>
      rw [walk, yields_bind, yields_check]
      split
      next =>
        by_cases seen : node ∈ visited
        · rw [if_pos seen]
          exact stops visited node world here
        · rw [if_neg seen, yields_bind]
          apply (inspects visited node world here seen).mono _ fun _ _ failed => failed
          intro verdict after goesOn
          cases verdict with
          | editable supported => exact goesOn
          | follow source => exact inductionHypothesis goesOn
      next => exact stops visited node world here

/-- The number of steps does not matter when it is not less than the number of records that are
left. -/
theorem walk_run_eq {steps more : Nat} (distinct : visited.Nodup) (covered : steps ≤ more)
    (enough : nodeCount < steps + visited.length) (world : World Store) :
    (walk zone start more visited node).run.run context remote world =
      (walk zone start steps visited node).run.run context remote world := by
  induction steps generalizing more visited node world with
  | zero =>
      -- All records would have been left by now, and one more.
      have bound := length_le_nodeCount distinct
      omega
  | succ steps inductionHypothesis =>
      obtain ⟨more, rfl⟩ : ∃ fewer, more = fewer + 1 := ⟨more - 1, by omega⟩
      rw [walk, walk]
      apply run_bind_congr rfl
      rw [yields_check]
      split
      next =>
        by_cases seen : node ∈ visited
        · rw [if_pos seen, if_pos seen]
          rfl
        · rw [if_neg seen, if_neg seen]
          apply run_bind_congr rfl
          apply Yields.of_forall _ fun _ _ => trivial
          intro verdict after
          cases verdict with
          | editable supported => rfl
          | follow source =>
              have distinctToo : (node :: visited).Nodup := List.nodup_cons.mpr ⟨seen, distinct⟩
              refine inductionHypothesis distinctToo (by omega) ?_ after
              rw [List.length_cons]
              omega
      next => trivial

namespace HasRead

variable {world : World (Observed CloudService Store)}

/-- There are as many calls as records that the walk has left. -/
theorem length (hasRead : HasRead zone visited world) :
    world.store.journal.length = visited.length := by
  have same := congrArg List.length hasRead.written
  rwa [List.length_map, List.length_map, List.length_reverse] at same

/-- A read of a record that the walk has not left yet leaves the record. -/
theorem append (hasRead : HasRead zone visited world) (fresh : node ∉ visited)
    {entry : Entry CloudService} (reads : entry.request = node.request zone)
    {after : World (Observed CloudService Store)}
    (written : after.store.journal = world.store.journal ++ [entry]) :
    HasRead zone (node :: visited) after := by
  refine ⟨List.nodup_cons.mpr ⟨fresh, hasRead.distinct⟩, ?_⟩
  rw [written, List.map_append, hasRead.written, List.reverse_cons, List.map_append,
    List.map_singleton, List.map_singleton, reads]

/-- The inspection of a record reads it, whatever the answer is. -/
theorem inspect (hasRead : HasRead zone visited world) (fresh : node ∉ visited) :
    Yields context remote.observed (inspect zone node) world
      (fun _ after => HasRead zone (node :: visited) after)
      (fun _ after => HasRead zone (node :: visited) after) := by
  cases node with
  | disk id =>
      rw [Lineage.inspect, yields_bind, yields_outcome, Build.attempt]
      apply Yields.answered
      · intro disk after written
        rw [yields_liftExcept]
        have read := hasRead.append fresh rfl written
        cases judgeDisk disk <;> exact read
      · intro error after written
        have read := hasRead.append fresh rfl written
        dsimp only
        split <;> exact read
  | archive id =>
      rw [Lineage.inspect, yields_bind, Build.call, yields_during, Build.attempt]
      apply Yields.answered
      · intro archive after written
        rw [yields_liftExcept]
        have read := hasRead.append fresh rfl written
        cases judgeArchive archive <;> exact read
      · exact fun error after written => hasRead.append fresh rfl written

end HasRead

/-- A walk reads each record once, whatever the answers are. -/
theorem walk_hasRead (context : Context) (remote : Remote CloudService Store) (start : ResourceId)
    (node : Node) (steps : Nat) {world : World (Observed CloudService Store)}
    (here : HasRead zone visited world) :
    Yields context remote.observed (walk zone start steps visited node) world
      (fun _ after => ∃ visited, HasRead zone visited after)
      (fun _ after => ∃ visited, HasRead zone visited after) := by
  apply walk_keeps (fun visited _ world => HasRead zone visited world)
    (fun world => ∃ visited, HasRead zone visited world) _ _ steps here
  · intro visited node world hasRead fresh
    apply (hasRead.inspect fresh).mono
    · intro verdict after read
      cases verdict with
      | editable supported => exact ⟨_, read⟩
      | follow source => exact read
    · exact fun _ _ read => ⟨_, read⟩
  · exact fun visited _ _ hasRead => ⟨visited, hasRead⟩

end Walks

/-- This library has the record. -/
def Library.Stores (library : Library) : Node → Prop
  | .disk id => library.disk? id ≠ none
  | .archive id => library.archive? id ≠ none

/-- All disks of a library have one of these identifiers, and so do all its archives. -/
structure Library.Lists (library : Library) (disks archives : Finset ResourceId) : Prop where
  disk : ∀ id, library.disk? id ≠ none → id ∈ disks
  archive : ∀ id, library.archive? id ≠ none → id ∈ archives

section Reads

variable {Store : Type} {context : Context} {remote : Remote CloudService Store} {zone : Zone}
  {library : Library} {live : World Store → Prop} {quiet : Prop} {node source : Node}
  {visited : List Node} {disks archives : Finset ResourceId}

/-- A walk goes on from a record of the library, or from a disk to the archive of its identifier. -/
theorem inspect_follows (answers : library.Answers quiet context remote zone live) (node : Node)
    {world : World Store} (here : live world) :
    Yields context remote (inspect zone node) world
      (fun verdict after => live after ∧ ∀ source, verdict = .follow source →
        library.Stores node ∨ ∃ id, node = .disk id ∧ source = .archive id)
      (fun _ after => live after) := by
  cases node with
  | disk id =>
      rw [inspect, yields_bind, yields_outcome]
      apply (answers.disk world id here).mono
      · rintro read after ⟨alive, disk, stored, -⟩
        rw [yields_liftExcept]
        have stores : library.Stores (.disk id) := by
          rw [Library.Stores, stored]
          exact Option.some_ne_none disk
        cases judgeDisk read with
        | ok verdict => exact ⟨alive, fun _ _ => .inl stores⟩
        | error error => exact alive
      · rintro miss after ⟨alive, -⟩
        dsimp only
        split
        · refine ⟨alive, ?_⟩
          rintro source ⟨⟩
          exact .inr ⟨id, rfl, rfl⟩
        · exact alive
  | archive id =>
      rw [inspect, yields_bind, Build.call, yields_during]
      apply (answers.archive world id here).mono
      · rintro archive after ⟨alive, stored⟩
        rw [yields_liftExcept]
        have stores : library.Stores (.archive id) := by
          rw [Library.Stores, stored]
          exact Option.some_ne_none archive
        cases judgeArchive archive with
        | ok verdict => exact ⟨alive, fun _ _ => .inl stores⟩
        | error error => exact alive
      · exact fun _ _ read => read.1

/-- A record is familiar when it has a listed identifier. A disk is familiar too when there is an
archive with its identifier. -/
def familiar (disks archives : Finset ResourceId) : Finset Node :=
  (disks ∪ archives).image .disk ∪ archives.image .archive

/-- A disk is familiar when a disk or an archive has its identifier. -/
theorem mem_familiar_disk {id : ResourceId} (listed : id ∈ disks ∨ id ∈ archives) :
    .disk id ∈ familiar disks archives :=
  Finset.mem_union_left _ (Finset.mem_image_of_mem _ (Finset.mem_union.mpr listed))

/-- An archive is familiar when its identifier is listed. -/
theorem mem_familiar_archive {id : ResourceId} (listed : id ∈ archives) :
    .archive id ∈ familiar disks archives :=
  Finset.mem_union_right _ (Finset.mem_image_of_mem _ listed)

/-- There are at most as many familiar records as disks and twice as many as archives. -/
theorem card_familiar_le (disks archives : Finset ResourceId) :
    (familiar disks archives).card ≤ disks.card + 2 * archives.card := by
  calc (familiar disks archives).card
      ≤ ((disks ∪ archives).image Node.disk).card + (archives.image Node.archive).card :=
        Finset.card_union_le _ _
    _ ≤ (disks ∪ archives).card + archives.card :=
        Nat.add_le_add Finset.card_image_le Finset.card_image_le
    _ ≤ disks.card + archives.card + archives.card :=
        Nat.add_le_add_right (Finset.card_union_le _ _) _
    _ = disks.card + 2 * archives.card := by omega

/-- The records that a walk has left are familiar, except that it may have left a disk just now
because it has found no disk with its identifier. -/
def LeftFamiliar (disks archives : Finset ResourceId) (visited : List Node) (node : Node) : Prop :=
  ∀ left ∈ visited, left ∈ familiar disks archives ∨ ∃ id, left = .disk id ∧ node = .archive id

namespace LeftFamiliar

variable (known : LeftFamiliar disks archives visited node)

include known

/-- A walk that goes on from a stored record, or from an absent disk to the archive of its
identifier, has left only familiar records. -/
theorem follow (lists : library.Lists disks archives)
    (follows : library.Stores node ∨ ∃ id, node = .disk id ∧ source = .archive id) :
    LeftFamiliar disks archives (node :: visited) source := by
  cases node with
  | disk id =>
      refine List.forall_mem_cons.mpr ⟨?_, fun left member => ?_⟩
      · rcases follows with stored | ⟨same, ⟨⟩, rfl⟩
        · exact .inl (mem_familiar_disk (.inl (lists.disk id stored)))
        · exact .inr ⟨id, rfl, rfl⟩
      -- The exception is for a walk that is now at an archive, and this one is at a disk.
      · rcases known left member with listed | ⟨_, -, ⟨⟩⟩
        exact .inl listed
  | archive id =>
      have listed : id ∈ archives := by
        rcases follows with stored | ⟨_, ⟨⟩, -⟩
        exact lists.archive id stored
      refine List.forall_mem_cons.mpr ⟨.inl (mem_familiar_archive listed), fun left member => ?_⟩
      rcases known left member with familiar | ⟨same, rfl, ⟨⟩⟩
      · exact .inl familiar
      · exact .inl (mem_familiar_disk (.inr listed))

/-- The records that a walk has left and the one where it is now are familiar but for two. -/
theorem length_le {reads : List Node} (distinct : reads.Nodup) (inside : reads ⊆ node :: visited) :
    reads.length ≤ disks.card + 2 * archives.card + 2 := by
  have few : reads.toFinset ⊆ insert (.disk node.id) (insert node (familiar disks archives)) := by
    intro read member
    rcases List.mem_cons.mp (inside (List.mem_toFinset.mp member)) with rfl | left
    · exact Finset.mem_insert_of_mem (Finset.mem_insert_self _ _)
    · rcases known read left with listed | ⟨id, rfl, rfl⟩
      · exact Finset.mem_insert_of_mem (Finset.mem_insert_of_mem listed)
      · exact Finset.mem_insert_self _ _
  calc reads.length
      = reads.toFinset.card := (List.toFinset_card_of_nodup distinct).symm
    _ ≤ (insert (.disk node.id) (insert node (familiar disks archives))).card :=
        Finset.card_le_card few
    _ ≤ (familiar disks archives).card + 1 + 1 :=
        (Finset.card_insert_le _ _).trans (Nat.succ_le_succ (Finset.card_insert_le _ _))
    _ ≤ disks.card + 2 * archives.card + 2 :=
        Nat.add_le_add_right (card_familiar_le disks archives) 2

end LeftFamiliar

/-- A walk whose answers come from a library reads only a few absent identifiers. -/
theorem walk_reads_few (answers : library.Answers quiet context remote zone live)
    (lists : library.Lists disks archives) (start : ResourceId) (steps : Nat)
    {world : World (Observed CloudService Store)} (here : live world.unwatched)
    (hasRead : HasRead zone visited world) (known : LeftFamiliar disks archives visited node) :
    Yields context remote.observed (walk zone start steps visited node) world
      (fun _ after => after.store.journal.length ≤ disks.card + 2 * archives.card + 2)
      (fun _ after => after.store.journal.length ≤ disks.card + 2 * archives.card + 2) := by
  apply walk_keeps (fun visited node world => live world.unwatched ∧ HasRead zone visited world ∧
      LeftFamiliar disks archives visited node)
    (fun world => world.store.journal.length ≤ disks.card + 2 * archives.card + 2) _ _ steps
    ⟨here, hasRead, known⟩
  · rintro visited node world ⟨here, hasRead, known⟩ fresh
    have few := known.length_le (List.nodup_cons.mpr ⟨fresh, hasRead.distinct⟩)
      (List.Subset.refl _)
    apply ((inspect_follows answers node here).watched.and (hasRead.inspect fresh)).mono
    · rintro verdict after ⟨⟨alive, follows⟩, read⟩
      cases verdict with
      | editable supported => exact read.length.trans_le few
      | follow source => exact ⟨alive, read, known.follow lists (follows source rfl)⟩
    · rintro _ after ⟨-, read⟩
      exact read.length.trans_le few
  · rintro visited node world ⟨-, hasRead, known⟩
    rw [hasRead.length]
    exact known.length_le hasRead.distinct (List.subset_cons_self node visited)

/-- The program that follows a lineage reads no identifier twice as a disk and none twice as an
archive, whatever it is answered, so its number of steps does not matter. When the answers come from
a library, there are at most as many reads as disks, twice as many as archives, and two. Any read
may fail then, and the records may name each other in any way. -/
theorem canEdit_reads_once (zone : Zone) (id : ResourceId) (context : Context)
    (remote : Remote CloudService Store) (world : World Store) :
    let program := canEdit zone id
    let journal := program.run.journal context remote world
    (∃ reads : List Node, reads.Nodup ∧
      journal.map Entry.request = reads.map (Node.request zone)) ∧
    (∀ steps, nodeCount < steps → (walk zone id steps [] (.disk id)).run.run context remote world =
      program.run.run context remote world) ∧
    ∀ (quiet : Prop) (library : Library) (live : World Store → Prop)
      (disks archives : Finset ResourceId), library.Answers quiet context remote zone live →
      live world → library.Lists disks archives →
      journal.length ≤ disks.card + 2 * archives.card + 2 := by
  intro program journal
  have start : HasRead zone [] world.watched := ⟨List.nodup_nil, rfl⟩
  refine ⟨?_, fun steps enough => ?_,
    fun quiet library live disks archives answers here lists => ?_⟩
  · obtain ⟨visited, distinct, written⟩ := Yields.journal
      (fun _ (after : World Store) journal =>
        ∃ visited, HasRead zone visited ⟨after.timeline, after.store, journal⟩)
      (walk_hasRead context remote id (.disk id) (nodeCount + 1) start)
    exact ⟨visited.reverse, List.nodup_reverse.mpr distinct, written⟩
  · exact walk_run_eq List.nodup_nil enough (Nat.lt_succ_self nodeCount) world
  · exact Yields.journal (fun _ _ journal => journal.length ≤ disks.card + 2 * archives.card + 2)
      (walk_reads_few answers lists id (nodeCount + 1) here start (List.forall_mem_nil _))

end Reads

/-- A disk whose source is a disk that is absent, and an archive in its place whose source is a disk
that is absent too, take as many reads as a disk and an archive ever do. -/
theorem canEdit_reads_dangling_sources :
    let zone : Zone := ⟨"is1a"⟩
    let disk : Disk := { (default : Disk) with id := ⟨1⟩, sourceDiskId := ⟨2⟩ }
    let archive : Archive := { (default : Archive) with id := ⟨2⟩, sourceDiskId := ⟨3⟩ }
    let cloud := (Cloud.empty.seedDisk disk).seedArchive archive
    let journal := (canEdit zone ⟨1⟩).run.journal default Cloud.remote ⟨default, cloud⟩
    cloud.library.Lists {⟨1⟩} {⟨2⟩} ∧ journal.length ≤ 5 ∧
      journal.map Entry.request = [.disk ⟨1⟩, .disk ⟨2⟩, .archive ⟨2⟩, .disk ⟨3⟩, .archive ⟨3⟩].map
        (Node.request zone) := by
  intro zone disk archive cloud journal
  have lists : cloud.library.Lists {⟨1⟩} {⟨2⟩} := by
    constructor <;> intro id stored <;> by_contra other
    · exact stored ((Cloud.empty.disks.get?_insert ⟨1⟩ id disk).trans
        (if_neg (mt Finset.mem_singleton.mpr other)))
    · exact stored ((Cloud.empty.archives.get?_insert ⟨2⟩ id archive).trans
        (if_neg (mt Finset.mem_singleton.mpr other)))
  have calm : Calm True default ⟨default, cloud⟩ :=
    ⟨fun _ => ⟨rfl, rfl, nofun⟩, fun _ => rfl⟩
  have few := (canEdit_reads_once zone ⟨1⟩ default Cloud.remote ⟨default, cloud⟩).2.2 True
    cloud.library _ {⟨1⟩} {⟨2⟩} (cloud.answers True default zone) ⟨calm, .refl cloud⟩ lists
  refine ⟨lists, few, ?_⟩
  rfl

end Provisioning.Lineage
