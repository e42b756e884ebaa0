import Provisioning.Proofs.Blueprints
import Provisioning.Proofs.Readiness

/-!
What a plan deletes. Keys and notes are made for the edit of a disk, and the ephemeral ones are
deleted again when the disk is ready. The main statement holds for every build and update against
any remote, whether it succeeds or fails: nothing else is ever deleted.
-/

namespace Provisioning

open Program

/-- An artifact is a key or a note that was made for the edit of a disk. -/
inductive Artifact where
  | sshKey (id : ResourceId)
  | note (id : ResourceId)
  deriving DecidableEq, Repr

/-- The two flags of an edit say which of its artifacts are ephemeral. -/
def UnixEdit.disposesOf (edit : UnixEdit) : Artifact → Bool
  | .sshKey _ => edit.isSshKeysEphemeral
  | .note _ => edit.isNotesEphemeral

/-- An edit request names keys and notes by their identifiers. -/
def DiskEditRequest.artifacts (request : DiskEditRequest) : List Artifact :=
  request.sshKeyIds.map .sshKey ++ request.notes.map fun note => .note note.id

/-- These requests dispose of an artifact. -/
def Request.disposes? : Request → Option Artifact
  | .credential (.deleteSshKey id) => some (.sshKey id)
  | .credential (.deleteNote id) => some (.note id)
  | _ => none

/-- A request that preserves what there is disposes of nothing. -/
theorem Request.Preserves.disposes? {request : Request} (preserves : request.Preserves) :
    request.disposes? = none := by
  have deletes := preserves.deletes
  unfold Request.disposes?
  split <;> first | rfl | nomatch deletes

namespace Entry

/-- This is the artifact that a call has made. -/
def made? : Entry CloudService → Option Artifact
  | ⟨.credential (.generateSshKey _), .ok key, _, _⟩ => some (.sshKey key.id)
  | ⟨.credential (.createNote _), .ok note, _, _⟩ => some (.note note.id)
  | _ => none

/-- A creation with an edit and an edit of an existing disk tell the disk and the edit. -/
def edited? : Entry CloudService → Option (ResourceId × DiskEditRequest)
  | ⟨.disk _ (.createWithConfig _ edit _ _), .ok disk, _, _⟩ => some (disk.id, edit)
  | ⟨.disk _ (.config id edit), .ok _, _, _⟩ => some (id, edit)
  | _ => none

/-- This is the artifact that a call disposes of. -/
def disposed? (entry : Entry CloudService) : Option Artifact := entry.request.disposes?

/-- An entry preserves what there is when its request does. -/
def Preserves (entry : Entry CloudService) : Prop := entry.request.Preserves

end Entry

/-- The artifacts of an edit in the order in which they were made. -/
def Artifacts.made (artifacts : Artifacts) : List Artifact :=
  artifacts.generatedKey.toList.map (fun key => .sshKey key.id) ++ artifacts.noteIds.map .note

/-- One disk has one chapter of a journal. Nothing is deleted in it unless the disk has an edit.
Then its artifacts are made, the edit that names them is written into the disk, and a read shows the
disk ready. Only after that are the ephemeral ones deleted, each once and in the order of their
making, though a failure may end the chapter before the last one. -/
inductive Chapter : Option UnixEdit → List (Entry CloudService) → Prop where
  | preserving {edit : Option UnixEdit} {entries : List (Entry CloudService)}
      (preserves : ∀ entry ∈ entries, entry.Preserves) : Chapter edit entries
  | disposing {edit : UnixEdit} {making waiting cleaning : List (Entry CloudService)}
      {work read : Entry CloudService} {id : ResourceId} {request : DiskEditRequest}
      {seen : Sighting}
      (preserves : ∀ entry ∈ making ++ work :: (waiting ++ [read]), entry.Preserves)
      (writes : work.edited? = some (id, request))
      (names : ∀ artifact ∈ making.filterMap Entry.made?, artifact ∈ request.artifacts)
      (shows : read.sighting? = some seen) (same : seen.subject = ⟨.disk, id⟩)
      (ready : seen.Ready)
      (disposes : cleaning.map Entry.disposed? <+:
        ((making.filterMap Entry.made?).filter edit.disposesOf).map some) :
      Chapter (some edit) (making ++ work :: (waiting ++ [read]) ++ cleaning)

/-- A journal accounts for its deletions when it has one chapter for each disk, in order, and
nothing is deleted before the first or after the last of them. -/
def AccountsFor (edits : List (Option UnixEdit)) (journal : List (Entry CloudService)) : Prop :=
  ∃ before chapters after, journal = before ++ chapters.flatten ++ after ∧
    (∀ entry ∈ before, entry.Preserves) ∧ List.Forall₂ Chapter edits chapters ∧
    ∀ entry ∈ after, entry.Preserves

section Consequences

variable {edit : Option UnixEdit} {edits : List (Option UnixEdit)}
  {entries journal : List (Entry CloudService)}

/-- Entries that preserve what there is dispose of nothing. -/
theorem disposed_of_preserves (preserves : ∀ entry ∈ entries, entry.Preserves) :
    entries.filterMap Entry.disposed? = [] :=
  List.filterMap_eq_nil_iff.mpr fun entry member => (preserves entry member).disposes?

/-- The entries that clean up dispose of artifacts, one each. -/
theorem disposed_of_cleaning {artifacts : List Artifact}
    (disposes : entries.map Entry.disposed? <+: artifacts.map some) :
    entries.filterMap Entry.disposed? <+: artifacts ∧
      ∀ entry ∈ entries, entry.disposed? ≠ none := by
  constructor
  · have filtered := disposes.filterMap id
    simpa only [List.filterMap_map, Function.id_comp, List.filterMap_some] using filtered
  · intro entry member none
    have listed := disposes.subset (List.mem_map_of_mem member)
    rw [none] at listed
    obtain ⟨_, -, same⟩ := List.mem_map.mp listed
    nomatch same

/-- In a chapter every deletion answers a making of its own. -/
theorem Chapter.disposed_sublist (chapter : Chapter edit entries) :
    (entries.filterMap Entry.disposed?).Sublist (entries.filterMap Entry.made?) := by
  cases chapter with
  | preserving preserves =>
      rw [disposed_of_preserves preserves]
      exact List.nil_sublist _
  | disposing preserves writes names shows same ready disposes =>
      rw [List.filterMap_append, disposed_of_preserves preserves, List.nil_append,
        List.append_assoc, List.filterMap_append]
      have ephemeral := (disposed_of_cleaning disposes).1.sublist.trans List.filter_sublist
      exact ephemeral.trans (List.sublist_append_left _ _)

/-- In a chapter every deletion disposes of an artifact. -/
theorem Chapter.disposes (chapter : Chapter edit entries) :
    ∀ entry ∈ entries, entry.Preserves ∨ entry.disposed? ≠ none := by
  cases chapter with
  | preserving preserves => exact fun entry member => .inl (preserves entry member)
  | disposing preserves writes names shows same ready disposes =>
      intro entry member
      rcases List.mem_append.mp member with earlier | cleans
      · exact .inl (preserves entry earlier)
      · exact .inr ((disposed_of_cleaning disposes).2 entry cleans)

/-- What chapters dispose of was made in them, in the same order. -/
theorem disposed_sublist_of_chapters {chapters : List (List (Entry CloudService))}
    (each : List.Forall₂ Chapter edits chapters) :
    (chapters.flatten.filterMap Entry.disposed?).Sublist
      (chapters.flatten.filterMap Entry.made?) := by
  induction each with
  | nil => exact List.nil_sublist _
  | cons chapter _ inductionHypothesis =>
      rw [List.flatten_cons, List.filterMap_append, List.filterMap_append]
      exact chapter.disposed_sublist.append inductionHypothesis

/-- Every deletion in a chapter is the disposal of an artifact. -/
theorem disposes_of_chapters {chapters : List (List (Entry CloudService))}
    (each : List.Forall₂ Chapter edits chapters) :
    ∀ entry ∈ chapters.flatten, entry.Preserves ∨ entry.disposed? ≠ none := by
  induction each with
  | nil => exact List.forall_mem_nil _
  | cons chapter _ inductionHypothesis =>
      intro entry member
      rcases List.mem_append.mp (List.flatten_cons ▸ member) with here | later
      · exact chapter.disposes entry here
      · exact inductionHypothesis entry later

/-- A journal without any entry has empty chapters. -/
theorem empty_chapters (edits : List (Option UnixEdit)) :
    ∃ chapters, List.flatten chapters = [] ∧ List.Forall₂ Chapter edits chapters := by
  induction edits with
  | nil => exact ⟨[], rfl, .nil⟩
  | cons edit rest inductionHypothesis =>
      obtain ⟨chapters, nothing, each⟩ := inductionHypothesis
      exact ⟨[] :: chapters, nothing, .cons (.preserving (List.forall_mem_nil _)) each⟩

/-- A journal in which nothing is deleted accounts for its deletions. -/
theorem AccountsFor.of_preserves (preserves : ∀ entry ∈ journal, entry.Preserves) :
    AccountsFor edits journal := by
  obtain ⟨chapters, nothing, each⟩ := empty_chapters edits
  refine ⟨journal, chapters, [], ?_, preserves, each, List.forall_mem_nil _⟩
  rw [nothing, List.append_nil, List.append_nil]

/-- One chapter makes a journal of its own. -/
theorem Chapter.accountsFor (chapter : Chapter edit entries) : AccountsFor [edit] entries := by
  refine ⟨[], [entries], [], ?_, List.forall_mem_nil _, .cons chapter .nil, List.forall_mem_nil _⟩
  rw [List.flatten_singleton, List.nil_append, List.append_nil]

/-- Every deletion answers a making of its own, so nothing else is deleted and nothing twice. -/
theorem AccountsFor.disposed_sublist (accounts : AccountsFor edits journal) :
    (journal.filterMap Entry.disposed?).Sublist (journal.filterMap Entry.made?) := by
  obtain ⟨before, chapters, after, rfl, first, each, last⟩ := accounts
  have answered := disposed_sublist_of_chapters each
  simp only [List.filterMap_append, disposed_of_preserves first, disposed_of_preserves last,
    List.nil_append, List.append_nil]
  exact answered.trans ((List.sublist_append_right _ _).trans (List.sublist_append_left _ _))

/-- Every deletion in a journal that accounts for its deletions is the disposal of an artifact. -/
theorem AccountsFor.disposes (accounts : AccountsFor edits journal) :
    ∀ entry ∈ journal, entry.Preserves ∨ entry.disposed? ≠ none := by
  obtain ⟨before, chapters, after, rfl, first, each, last⟩ := accounts
  intro entry member
  rcases List.mem_append.mp member with begins | ends
  · rcases List.mem_append.mp begins with leads | chaptered
    · exact .inl (first entry leads)
    · exact disposes_of_chapters each entry chaptered
  · exact .inl (last entry ends)

/-- Only artifacts are deleted, and only those that were made. -/
structure OnlyDisposes (edits : List (Option UnixEdit)) (journal : List (Entry CloudService)) :
    Prop where
  accounts : AccountsFor edits journal
  disposes : ∀ entry ∈ journal, entry.Preserves ∨ entry.disposed? ≠ none
  made : (journal.filterMap Entry.disposed?).Sublist (journal.filterMap Entry.made?)

/-- A journal that accounts for its deletions deletes only artifacts that were made. -/
theorem AccountsFor.onlyDisposes (accounts : AccountsFor edits journal) :
    OnlyDisposes edits journal :=
  ⟨accounts, accounts.disposes, accounts.disposed_sublist⟩

end Consequences

section Writes

variable {α β ι : Type}

/-- Whatever the remote answers, a program writes down entries with one property when it succeeds
and entries with another one when it fails. -/
def Writes (program : Build α) (done : α → List (Entry CloudService) → Prop)
    (broken : List (Entry CloudService) → Prop) : Prop :=
  ∀ (Store : Type) (context : Context) (remote : Remote CloudService Store)
    (world : World (Observed CloudService Store)),
    Yields context remote.observed program world (fun value => Wrote (done value) world)
      (fun _ => Wrote broken world)

namespace Writes

variable {program : Build α} {continuation : α → Build β}
  {done middle : α → List (Entry CloudService) → Prop}
  {finished : β → List (Entry CloudService) → Prop}
  {broken stopped : List (Entry CloudService) → Prop}

theorem pure {value : α} (here : done value []) : Writes (Pure.pure value) done broken :=
  fun _ _ _ _ => ⟨[], (List.append_nil _).symm, here⟩

/-- What a sequence writes down begins with what its first part has written. -/
theorem bind (first : Writes program middle stopped)
    (rest : ∀ value made, middle value made → Writes (continuation value)
      (fun result later => finished result (made ++ later)) (fun later => broken (made ++ later)))
    (stops : ∀ made, stopped made → broken made) :
    Writes (program >>= continuation) finished broken := by
  intro Store context remote world
  rw [yields_bind]
  apply (first Store context remote world).mono
  · rintro value now ⟨made, grown, begun⟩
    apply (rest value made begun Store context remote now).mono
    · rintro result after ⟨later, grownToo, ends⟩
      exact ⟨made ++ later, by rw [grownToo, grown, List.append_assoc], ends⟩
    · rintro error after ⟨later, grownToo, ends⟩
      exact ⟨made ++ later, by rw [grownToo, grown, List.append_assoc], ends⟩
  · exact fun _ after ⟨made, grown, ends⟩ => ⟨made, grown, stops made ends⟩

/-- A call writes down one entry with its answer. -/
theorem call {label : String} {request : Request}
    {done : request.Answer → List (Entry CloudService) → Prop}
    (onSuccess : ∀ value started completed, done value [⟨request, .ok value, started, completed⟩])
    (onFailure : ∀ error started completed, broken [⟨request, .error error, started, completed⟩]) :
    Writes (Build.call label request) done broken :=
  fun _ _ _ _ => .called (fun value _ written => ⟨_, written, onSuccess value _ _⟩)
    fun error _ written => ⟨_, written, onFailure error _ _⟩

/-- What a sequence that starts with a call writes down begins with the entry of the call. -/
theorem step {label : String} {request : Request} {continuation : request.Answer → Build β}
    (rest : ∀ value started completed, Writes (continuation value)
      (fun result later => finished result (⟨request, .ok value, started, completed⟩ :: later))
      (fun later => broken (⟨request, .ok value, started, completed⟩ :: later)))
    (onFailure : ∀ error started completed, broken [⟨request, .error error, started, completed⟩]) :
    Writes (Build.call label request >>= continuation) finished broken := by
  let answered (value : request.Answer) (made : List (Entry CloudService)) : Prop :=
    ∃ started completed, made = [⟨request, .ok value, started, completed⟩]
  apply bind (call (fun _ started completed => ⟨started, completed, rfl⟩) onFailure :
    Writes (Build.call label request) answered broken)
  · rintro value _ ⟨started, completed, rfl⟩
    exact rest value started completed
  · exact fun _ ends => ends

/-- An orderly program writes down allowed requests only. -/
theorem of_orderly {allowed : Request → Prop} (orderly : Orderly allowed program.run) :
    Writes program (fun _ made => ∀ entry ∈ made, allowed entry.request)
      (fun made => ∀ entry ∈ made, allowed entry.request) :=
  fun _ _ _ _ => orderly.wrote

/-- What is written down may be described by any weaker properties. -/
theorem mono (writes : Writes program done broken)
    (onSuccess : ∀ value made, done value made → middle value made)
    (onFailure : ∀ made, broken made → stopped made) : Writes program middle stopped :=
  fun Store context remote world => (writes Store context remote world).mono
    (fun value _ ⟨made, grown, holds⟩ => ⟨made, grown, onSuccess value made holds⟩)
    fun _ _ ⟨made, grown, holds⟩ => ⟨made, grown, onFailure made holds⟩

/-- A program that makes one call among others writes the entry of that call between theirs. -/
theorem around {allowed : Request → Prop} {label : String} {first : Build ι} {request : ι → Request}
    {rest : (value : ι) → (request value).Answer → Build α} (before : Orderly allowed first.run)
    (after : ∀ value answer, Orderly allowed (rest value answer).run) :
    Writes (first >>= fun value => Build.call label (request value) >>= rest value)
      (fun _ made => ∃ earlier value answer started completed later,
        made = earlier ++ ⟨request value, .ok answer, started, completed⟩ :: later ∧
          (∀ entry ∈ earlier, allowed entry.request) ∧ ∀ entry ∈ later, allowed entry.request)
      (fun made => ∀ entry ∈ made,
        allowed entry.request ∨ ∃ value, entry.request = request value) := by
  apply (of_orderly before).bind
  · intro value earlier allowedEarlier
    have begins : ∀ entry ∈ earlier,
        allowed entry.request ∨ ∃ value, entry.request = request value :=
      fun entry member => .inl (allowedEarlier entry member)
    apply step
    · intro answer started completed
      apply (of_orderly (after value answer)).mono
      · intro result later allowedLater
        exact ⟨earlier, value, answer, started, completed, later, rfl, allowedEarlier, allowedLater⟩
      · intro later allowedLater
        apply List.forall_mem_append.mpr ⟨begins, List.forall_mem_cons.mpr ⟨.inr ⟨value, rfl⟩, _⟩⟩
        exact fun entry member => .inl (allowedLater entry member)
    · intro error started completed
      exact List.forall_mem_append.mpr
        ⟨begins, List.forall_mem_singleton.mpr (.inr ⟨value, rfl⟩)⟩
  · exact fun earlier allowedEarlier entry member => .inl (allowedEarlier entry member)

end Writes

/-- A part of a journal makes these artifacts and deletes nothing. -/
structure Making (artifacts : List Artifact) (entries : List (Entry CloudService)) : Prop where
  preserves : ∀ entry ∈ entries, entry.Preserves
  makes : entries.filterMap Entry.made? = artifacts

/-- Two parts of a journal make their artifacts one after the other. -/
theorem Making.append {first second : List Artifact} {before after : List (Entry CloudService)}
    (here : Making first before) (later : Making second after) :
    Making (first ++ second) (before ++ after) where
  preserves entry member :=
    (List.mem_append.mp member).elim (here.preserves entry) (later.preserves entry)
  makes := by rw [List.filterMap_append, here.makes, later.makes]

theorem Making.nil : Making [] [] := ⟨List.forall_mem_nil _, rfl⟩

/-- Looks make nothing. -/
theorem Making.of_looks {entries : List (Entry CloudService)}
    (looks : ∀ entry ∈ entries, entry.request.Looks) : Making [] entries where
  preserves entry member := entry.request.preserves_of_looks (looks entry member)
  makes := by
    apply List.filterMap_eq_nil_iff.mpr
    intro entry member
    have look := looks entry member
    unfold Entry.made?
    split <;> first | rfl | nomatch look

/-- A program of looks makes nothing. -/
theorem Writes.looking {program : Build α} (looks : Orderly Request.Looks program.run) :
    Writes program (fun _ => Making []) (fun made => ∀ entry ∈ made, entry.Preserves) :=
  (of_orderly looks).mono (fun _ _ looked => .of_looks looked)
    fun _ looked => (Making.of_looks looked).preserves

/-- A call that makes an artifact comes before the other makings. -/
theorem Making.cons {entry : Entry CloudService} {artifact : Artifact} {artifacts : List Artifact}
    {entries : List (Entry CloudService)} (preserves : entry.Preserves)
    (made : entry.made? = some artifact) (later : Making artifacts entries) :
    Making (artifact :: artifacts) (entry :: entries) where
  preserves := List.forall_mem_cons.mpr ⟨preserves, later.preserves⟩
  makes := by rw [List.filterMap_cons_some made, later.makes]

/-- The request of a prepared edit names all artifacts that were made for it, and the flags of the
edit decide which of them are disposed of. -/
structure UnixEdit.Prepared (edit : UnixEdit) (request : DiskEditRequest) (artifacts : Artifacts) :
    Prop where
  names : ∀ artifact ∈ artifacts.made, artifact ∈ request.artifacts
  keys : artifacts.deleteKey = edit.isSshKeysEphemeral
  notes : artifacts.deleteNotes = edit.isNotesEphemeral

namespace UnixEdit

/-- The generation of a key makes the key that it answers with. -/
theorem generateKey_writes (edit : UnixEdit) :
    Writes edit.generateKey
      (fun key => Making (key.toList.map fun key => .sshKey key.id))
      (fun made => ∀ entry ∈ made, entry.Preserves) := by
  rw [generateKey]
  split
  · exact .pure .nil
  · apply Writes.step
    · exact fun key started completed => .pure (.cons ⟨rfl⟩ rfl .nil)
    · exact fun error started completed => List.forall_mem_singleton.mpr ⟨rfl⟩

/-- The creation of notes makes the notes that it answers with, in their order. -/
theorem createNotes_writes (contents : List String) :
    Writes (contents.mapM createNote) (fun ids => Making (ids.map .note))
      (fun made => ∀ entry ∈ made, entry.Preserves) := by
  induction contents with
  | nil =>
      rw [List.mapM_nil]
      exact .pure .nil
  | cons content rest inductionHypothesis =>
      rw [List.mapM_cons, createNote, bind_assoc]
      apply Writes.step
      · intro note started completed
        rw [pure_bind]
        apply inductionHypothesis.bind
        · intro ids made others
          apply Writes.pure
          rw [List.append_nil]
          exact .cons ⟨rfl⟩ rfl others
        · intro made others
          exact List.forall_mem_cons.mpr ⟨⟨rfl⟩, others⟩
      · exact fun error started completed => List.forall_mem_singleton.mpr ⟨rfl⟩

/-- A preparation makes the artifacts of its edit and names them in its request. -/
theorem prepare_writes (edit : UnixEdit) :
    Writes edit.prepare
      (fun prepared made => Making prepared.2.made made ∧ edit.Prepared prepared.1 prepared.2)
      (fun made => ∀ entry ∈ made, entry.Preserves) := by
  rw [prepare]
  apply edit.generateKey_writes.bind
  · intro key made keyMade
    apply (createNotes_writes edit.noteContents).bind
    · intro ids later notesMade
      refine .pure ⟨(List.append_nil later).symm ▸ keyMade.append notesMade, ?_, rfl, rfl⟩
      intro artifact member
      rcases List.mem_append.mp member with isKey | isNote
      · obtain ⟨generated, present, rfl⟩ := List.mem_map.mp isKey
        apply List.mem_append_left
        apply List.mem_map_of_mem
        apply List.mem_append_right
        exact Option.mem_toList.mpr (Option.mem_map_of_mem _ (Option.mem_toList.mp present))
      · obtain ⟨id, present, rfl⟩ := List.mem_map.mp isNote
        apply List.mem_append_right
        rw [List.map_append, List.map_map]
        exact List.mem_append_right _ (List.mem_map_of_mem present)
    · intro later notesMade
      exact List.forall_mem_append.mpr ⟨keyMade.preserves, notesMade⟩
  · exact fun _ preserves => preserves

end UnixEdit

/-- A program disposes of artifacts in order, and a failure ends it before the last one. -/
def Disposes (program : Build α) (artifacts : List Artifact) : Prop :=
  Writes program (fun _ made => made.map Entry.disposed? = artifacts.map some)
    (fun made => made.map Entry.disposed? <+: artifacts.map some)

namespace Disposes

theorem pure (value : α) : Disposes (Pure.pure value) [] := Writes.pure rfl

/-- A deletion disposes of one artifact. -/
theorem call {label : String} {request : Request} {artifact : Artifact}
    (disposes : request.disposes? = some artifact) :
    Disposes (Build.call label request) [artifact] := by
  have disposed (answer started completed) :
      [Entry.disposed? ⟨request, answer, started, completed⟩] = [some artifact] :=
    congrArg (fun disposed => [disposed]) disposes
  apply Writes.call
  · exact fun value => disposed (.ok value)
  · intro error started completed
    rw [List.map_singleton, disposed]
    exact List.prefix_rfl

/-- Two programs dispose of their artifacts one after the other. -/
theorem bind {program : Build α} {continuation : α → Build β} {earlier later : List Artifact}
    (first : Disposes program earlier) (rest : ∀ value, Disposes (continuation value) later) :
    Disposes (program >>= continuation) (earlier ++ later) := by
  rw [Disposes, List.map_append]
  apply Writes.bind first
  · intro value made disposed
    apply (rest value).mono
    · intro _ others disposedToo
      rw [List.map_append, disposed, disposedToo]
    · intro others disposedToo
      rw [List.map_append, disposed]
      exact (List.prefix_append_right_inj _).mpr disposedToo
  · exact fun made disposed => disposed.trans (List.prefix_append _ _)

end Disposes

/-- The ephemeral artifacts are those that are disposed of, in the order in which they were made. -/
def Artifacts.disposed (artifacts : Artifacts) : List Artifact :=
  let keys := artifacts.generatedKey.toList.map fun key => .sshKey key.id
  (if artifacts.deleteKey then keys else []) ++
    if artifacts.deleteNotes then artifacts.noteIds.map .note else []

/-- Notes are disposed of in the order of the list. -/
theorem Artifacts.deleteNotes_disposes (ids : List ResourceId) :
    Disposes (ids.forM fun id => Build.call "delete note" (.credential (.deleteNote id)))
      (ids.map .note) := by
  induction ids with
  | nil => exact .pure _
  | cons id rest inductionHypothesis =>
      rw [List.forM]
      exact (Disposes.call rfl).bind fun _ => inductionHypothesis

/-- The disposal of artifacts disposes of the ephemeral ones in the order of their making. -/
theorem Artifacts.dispose_disposes (artifacts : Artifacts) :
    Disposes artifacts.dispose artifacts.disposed := by
  have notes (handed : Option String) : Disposes (do
      if artifacts.deleteNotes then
        artifacts.noteIds.forM fun id => Build.call "delete note" (.credential (.deleteNote id))
      return handed : Build _)
      (if artifacts.deleteNotes then artifacts.noteIds.map .note else []) := by
    split
    · have deleted := (deleteNotes_disposes artifacts.noteIds).bind fun _ => .pure handed
      rwa [List.append_nil] at deleted
    · exact .pure _
  rw [dispose, disposed]
  cases artifacts.generatedKey with
  | some key =>
      split
      · exact (Disposes.call rfl).bind fun _ => notes _
      · exact notes _
  | none => split <;> exact notes _

/-- What a prepared edit disposes of are the makings that its flags declare ephemeral. -/
theorem UnixEdit.Prepared.disposed_eq {edit : UnixEdit} {request : DiskEditRequest}
    {artifacts : Artifacts} (prepared : edit.Prepared request artifacts) :
    artifacts.disposed = artifacts.made.filter edit.disposesOf := by
  have keys : (artifacts.generatedKey.toList.map fun key => Artifact.sshKey key.id).filter
      edit.disposesOf = if edit.isSshKeysEphemeral then
        artifacts.generatedKey.toList.map fun key => .sshKey key.id else [] := by
    rw [List.filter_map]
    cases h : edit.isSshKeysEphemeral <;> simp [Function.comp_def, disposesOf, h]
  have notes : (artifacts.noteIds.map Artifact.note).filter edit.disposesOf =
      if edit.isNotesEphemeral then artifacts.noteIds.map .note else [] := by
    rw [List.filter_map]
    cases h : edit.isNotesEphemeral <;> simp [Function.comp_def, disposesOf, h]
  rw [Artifacts.made, List.filter_append, keys, notes, Artifacts.disposed, prepared.keys,
    prepared.notes]

/-- A read preserves what there is. -/
theorem Request.preserves_of_reads? {request : Request} {subject : Subject}
    (reads : request.reads? = some subject) : request.Preserves := by
  unfold reads? at reads
  split at reads <;> first | exact ⟨rfl⟩ | nomatch reads

end Writes

/-- A disk that is copied from an archive or from another disk can have an edit. -/
def DiskBlueprint.edit? : DiskBlueprint → Option UnixEdit
  | unix _ _ edit => some edit
  | copied _ _ _ edit => edit
  | windows .. | fixedArchive .. | blank _ | connected .. => none

/-- An update writes the edit of a Unix disk once more. -/
def DiskBlueprint.reapplied? : DiskBlueprint → Option UnixEdit
  | unix _ _ edit => some edit
  | windows .. | fixedArchive .. | copied .. | blank _ | connected .. => none

/-- A creation carries no artifacts, or it carries those of the edit that is written into it. -/
inductive DiskBlueprint.Creation.Carries : Option UnixEdit → DiskBlueprint.Creation → Prop where
  | nothing {edit : Option UnixEdit} {request : DiskCreateRequest}
      {written : Option DiskEditRequest} : Carries edit ⟨request, written, .none⟩
  | artifacts {edit : UnixEdit} {request : DiskCreateRequest} {written : DiskEditRequest}
      {artifacts : Artifacts} (prepared : edit.Prepared written artifacts) :
      Carries (some edit) ⟨request, some written, artifacts⟩

namespace DiskBlueprint

variable {zone : Zone} {id : ResourceId} {timing : Timing}

/-- A preparation makes the artifacts that its creation carries. -/
theorem prepare_writes (blueprint : DiskBlueprint) (serverId : ResourceId) :
    Writes (blueprint.prepare zone serverId)
      (fun prepared made => match prepared with
        | none => Making [] made
        | some creation => Making creation.artifacts.made made ∧ creation.Carries blueprint.edit?)
      (fun made => ∀ entry ∈ made, entry.Preserves) := by
  have edited (edit : UnixEdit) (carries : blueprint.edit? = some edit)
      (request : DiskCreateRequest) {looked : List (Entry CloudService)}
      (looks : Making [] looked) : Writes (do
        let prepared ← edit.prepare
        return some (⟨request, some prepared.1, prepared.2⟩ : Creation))
      (fun prepared made => match prepared with
        | none => Making [] (looked ++ made)
        | some creation => Making creation.artifacts.made (looked ++ made) ∧
            creation.Carries blueprint.edit?)
      (fun made => ∀ entry ∈ looked ++ made, entry.Preserves) := by
    apply edit.prepare_writes.bind
    · rintro ⟨written, artifacts⟩ made ⟨makes, prepared⟩
      apply Writes.pure
      rw [List.append_nil, carries]
      exact ⟨looks.append makes, .artifacts prepared⟩
    · exact fun made preserves => List.forall_mem_append.mpr ⟨looks.preserves, preserves⟩
  have bare {system : OperatingSystem} {creation : Archive → Creation}
      (carries : ∀ archive, (creation archive).artifacts = .none) : Writes (do
        let archive ← system.findArchive zone
        return some (creation archive))
      (fun prepared made => match prepared with
        | none => Making [] made
        | some creation => Making creation.artifacts.made made ∧ creation.Carries blueprint.edit?)
      (fun made => ∀ entry ∈ made, entry.Preserves) := by
    apply (Writes.looking system.findArchive_orderly).bind
    · intro archive made looks
      apply Writes.pure
      rw [List.append_nil]
      have nothing := carries archive
      generalize creation archive = creation at nothing ⊢
      obtain ⟨request, written, artifacts⟩ := creation
      cases nothing
      exact ⟨looks, .nothing⟩
    · exact fun _ preserves => preserves
  cases blueprint with
  | unix spec system edit =>
      apply (Writes.looking system.findArchive_orderly).bind
      · exact fun archive made looks => edited edit rfl _ looks
      · exact fun _ preserves => preserves
  | windows spec system edit => exact bare fun _ => rfl
  | fixedArchive spec system => exact bare fun _ => rfl
  | copied spec sourceDiskId sourceArchiveId edit =>
      cases edit with
      | none => exact .pure ⟨.nil, .nothing⟩
      | some edit => exact edited edit rfl _ .nil
  | blank spec => exact .pure ⟨.nil, .nothing⟩
  | connected spec diskId => exact .pure .nil

/-- The wait for a disk ends with a read that shows it ready. -/
theorem awaitReady_writes :
    Writes (awaitReady zone id timing)
      (fun _ made => ∃ waiting read seen, made = waiting ++ [read] ∧
        (∀ entry ∈ made, entry.Preserves) ∧ read.sighting? = some seen ∧
        seen.subject = ⟨.disk, id⟩ ∧ seen.Ready)
      (fun made => ∀ entry ∈ made, entry.Preserves) := by
  have preserves {looks : List (Entry CloudService)}
      (waits : ∀ look ∈ looks, look.Looks ⟨.disk, id⟩) : ∀ look ∈ looks, look.Preserves :=
    fun look member => Request.preserves_of_reads? (waits look member).reads
  have waits : Writes
      (Wait.untilReady "disk" id (Build.attempt (.disk zone (.read id))) timing.wait)
      (fun record made => ∃ looks read, made = looks ++ [read] ∧
        (∀ look ∈ looks, look.Looks ⟨.disk, id⟩) ∧ read.sighting? = some (.of id record) ∧
          (Sighting.of id record).Ready)
      (fun looks => ∀ look ∈ looks, look.Looks ⟨.disk, id⟩) :=
    fun _ _ _ _ => Wait.untilReady_wrote rfl fun _ _ _ => rfl
  apply waits.bind
  · rintro record _ ⟨looks, read, rfl, unready, shows, ready⟩
    refine .pure ⟨looks, read, _, List.append_nil _, ?_, shows, rfl, ready⟩
    rw [List.append_nil]
    refine List.forall_mem_append.mpr ⟨preserves unready, List.forall_mem_singleton.mpr ?_⟩
    exact Request.preserves_of_reads? (Entry.reads?_of_sighting? shows)
  · exact fun _ => preserves

/-- A chapter ends with the wait for its disk and the disposal of its artifacts. -/
theorem conclude_writes {edit : UnixEdit} {request : DiskEditRequest} {artifacts : Artifacts}
    {making : List (Entry CloudService)} {work : Entry CloudService}
    (prepared : edit.Prepared request artifacts) (makes : Making artifacts.made making)
    (preserves : work.Preserves) (writes : work.edited? = some (id, request)) :
    Writes (do awaitReady zone id timing; artifacts.dispose)
      (fun _ later => Chapter (some edit) (making ++ work :: later))
      (fun later => Chapter (some edit) (making ++ work :: later)) := by
  have earlier {later : List (Entry CloudService)} (others : ∀ entry ∈ later, entry.Preserves) :
      ∀ entry ∈ making ++ work :: later, entry.Preserves :=
    List.forall_mem_append.mpr ⟨makes.preserves, List.forall_mem_cons.mpr ⟨preserves, others⟩⟩
  apply awaitReady_writes.bind
  · rintro - _ ⟨waiting, read, seen, rfl, waits, shows, same, ready⟩
    have closes {cleaning : List (Entry CloudService)}
        (disposes : cleaning.map Entry.disposed? <+: artifacts.disposed.map some) :
        Chapter (some edit) (making ++ work :: (waiting ++ [read] ++ cleaning)) := by
      rw [← List.cons_append, ← List.append_assoc]
      rw [prepared.disposed_eq, ← makes.makes] at disposes
      refine .disposing (earlier waits) writes ?_ shows same ready disposes
      rw [makes.makes]
      exact prepared.names
    apply artifacts.dispose_disposes.mono
    · exact fun _ cleaning disposed => closes (disposed ▸ List.prefix_rfl)
    · exact fun cleaning disposed => closes disposed
  · exact fun later waits => .preserving (earlier waits)

/-- A chapter in which nothing was deleted goes on with calls that delete nothing. -/
theorem preserving_writes {α : Type} {program : Build α} {edit : Option UnixEdit}
    {earlier : List (Entry CloudService)} (preserves : ∀ entry ∈ earlier, entry.Preserves)
    (orderly : Orderly Request.Preserves program.run) :
    Writes program (fun _ later => Chapter edit (earlier ++ later))
      (fun later => Chapter edit (earlier ++ later)) := by
  have closes (later : List (Entry CloudService)) (others : ∀ entry ∈ later, entry.Preserves) :
      Chapter edit (earlier ++ later) :=
    .preserving (List.forall_mem_append.mpr ⟨preserves, others⟩)
  exact (Writes.of_orderly orderly).mono (fun _ => closes) closes

/-- The build of a disk writes one chapter. -/
theorem build_writes (blueprint : DiskBlueprint) (serverId : ResourceId) (timing : Timing) :
    Writes (blueprint.build zone serverId timing) (fun _ => Chapter blueprint.edit?)
      (Chapter blueprint.edit?) := by
  apply (Writes.looking blueprint.validate_orderly).bind
  · intro _ looked looks
    apply (blueprint.prepare_writes serverId).bind
    · intro prepared made makes
      simp only [← List.append_assoc]
      cases prepared with
      | none =>
          have making := looks.append makes
          exact preserving_writes making.preserves (connect_orderly _ _ fun _ => ⟨rfl⟩)
      | some creation =>
          have making := looks.append makes.1
          generalize blueprint.edit? = edit at makes
          cases makes.2 with
          | nothing =>
              apply preserving_writes making.preserves
              refine (create_orderly _ _).bind fun created => ?_
              refine (awaitReady_orderly ⟨rfl⟩).bind fun _ => ?_
              exact (Artifacts.none.dispose_orderly nofun nofun).bind fun _ => .pure _
          | artifacts prepared =>
              apply Writes.step
              · intro disk started completed
                dsimp only
                rw [← bind_assoc]
                have written (request : DiskCreateRequest) (distantFrom : List ResourceId)
                    (edit : DiskEditRequest) :
                    Entry.edited? ⟨.disk zone (.createWithConfig request edit false distantFrom),
                      .ok disk, started, completed⟩ = some (disk.id, edit) := rfl
                apply (conclude_writes prepared making ⟨rfl⟩ (written _ _ _)).bind
                · intro key later chapter
                  apply Writes.pure
                  rwa [List.append_nil]
                · exact fun _ chapter => chapter
              · intro error started completed
                apply Chapter.preserving
                exact List.forall_mem_append.mpr
                  ⟨making.preserves, List.forall_mem_singleton.mpr ⟨rfl⟩⟩
    · intro made preserves
      exact .preserving (List.forall_mem_append.mpr ⟨looks.preserves, preserves⟩)
  · exact fun _ preserves => .preserving preserves

/-- An edit that is written into an existing disk once more ends the chapter of an update. -/
theorem reapply_writes {looked : List (Entry CloudService)} (edit : UnixEdit)
    (looks : Making [] looked) :
    Writes (reapply zone id timing edit) (fun _ later => Chapter (some edit) (looked ++ later))
      (fun later => Chapter (some edit) (looked ++ later)) := by
  apply edit.prepare_writes.bind
  · rintro ⟨request, artifacts⟩ made ⟨makes, prepared⟩
    have making := looks.append makes
    simp only [← List.append_assoc]
    apply Writes.step
    · intro answer started completed
      have written : Entry.edited? ⟨.disk zone (.config id request), .ok answer, started,
          completed⟩ = some (id, request) := rfl
      exact conclude_writes prepared making ⟨rfl⟩ written
    · intro error started completed
      apply Chapter.preserving
      have edits : ∀ entry ∈ [(⟨.disk zone (.config id request), .error error, started,
          completed⟩ : Entry CloudService)], entry.Preserves :=
        List.forall_mem_singleton.mpr ⟨rfl⟩
      exact List.forall_mem_append.mpr ⟨making.preserves, edits⟩
  · intro made preserves
    exact .preserving (List.forall_mem_append.mpr ⟨looks.preserves, preserves⟩)

/-- The update of a disk writes one chapter, too. -/
theorem update_writes (blueprint : DiskBlueprint) (timing : Timing) :
    Writes (blueprint.update zone timing) (fun _ => Chapter blueprint.reapplied?)
      (Chapter blueprint.reapplied?) := by
  have updates : Writes (Build.call "update disk" (.disk zone (.update blueprint.targetId
      blueprint.spec.updateRequest))) (fun _ => Making [])
      (fun made => ∀ entry ∈ made, entry.Preserves) := by
    apply Writes.call
    · exact fun disk started completed => ⟨List.forall_mem_singleton.mpr ⟨rfl⟩, rfl⟩
    · exact fun error started completed => List.forall_mem_singleton.mpr ⟨rfl⟩
  apply (Writes.looking (.lift _)).bind
  · intro _ looked looks
    apply updates.bind
    · intro _ made updated
      have making := looks.append updated
      simp only [← List.append_assoc]
      cases blueprint with
      | unix spec system edit =>
          apply (reapply_writes edit making).bind
          · intro key later chapter
            apply Writes.pure
            rwa [List.append_nil]
          · exact fun _ chapter => chapter
      | windows | fixedArchive | copied | blank | connected =>
          exact preserving_writes making.preserves (.pure _)
    · intro made preserves
      exact .preserving (List.forall_mem_append.mpr ⟨looks.preserves, preserves⟩)
  · exact fun _ preserves => .preserving preserves

end DiskBlueprint

namespace ServerBlueprint

variable {zone : Zone}

/-- The disks of a server write one chapter each. After a failure the chapters that are left are
empty. -/
theorem buildDisks_writes (serverId : ResourceId) (timing : Timing) (disks : List DiskBlueprint) :
    Writes (buildDisks zone serverId timing disks)
      (fun _ made => ∃ chapters, made = List.flatten chapters ∧
        List.Forall₂ Chapter (disks.map DiskBlueprint.edit?) chapters)
      (fun made => ∃ chapters, made = List.flatten chapters ∧
        List.Forall₂ Chapter (disks.map DiskBlueprint.edit?) chapters) := by
  induction disks with
  | nil => exact .pure ⟨[], rfl, .nil⟩
  | cons disk rest inductionHypothesis =>
      apply (disk.build_writes serverId timing).bind
      · intro built made chapter
        have goesOn {later : List (Entry CloudService)} (others : ∃ chapters,
            later = List.flatten chapters ∧
              List.Forall₂ Chapter (rest.map DiskBlueprint.edit?) chapters) :
            ∃ chapters, made ++ later = List.flatten chapters ∧
              List.Forall₂ Chapter ((disk :: rest).map DiskBlueprint.edit?) chapters := by
          obtain ⟨chapters, rfl, each⟩ := others
          exact ⟨made :: chapters, rfl, .cons chapter each⟩
        apply inductionHypothesis.bind
        · intro key later others
          apply Writes.pure
          rw [List.append_nil]
          exact goesOn others
        · exact fun later => goesOn
      · intro made chapter
        obtain ⟨chapters, nothing, each⟩ := empty_chapters (rest.map DiskBlueprint.edit?)
        refine ⟨made :: chapters, ?_, .cons chapter each⟩
        rw [List.flatten_cons, nothing, List.append_nil]

/-- The build of a server has a chapter for each of its disks, and deletes nothing besides. -/
theorem build_writes (blueprint : ServerBlueprint) :
    Writes (blueprint.build zone)
      (fun _ => AccountsFor (blueprint.disks.map DiskBlueprint.edit?))
      (AccountsFor (blueprint.disks.map DiskBlueprint.edit?)) := by
  rw [build_eq]
  apply (Writes.looking blueprint.check_orderly).bind
  · intro planId looked looks
    have creates : Orderly Request.Preserves (Build.call "create server"
        (.server zone (.create (blueprint.createRequest planId)))).run := .call rfl ⟨rfl⟩
    apply (Writes.of_orderly creates).bind
    · intro server made created
      have before := List.forall_mem_append.mpr ⟨looks.preserves, created⟩
      simp only [← List.append_assoc]
      apply (buildDisks_writes server.id blueprint.timing blueprint.disks).bind
      · rintro key _ ⟨chapters, rfl, each⟩
        simp only [← List.append_assoc]
        have preserves : Orderly Request.Preserves (blueprint.conclude zone server key).run :=
          (blueprint.conclude_orderly server key).mono fun _ both => both.1
        apply (Writes.of_orderly preserves).mono
        · exact fun _ after preserves => ⟨_, chapters, after, rfl, before, each, preserves⟩
        · exact fun after preserves => ⟨_, chapters, after, rfl, before, each, preserves⟩
      · rintro _ ⟨chapters, rfl, each⟩
        exact ⟨_, chapters, [], (List.append_nil _).symm, before, each, List.forall_mem_nil _⟩
    · intro made preserves
      exact .of_preserves (List.forall_mem_append.mpr ⟨looks.preserves, preserves⟩)
  · exact fun _ preserves => .of_preserves preserves

end ServerBlueprint

namespace Blueprint

/-- These are the edits of the disks that a build creates. -/
def edits : Blueprint → List (Option UnixEdit)
  | disk _ _ _ blueprint => [blueprint.edit?]
  | server _ blueprint => blueprint.disks.map DiskBlueprint.edit?
  | database .. | vpcRouter .. | mobileGateway .. | containerRegistry _ | localRouter _ => []

/-- An update writes an edit only when it is the update of a Unix disk. -/
def reapplied : Blueprint → List (Option UnixEdit)
  | disk _ _ _ blueprint => [blueprint.reapplied?]
  | server .. | database .. | vpcRouter .. | mobileGateway .. | containerRegistry _
  | localRouter _ => []

variable (blueprint : Blueprint)

/-- The journal of every build accounts for its deletions, whether the build succeeds or fails. -/
theorem build_writes :
    Writes blueprint.build (fun _ => AccountsFor blueprint.edits)
      (AccountsFor blueprint.edits) := by
  have preserving {blueprint : Blueprint}
      (orderly : Orderly Request.Preserves blueprint.build.run) :
      Writes blueprint.build (fun _ => AccountsFor blueprint.edits)
        (AccountsFor blueprint.edits) :=
    (Writes.of_orderly orderly).mono (fun _ _ => .of_preserves) fun _ => .of_preserves
  cases blueprint with
  | disk zone serverId timing blueprint =>
      apply (blueprint.build_writes serverId timing).mono
      · exact fun _ _ => Chapter.accountsFor
      · exact fun _ => Chapter.accountsFor
  | server zone blueprint => exact blueprint.build_writes
  | database zone blueprint => exact preserving blueprint.build_orderly
  | vpcRouter zone blueprint => exact preserving blueprint.build_orderly
  | mobileGateway zone blueprint => exact preserving blueprint.build_orderly
  | containerRegistry blueprint => exact preserving blueprint.build_orderly
  | localRouter blueprint => exact preserving blueprint.build_orderly

/-- The update of a container registry may delete users, which it has not made. -/
theorem update_writes : (∃ registry, blueprint = .containerRegistry registry) ∨
    Writes blueprint.update (fun _ => AccountsFor blueprint.reapplied)
      (AccountsFor blueprint.reapplied) := by
  have preserving {blueprint : Blueprint}
      (orderly : Orderly Request.Preserves blueprint.update.run) :
      Writes blueprint.update (fun _ => AccountsFor blueprint.reapplied)
        (AccountsFor blueprint.reapplied) :=
    (Writes.of_orderly orderly).mono (fun _ _ => .of_preserves) fun _ => .of_preserves
  cases blueprint with
  | disk zone serverId timing blueprint =>
      right
      apply (blueprint.update_writes timing).mono
      · exact fun _ _ => Chapter.accountsFor
      · exact fun _ => Chapter.accountsFor
  | server zone blueprint => exact .inr (preserving blueprint.update_orderly)
  | database zone blueprint => exact .inr (preserving blueprint.update_orderly)
  | vpcRouter zone blueprint => exact .inr (preserving blueprint.update_orderly)
  | mobileGateway zone blueprint => exact .inr (preserving blueprint.update_orderly)
  | containerRegistry blueprint => exact .inl ⟨blueprint, rfl⟩
  | localRouter blueprint => exact .inr (preserving blueprint.update_orderly)

/-- Only what a run has made is deleted, whatever the remote answers and however the run ends.
The journal of a build has a chapter for each disk that it creates, and so has the journal of an
update unless a container registry is updated. In a chapter each deletion answers one making, when
the edit declares it ephemeral and after its disk was seen ready, and outside of the chapters
nothing is deleted. -/
theorem disposes_only_of_makings {Store : Type} (context : Context)
    (remote : Remote CloudService Store) (world : World Store) :
    OnlyDisposes blueprint.edits (blueprint.build.run.journal context remote world) ∧
      ((∃ registry, blueprint = .containerRegistry registry) ∨
        OnlyDisposes blueprint.reapplied (blueprint.update.run.journal context remote world)) := by
  have journaled {program : Build BuildResult} {edits : List (Option UnixEdit)}
      (writes : Writes program (fun _ => AccountsFor edits) (AccountsFor edits)) :
      OnlyDisposes edits (program.run.journal context remote world) := by
    apply AccountsFor.onlyDisposes
    apply Yields.journal fun _ _ journal => AccountsFor edits journal
    apply (writes Store context remote world.watched).mono
    · rintro value after ⟨made, grown, accounts⟩
      rw [grown]
      exact accounts
    · rintro error after ⟨made, grown, accounts⟩
      rw [grown]
      exact accounts
  exact ⟨journaled blueprint.build_writes, blueprint.update_writes.imp_right journaled⟩

/-- The update of a disk generates a key, writes it into the disk and deletes the key. The key that
the edit refers to is not deleted. -/
example :
    let edit : UnixEdit :=
      { (default : UnixEdit) with
        sshKeyIds := [⟨4⟩], generateSshKey := some default, isSshKeysEphemeral := true }
    let spec : DiskSpec := { (default : DiskSpec) with id := ⟨7⟩ }
    let cloud := Cloud.empty.seedDisk { (default : Disk) with id := ⟨7⟩ }
    let blueprint := Blueprint.disk ⟨"is1a"⟩ .unset default (.unix spec default edit)
    (blueprint.update.run.journal default Cloud.remote ⟨default, cloud⟩).filterMap
      Entry.disposed? = [.sshKey ⟨1001⟩] := by
  decide

end Blueprint

end Provisioning
