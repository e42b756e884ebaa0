import Provisioning.Proofs.Realization
import Provisioning.Proofs.Stock

/-!
What the build of an edited disk makes and what it leaves. The journal of a successful build has the
key and the notes that were made for the edit, and the cloud keeps those that are not ephemeral. The
main statement says so of the whole stock, of the edit that is kept with the disk, and of the
private key that is handed over.
-/

namespace Provisioning

open Program Cloud

/-- More records are stored under their identifiers. -/
def Records.adding {ρ : Type} (idOf : ρ → ResourceId) (records : Records ρ) (added : List ρ) :
    Records ρ :=
  added.foldl (fun records record => records.insert (idOf record) record) records

/-- A key that no added record has finds what it found before. -/
theorem Records.get?_adding {ρ : Type} {idOf : ρ → ResourceId} {added : List ρ} {id : ResourceId}
    (apart : id ∉ added.map idOf) (records : Records ρ) :
    (records.adding idOf added).get? id = records.get? id := by
  induction added generalizing records with
  | nil => rfl
  | cons record rest inductionHypothesis =>
      rw [List.map_cons, List.mem_cons, not_or] at apart
      obtain ⟨different, apart⟩ := apart
      refine (inductionHypothesis apart (records.insert (idOf record) record)).trans ?_
      rw [SortedMap.get?_insert, if_neg different]

namespace Stock

/-- Keys and notes are added to the stock. -/
def supplied (stock : Stock) (keys : List SshKey) (notes : List Note) : Stock :=
  { stock with
    sshKeys := stock.sshKeys.adding SshKey.id keys
    notes := stock.notes.adding Note.id notes }

/-- An artifact is deleted from the stock. -/
def without (stock : Stock) : Artifact → Stock
  | .sshKey id => { stock with sshKeys := stock.sshKeys.erase id }
  | .note id => { stock with notes := stock.notes.erase id }

variable {stock : Stock} {artifacts : List Artifact} {id : ResourceId}

/-- A key is found without some artifacts when it is none of them. -/
theorem foldl_without_sshKeys (stock : Stock) (artifacts : List Artifact) :
    (artifacts.foldl without stock).sshKeys.get? id =
      if .sshKey id ∈ artifacts then none else stock.sshKeys.get? id := by
  induction artifacts generalizing stock with
  | nil => simp
  | cons artifact rest inductionHypothesis =>
      rw [List.foldl_cons, inductionHypothesis]
      cases artifact with
      | sshKey other => by_cases same : id = other <;> simp [without, same]
      | note other => simp [without]

/-- A note is found without some artifacts when it is none of them. -/
theorem foldl_without_notes (stock : Stock) (artifacts : List Artifact) :
    (artifacts.foldl without stock).notes.get? id =
      if .note id ∈ artifacts then none else stock.notes.get? id := by
  induction artifacts generalizing stock with
  | nil => simp
  | cons artifact rest inductionHypothesis =>
      rw [List.foldl_cons, inductionHypothesis]
      cases artifact with
      | sshKey other => simp [without]
      | note other => by_cases same : id = other <;> simp [without, same]

/-- The edits of disks are kept without any artifacts. -/
theorem foldl_without_diskEdits (stock : Stock) (artifacts : List Artifact) :
    (artifacts.foldl without stock).diskEdits = stock.diskEdits := by
  induction artifacts generalizing stock with
  | nil => rfl
  | cons artifact rest inductionHypothesis =>
      rw [List.foldl_cons, inductionHypothesis]
      cases artifact <;> rfl

end Stock

/-- These requests make an artifact or only look. -/
def Request.Supplies : Request → Prop
  | .credential (.generateSshKey _) | .credential (.createNote _) => True
  | request => request.Looks

namespace Request.Supplies

variable {entry : Entry CloudService}

/-- A request that supplies the stock adds what its entry has stored. -/
theorem entered (supplies : entry.request.Supplies) (stock : Stock) :
    stock.entered entry =
      stock.supplied ([entry].filterMap Entry.sshKey?) ([entry].filterMap Entry.note?) := by
  obtain ⟨request, answer, started, completed⟩ := entry
  cases request with
  | credential call => cases call <;> cases answer <;> first | rfl | nomatch supplies
  | disk zone call => cases call <;> cases answer <;> first | rfl | nomatch supplies
  | _ => rfl

/-- A request that supplies the stock draws a number for each record that it stores. -/
theorem draws (supplies : entry.request.Supplies) :
    entry.draws =
      ([entry].filterMap Entry.sshKey?).length + ([entry].filterMap Entry.note?).length := by
  obtain ⟨request, answer, started, completed⟩ := entry
  cases request with
  | credential call => cases call <;> cases answer <;> rfl
  | disk zone call => cases call <;> cases answer <;> first | rfl | nomatch supplies
  | catalogue zone call => cases answer <;> rfl
  | sim call => cases call <;> cases answer <;> rfl
  | localRouter call => cases call <;> cases answer <;> first | rfl | nomatch supplies
  | server | database | vpcRouter | mobileGateway | containerRegistry => nomatch supplies

end Request.Supplies

/-- A look supplies nothing. -/
theorem Request.Looks.supplies {request : Request} (looks : request.Looks) : request.Supplies := by
  unfold Request.Supplies
  split
  · trivial
  · trivial
  · exact looks

namespace Entry

/-- A key that a call stores is an artifact that it has made. -/
theorem made?_of_sshKey? {entry : Entry CloudService} {key : SshKey}
    (stored : entry.sshKey? = some key) : entry.made? = some (.sshKey key.id) := by
  unfold sshKey? at stored
  split at stored
  · cases stored
    rfl
  · nomatch stored

/-- A note that a call stores is an artifact that it has made. -/
theorem made?_of_note? {entry : Entry CloudService} {note : Note}
    (stored : entry.note? = some note) : entry.made? = some (.note note.id) := by
  unfold note? at stored
  split at stored
  · cases stored
    rfl
  · nomatch stored

/-- An idle entry has stored no record and generated no key. -/
structure Idle (entry : Entry CloudService) : Prop where
  sshKey : entry.sshKey? = none
  note : entry.note? = none
  generated : entry.generated? = none

/-- An entry that has made no artifact is idle. -/
theorem idle_of_made? {entry : Entry CloudService} (nothing : entry.made? = none) :
    entry.Idle := by
  constructor
  · unfold sshKey?
    split <;> first | rfl | nomatch nothing
  · unfold note?
    split <;> first | rfl | nomatch nothing
  · unfold generated?
    split <;> first | rfl | nomatch nothing

/-- A look stores no record and generates no key. -/
theorem idle_of_looks {entry : Entry CloudService} (looks : entry.request.Looks) : entry.Idle := by
  apply idle_of_made?
  unfold made?
  split <;> first | rfl | nomatch looks

end Entry

/-- A part of a journal supplies these records to the stock, with these private keys. -/
structure Supply (keys : List SshKey) (notes : List Note) (privateKeys : List String)
    (made : List (Entry CloudService)) : Prop where
  supplies : ∀ entry ∈ made, entry.request.Supplies
  sshKeys : made.filterMap Entry.sshKey? = keys
  notes : made.filterMap Entry.note? = notes
  privateKeys : made.filterMap Entry.generated? = privateKeys

namespace Supply

variable {keys laterKeys : List SshKey} {notes laterNotes : List Note}
  {privateKeys laterPrivateKeys : List String} {made later : List (Entry CloudService)}

/-- Two parts of a journal supply their records one after the other. -/
theorem append (first : Supply keys notes privateKeys made)
    (second : Supply laterKeys laterNotes laterPrivateKeys later) :
    Supply (keys ++ laterKeys) (notes ++ laterNotes) (privateKeys ++ laterPrivateKeys)
      (made ++ later) where
  supplies := List.forall_mem_append.mpr ⟨first.supplies, second.supplies⟩
  sshKeys := by rw [List.filterMap_append, first.sshKeys, second.sshKeys]
  notes := by rw [List.filterMap_append, first.notes, second.notes]
  privateKeys := by rw [List.filterMap_append, first.privateKeys, second.privateKeys]

/-- Looks supply nothing. -/
theorem of_looks (looks : ∀ entry ∈ made, entry.request.Looks) : Supply [] [] [] made where
  supplies entry member := (looks entry member).supplies
  sshKeys := List.filterMap_eq_nil_iff.mpr fun entry member =>
    (Entry.idle_of_looks (looks entry member)).sshKey
  notes := List.filterMap_eq_nil_iff.mpr fun entry member =>
    (Entry.idle_of_looks (looks entry member)).note
  privateKeys := List.filterMap_eq_nil_iff.mpr fun entry member =>
    (Entry.idle_of_looks (looks entry member)).generated

/-- The supplied records join the stock. -/
theorem through (supply : Supply keys notes privateKeys made) (stock : Stock) :
    stock.through made = stock.supplied keys notes := by
  induction made generalizing stock keys notes privateKeys with
  | nil =>
      obtain ⟨-, rfl, rfl, -⟩ := supply
      rfl
  | cons entry rest inductionHypothesis =>
      obtain ⟨supplies, rfl, rfl, rfl⟩ := supply
      obtain ⟨here, others⟩ := List.forall_mem_cons.mp supplies
      show stock.through ([entry] ++ rest) = stock.supplied
        (([entry] ++ rest).filterMap Entry.sshKey?) (([entry] ++ rest).filterMap Entry.note?)
      rw [Stock.through_append, inductionHypothesis ⟨others, rfl, rfl, rfl⟩, Stock.through_cons,
        Stock.through_nil, here.entered, List.filterMap_append, List.filterMap_append]
      simp only [Stock.supplied, Records.adding, List.foldl_append]

/-- A part of a journal draws one number for each record that it supplies. -/
theorem draws (supply : Supply keys notes privateKeys made) :
    (made.map Entry.draws).sum = keys.length + notes.length := by
  induction made generalizing keys notes privateKeys with
  | nil =>
      obtain ⟨-, rfl, rfl, -⟩ := supply
      rfl
  | cons entry rest inductionHypothesis =>
      obtain ⟨supplies, rfl, rfl, rfl⟩ := supply
      obtain ⟨here, others⟩ := List.forall_mem_cons.mp supplies
      show _ = (([entry] ++ rest).filterMap Entry.sshKey?).length +
        (([entry] ++ rest).filterMap Entry.note?).length
      rw [List.map_cons, List.sum_cons, inductionHypothesis ⟨others, rfl, rfl, rfl⟩, here.draws,
        List.filterMap_append, List.filterMap_append, List.length_append, List.length_append]
      omega

end Supply

section Written

variable {α : Type} {program : Build α} {done : α → List (Entry CloudService) → Prop}
  {broken : List (Entry CloudService) → Prop} {Store : Type}

/-- The journal of a run has the property that belongs to the outcome of the run. -/
theorem Writes.journal (writes : Writes program done broken) (context : Context)
    (remote : Remote CloudService Store) (world : World Store) :
    match (program.run.run context remote world).1 with
    | .ok value => done value (program.run.journal context remote world)
    | .error _ => broken (program.run.journal context remote world) := by
  let holds (outcome : Except ProvisionError α) (_ : World Store)
      (journal : List (Entry CloudService)) : Prop :=
    match outcome with
    | .ok value => done value journal
    | .error _ => broken journal
  apply Yields.journal holds
  apply (writes Store context remote world.watched).mono
  · intro value last ⟨made, grown, finished⟩
    rw [grown]
    exact finished
  · intro error last ⟨made, grown, finished⟩
    rw [grown]
    exact finished

/-- What a program writes down in a run that succeeds has its property. -/
theorem Writes.written (writes : Writes program done broken) {context : Context}
    {remote : Remote CloudService Store} {world after : World Store} {value : α}
    (ran : program.run.run context remote world = (.ok value, after)) :
    done value (program.run.journal context remote world) := by
  have written := writes.journal context remote world
  rw [ran] at written
  exact written

end Written

namespace UnixEdit

/-- The request of an edit names its own keys and notes before those that were made for it. -/
def requestWith (edit : UnixEdit) (keyIds noteIds : List ResourceId) : DiskEditRequest :=
  { edit.declared with
    sshKeyIds := edit.sshKeyIds ++ keyIds
    notes := edit.notes ++ noteIds.map fun id => { id, bindings := .empty } }

/-- These records were made for an edit, and its artifacts bear their identifiers. -/
structure Suits (edit : UnixEdit) (artifacts : Artifacts) (keys : List SshKey)
    (notes : List Note) : Prop where
  names : keys.map SshKey.name = edit.generateSshKey.toList.map fun generation =>
    generation.request.name
  contents : notes.map Note.content = edit.noteContents
  keyIds : artifacts.generatedKey.toList.map GeneratedSshKey.id = keys.map SshKey.id
  noteIds : artifacts.noteIds = notes.map Note.id
  deleteKey : artifacts.deleteKey = edit.isSshKeysEphemeral
  deleteNotes : artifacts.deleteNotes = edit.isNotesEphemeral

/-- The generation of a key supplies the key that the edit asks for, and hands its private part
over. -/
theorem generateKey_supplies (edit : UnixEdit) :
    Writes edit.generateKey
      (fun key made => ∃ keys, Supply keys [] (key.toList.map GeneratedSshKey.privateKey) made ∧
        keys.map SshKey.name = edit.generateSshKey.toList.map (fun generation =>
          generation.request.name) ∧
        key.toList.map GeneratedSshKey.id = keys.map SshKey.id)
      (fun made => ∀ entry ∈ made, entry.request.Supplies) := by
  rw [generateKey]
  cases edit.generateSshKey with
  | none => exact .pure ⟨[], .of_looks (List.forall_mem_nil _), rfl, rfl⟩
  | some generation =>
      apply Writes.step
      · intro key started completed
        exact .pure ⟨[_], ⟨List.forall_mem_singleton.mpr trivial, rfl, rfl, rfl⟩, rfl, rfl⟩
      · exact fun _ _ _ => List.forall_mem_singleton.mpr trivial

/-- The creation of notes supplies one note for each content, in order. -/
theorem createNotes_supplies (contents : List String) :
    Writes (contents.mapM createNote)
      (fun ids made => ∃ notes, Supply [] notes [] made ∧ notes.map Note.content = contents ∧
        ids = notes.map Note.id)
      (fun made => ∀ entry ∈ made, entry.request.Supplies) := by
  induction contents with
  | nil =>
      rw [List.mapM_nil]
      exact .pure ⟨[], .of_looks (List.forall_mem_nil _), rfl, rfl⟩
  | cons content rest inductionHypothesis =>
      rw [List.mapM_cons, createNote, bind_assoc]
      apply Writes.step
      · intro note started completed
        rw [pure_bind]
        apply inductionHypothesis.bind
        · rintro ids made ⟨notes, supply, written, named⟩
          subst written named
          have stored : Supply [] [{ id := note.id, name := Text.generatedName, content }] []
              [⟨.credential (.createNote { name := Text.generatedName, content, tags := [] }),
                .ok note, started, completed⟩] :=
            ⟨List.forall_mem_singleton.mpr trivial, rfl, rfl, rfl⟩
          apply Writes.pure
          rw [List.append_nil]
          exact ⟨_, stored.append supply, rfl, rfl⟩
        · exact fun _ others => List.forall_mem_cons.mpr ⟨trivial, others⟩
      · exact fun _ _ _ => List.forall_mem_singleton.mpr trivial

/-- A preparation supplies what its edit asks for, and the request names it. -/
theorem prepare_supplies (edit : UnixEdit) :
    Writes edit.prepare
      (fun prepared made => ∃ keys notes,
        Supply keys notes (prepared.2.generatedKey.toList.map GeneratedSshKey.privateKey) made ∧
        edit.Suits prepared.2 keys notes ∧
        prepared.1 = edit.requestWith (keys.map SshKey.id) (notes.map Note.id))
      (fun made => ∀ entry ∈ made, entry.request.Supplies) := by
  rw [prepare]
  apply edit.generateKey_supplies.bind
  · rintro key made ⟨keys, keySupply, names, keyIds⟩
    apply (createNotes_supplies edit.noteContents).bind
    · rintro ids later ⟨notes, noteSupply, contents, noteIds⟩
      subst noteIds
      apply Writes.pure
      rw [List.append_nil]
      refine ⟨keys, notes, ?_, ⟨names, contents, keyIds, rfl, rfl, rfl⟩, ?_⟩
      · have supply := keySupply.append noteSupply
        rwa [List.append_nil, List.append_nil] at supply
      · rw [requestWith, ← keyIds]
        cases key <;> rfl
    · exact fun _ others => List.forall_mem_append.mpr ⟨keySupply.supplies, others⟩
  · exact fun _ supplies => supplies

end UnixEdit

/-- A part of a journal clears these artifacts from the stock and does nothing else. -/
structure Clearing (artifacts : List Artifact) (made : List (Entry CloudService)) : Prop where
  idle : ∀ entry ∈ made, entry.Idle
  draws : (made.map Entry.draws).sum = 0
  through : ∀ stock : Stock, stock.through made = artifacts.foldl Stock.without stock

namespace Clearing

variable {artifacts others : List Artifact} {made later : List (Entry CloudService)}

theorem sshKeys (clearing : Clearing artifacts made) : made.filterMap Entry.sshKey? = [] :=
  List.filterMap_eq_nil_iff.mpr fun entry member => (clearing.idle entry member).sshKey

theorem notes (clearing : Clearing artifacts made) : made.filterMap Entry.note? = [] :=
  List.filterMap_eq_nil_iff.mpr fun entry member => (clearing.idle entry member).note

theorem privateKeys (clearing : Clearing artifacts made) : made.filterMap Entry.generated? = [] :=
  List.filterMap_eq_nil_iff.mpr fun entry member => (clearing.idle entry member).generated

theorem nil : Clearing [] [] := ⟨List.forall_mem_nil _, rfl, fun _ => rfl⟩

/-- Two parts of a journal clear their artifacts one after the other. -/
theorem append (first : Clearing artifacts made) (second : Clearing others later) :
    Clearing (artifacts ++ others) (made ++ later) where
  idle := List.forall_mem_append.mpr ⟨first.idle, second.idle⟩
  draws := by rw [List.map_append, List.sum_append, first.draws, second.draws]
  through stock := by
    rw [Stock.through_append, first.through, second.through, List.foldl_append]

end Clearing

namespace Artifacts

/-- The deletion of notes clears them from the stock. -/
theorem deleteNotes_clears (ids : List ResourceId) :
    Writes (ids.forM fun id => Build.call "delete note" (.credential (.deleteNote id)))
      (fun _ made => Clearing (ids.map .note) made) (fun _ => True) := by
  induction ids with
  | nil => exact .pure .nil
  | cons id rest inductionHypothesis =>
      rw [List.forM]
      apply Writes.step
      · intro answer started completed
        have deleted : Clearing [.note id]
            [⟨.credential (.deleteNote id), .ok answer, started, completed⟩] :=
          ⟨List.forall_mem_singleton.mpr (Entry.idle_of_made? rfl), rfl, fun _ => rfl⟩
        exact inductionHypothesis.mono (fun _ _ others => deleted.append others) fun _ _ => trivial
      · exact fun _ _ _ => trivial

/-- A disposal clears the ephemeral artifacts and hands over the private key. -/
theorem dispose_clears (artifacts : Artifacts) :
    Writes artifacts.dispose
      (fun handed made => handed = artifacts.generatedKey.map GeneratedSshKey.privateKey ∧
        Clearing artifacts.disposed made)
      (fun _ => True) := by
  have notes (handed : Option String) : Writes (do
      if artifacts.deleteNotes then
        artifacts.noteIds.forM fun id => Build.call "delete note" (.credential (.deleteNote id))
      return handed : Build _)
      (fun value made => value = handed ∧
        Clearing (if artifacts.deleteNotes then artifacts.noteIds.map .note else []) made)
      (fun _ => True) := by
    split
    · apply (deleteNotes_clears artifacts.noteIds).bind
      · intro _ made cleared
        apply Writes.pure
        rw [List.append_nil]
        exact ⟨rfl, cleared⟩
      · exact fun _ _ => trivial
    · exact .pure ⟨rfl, .nil⟩
  rw [dispose, disposed]
  cases artifacts.generatedKey with
  | none => split <;> exact notes _
  | some key =>
      split
      · apply Writes.step
        · intro answer started completed
          have deleted : Clearing [.sshKey key.id]
              [⟨.credential (.deleteSshKey key.id), .ok answer, started, completed⟩] :=
            ⟨List.forall_mem_singleton.mpr (Entry.idle_of_made? rfl), rfl, fun _ => rfl⟩
          apply (notes _).mono
          · rintro _ _ ⟨handed, others⟩
            exact ⟨handed, deleted.append others⟩
          · exact fun _ _ => trivial
        · exact fun _ _ _ => trivial
      · exact notes _

end Artifacts

section Build

variable {zone : Zone} {serverId : ResourceId} {timing : Timing} {blueprint : DiskBlueprint}
  {edit : UnixEdit} {artifacts : Artifacts} {keys : List SshKey} {notes : List Note}

/-- These of the records that were made for an edit are ephemeral. -/
def UnixEdit.ephemeral (edit : UnixEdit) (keys : List SshKey) (notes : List Note) :
    List Artifact :=
  (if edit.isSshKeysEphemeral then keys.map fun key => .sshKey key.id else []) ++
    if edit.isNotesEphemeral then notes.map fun note => .note note.id else []

/-- The artifacts that are disposed of are the ephemeral ones of the edit. -/
theorem UnixEdit.Suits.disposed_eq (suits : edit.Suits artifacts keys notes) :
    artifacts.disposed = edit.ephemeral keys notes := by
  have keyed := congrArg (List.map Artifact.sshKey) suits.keyIds
  rw [List.map_map, List.map_map] at keyed
  rw [Artifacts.disposed, UnixEdit.ephemeral, suits.deleteKey, suits.deleteNotes, suits.noteIds,
    List.map_map]
  exact congrArg (fun ids => (if edit.isSshKeysEphemeral then ids else []) ++ _) keyed

/-- A key is generated exactly when one is asked for. -/
theorem UnixEdit.Suits.isSome_key (suits : edit.Suits artifacts keys notes) :
    artifacts.generatedKey.isSome = edit.generateSshKey.isSome := by
  have named := congrArg List.length suits.names
  have keyed := congrArg List.length suits.keyIds
  rw [List.length_map, List.length_map] at named keyed
  have same : artifacts.generatedKey.toList.length = edit.generateSshKey.toList.length :=
    keyed.trans named
  cases generated : artifacts.generatedKey <;> cases asked : edit.generateSshKey <;>
    simp [generated, asked] at same ⊢

/-- The journal of the build of an edited disk has the declared records, and entering it into a
stock adds the records and the edit and clears what is ephemeral. -/
structure UnixEdit.Recounts (edit : UnixEdit) (result : BuildResult) (keys : List SshKey)
    (notes : List Note) (journal : List (Entry CloudService)) : Prop where
  storedKeys : journal.filterMap Entry.sshKey? = keys
  storedNotes : journal.filterMap Entry.note? = notes
  privateKeys : journal.filterMap Entry.generated? = result.generatedSshPrivateKey.toList
  names : keys.map SshKey.name = edit.generateSshKey.toList.map fun generation =>
    generation.request.name
  contents : notes.map Note.content = edit.noteContents
  declared : result.generatedSshPrivateKey.isSome = edit.generateSshKey.isSome
  draws : (journal.map Entry.draws).sum = edit.draws + 1
  through : ∀ stock : Stock, stock.through journal =
    (edit.ephemeral keys notes).foldl Stock.without
      { stock.supplied keys notes with
        diskEdits := stock.diskEdits.insert result.id
          (edit.requestWith (keys.map SshKey.id) (notes.map Note.id)) }

/-- A journal recounts an edit when records are supplied for the edit, a disk is created with it,
and the ephemeral artifacts are cleared after a wait. -/
theorem UnixEdit.Suits.recounts (suits : edit.Suits artifacts keys notes)
    {made waited cleared : List (Entry CloudService)} {work : Entry CloudService} {id : ResourceId}
    (supply : Supply keys notes
      (artifacts.generatedKey.toList.map GeneratedSshKey.privateKey) made)
    (idle : work.Idle) (draws : work.draws = 1)
    (writes : ∀ stock : Stock, stock.entered work =
      { stock with
        diskEdits := stock.diskEdits.insert id
          (edit.requestWith (keys.map SshKey.id) (notes.map Note.id)) })
    (waits : Supply [] [] [] waited) (clears : Clearing artifacts.disposed cleared) :
    edit.Recounts
      { id, generatedSshPrivateKey := artifacts.generatedKey.map GeneratedSshKey.privateKey }
      keys notes (made ++ work :: (waited ++ cleared)) := by
  constructor
  case storedKeys =>
    rw [List.filterMap_append, List.filterMap_cons_none idle.sshKey, List.filterMap_append,
      supply.sshKeys, waits.sshKeys, clears.sshKeys, List.append_nil, List.append_nil]
  case storedNotes =>
    rw [List.filterMap_append, List.filterMap_cons_none idle.note, List.filterMap_append,
      supply.notes, waits.notes, clears.notes, List.append_nil, List.append_nil]
  case privateKeys =>
    rw [List.filterMap_append, List.filterMap_cons_none idle.generated, List.filterMap_append,
      supply.privateKeys, waits.privateKeys, clears.privateKeys, List.append_nil, List.append_nil,
      Option.toList_map]
  case names => exact suits.names
  case contents => exact suits.contents
  case declared =>
    rw [Option.isSome_map]
    exact suits.isSome_key
  case draws =>
    have asked := congrArg List.length suits.names
    rw [List.length_map, List.length_map] at asked
    rw [List.map_append, List.map_cons, List.map_append, List.sum_append, List.sum_cons,
      List.sum_append, supply.draws, waits.draws, clears.draws, draws, UnixEdit.draws, asked,
      ← suits.contents, List.length_map]
    rfl
  case through =>
    intro stock
    rw [Stock.through_append, Stock.through_cons, Stock.through_append, supply.through, writes,
      waits.through, clears.through, suits.disposed_eq]
    rfl

namespace DiskBlueprint

/-- The preparation of an edited disk supplies the records that were made for its edit, and the
creation carries a request that names all of them. This holds whatever the remote answers. -/
theorem prepare_supplies (edited : blueprint.edit? = some edit) :
    Writes (blueprint.prepare zone serverId)
      (fun prepared made => ∃ creation keys notes, prepared = some creation ∧
        Supply keys notes (creation.artifacts.generatedKey.toList.map GeneratedSshKey.privateKey)
          made ∧
        edit.Suits creation.artifacts keys notes ∧
        creation.edit = some (edit.requestWith (keys.map SshKey.id) (notes.map Note.id)))
      (fun _ => True) := by
  cases blueprint with
  | unix spec system declared =>
      cases edited
      apply (Writes.of_orderly system.findArchive_orderly).bind
      · intro archive looked looks
        apply edit.prepare_supplies.bind
        · rintro prepared made ⟨keys, notes, supply, suits, requested⟩
          apply Writes.pure
          rw [List.append_nil]
          exact ⟨_, keys, notes, rfl, (Supply.of_looks looks).append supply, suits,
            congrArg some requested⟩
        · exact fun _ _ => trivial
      · exact fun _ _ => trivial
  | copied spec sourceDiskId sourceArchiveId declared =>
      cases edited
      apply edit.prepare_supplies.bind
      · rintro prepared made ⟨keys, notes, supply, suits, requested⟩
        apply Writes.pure
        rw [List.append_nil]
        exact ⟨_, keys, notes, rfl, supply, suits, congrArg some requested⟩
      · exact fun _ _ => trivial
  | windows | fixedArchive | blank | connected => cases edited

/-- The journal of the build of an edited disk recounts the edit. -/
theorem build_recounts (edited : blueprint.edit? = some edit) :
    Writes (blueprint.build zone serverId timing)
      (fun result made => ∃ keys notes, edit.Recounts result keys notes made) (fun _ => True) := by
  rw [build]
  apply (Writes.of_orderly blueprint.validate_orderly).bind
  · intro _ looked looks
    apply (prepare_supplies edited).bind
    · rintro prepared made ⟨creation, keys, notes, rfl, supply, suits, requested⟩
      dsimp only
      rw [create, requested]
      apply Writes.step
      · intro disk started completed
        have awaits : Orderly Request.Looks (awaitReady zone disk.id timing).run :=
          awaitReady_orderly rfl
        apply (Writes.of_orderly awaits).bind
        · intro _ awaited looksToo
          apply creation.artifacts.dispose_clears.bind
          · rintro handed cleared ⟨rfl, clearing⟩
            apply Writes.pure
            refine ⟨keys, notes, ?_⟩
            have supplyAll := (Supply.of_looks looks).append supply
            rw [List.append_nil, ← List.append_assoc]
            exact suits.recounts supplyAll (Entry.idle_of_made? rfl) rfl (fun _ => rfl)
              (.of_looks looksToo) clearing
          · exact fun _ _ => trivial
        · exact fun _ _ => trivial
      · exact fun _ _ _ => trivial
    · exact fun _ _ => trivial
  · exact fun _ _ => trivial

end DiskBlueprint

variable {base after : Cloud} {result : BuildResult} {journal : List (Entry CloudService)}

/-- A key is ephemeral when it was made for an edit whose keys are. -/
theorem UnixEdit.sshKey_mem_ephemeral {id : ResourceId} :
    .sshKey id ∈ edit.ephemeral keys notes ↔
      edit.isSshKeysEphemeral ∧ id ∈ keys.map SshKey.id := by
  rw [ephemeral]
  cases edit.isSshKeysEphemeral <;> cases edit.isNotesEphemeral <;> simp

/-- A note is ephemeral when it was made for an edit whose notes are. -/
theorem UnixEdit.note_mem_ephemeral {id : ResourceId} :
    .note id ∈ edit.ephemeral keys notes ↔ edit.isNotesEphemeral ∧ id ∈ notes.map Note.id := by
  rw [ephemeral]
  cases edit.isSshKeysEphemeral <;> cases edit.isNotesEphemeral <;> simp

/-- The records that were made for an edit are new to a cloud when the cloud stores no records under
their identifiers, and no two of the notes share an identifier. -/
structure Cloud.Lacks (base : Cloud) (keys : List SshKey) (notes : List Note) : Prop where
  newKeys : ∀ key ∈ keys, base.sshKeys.get? key.id = none
  newNotes : ∀ note ∈ notes, base.notes.get? note.id = none
  distinct : (notes.map Note.id).Nodup

/-- Records that an artifact stands for are no more than the artifacts. -/
theorem filterMap_sublist_made {ρ : Type} {read : Entry CloudService → Option ρ}
    {artifact : ρ → Artifact}
    (makes : ∀ entry record, read entry = some record → entry.made? = some (artifact record))
    (entries : List (Entry CloudService)) :
    ((entries.filterMap read).map artifact).Sublist (entries.filterMap Entry.made?) := by
  induction entries with
  | nil => exact .refl _
  | cons entry rest inductionHypothesis =>
      cases found : read entry with
      | none =>
          rw [List.filterMap_cons_none found]
          exact inductionHypothesis.trans ((List.sublist_cons_self entry rest).filterMap _)
      | some record =>
          rw [List.filterMap_cons_some found, List.filterMap_cons_some (makes entry record found)]
          exact inductionHypothesis.cons_cons _

/-- The journal of a numbered cloud has new records. -/
theorem Program.run_lacks {α : Type} (context : Context) (program : Program CloudService α)
    {world : World Cloud} (numbered : world.store.Numbered)
    (room : world.store.lastId.toNat +
      ((program.journal context Cloud.remote world).map Entry.draws).sum < UInt64.size) :
    world.store.Lacks ((program.journal context Cloud.remote world).filterMap Entry.sshKey?)
      ((program.journal context Cloud.remote world).filterMap Entry.note?) := by
  obtain ⟨beyond, distinct⟩ := program.run_makes_new context world room
  have keysMade := filterMap_sublist_made (fun _ _ => Entry.made?_of_sshKey?)
    (program.journal context Cloud.remote world)
  have notesMade := filterMap_sublist_made (fun _ _ => Entry.made?_of_note?)
    (program.journal context Cloud.remote world)
  constructor
  case newKeys =>
    intro key member
    have later : world.store.lastId < key.id.value :=
      beyond _ (keysMade.subset (List.mem_map_of_mem member))
    cases stored : world.store.sshKeys.get? key.id with
    | none => rfl
    | some other => exact absurd (numbered.sshKeys key.id other stored) (Nat.not_le_of_lt later)
  case newNotes =>
    intro note member
    have later : world.store.lastId < note.id.value :=
      beyond _ (notesMade.subset (List.mem_map_of_mem member))
    cases stored : world.store.notes.get? note.id with
    | none => rfl
    | some other => exact absurd (numbered.notes note.id other stored) (Nat.not_le_of_lt later)
  case distinct =>
    have apart := distinct.sublist notesMade
    rw [← Function.comp_def, ← List.map_map] at apart
    exact apart.of_map _

/-- What the build of an edited disk leaves behind: the cloud keeps what was made for the edit and
is not ephemeral, and otherwise the keys and the notes that it had before. The edit that it keeps
with the disk names everything that was made, and the private key is handed over. -/
structure UnixEdit.Stocked (edit : UnixEdit) (base : Cloud) (result : BuildResult) (after : Cloud)
    (keys : List SshKey) (created : List Note) (privateKeys : List String) : Prop where
  names : keys.map SshKey.name = edit.generateSshKey.toList.map fun generation =>
    generation.request.name
  contents : created.map Note.content = edit.noteContents
  new : base.Lacks keys created
  sshKeys : after.sshKeys =
    if edit.isSshKeysEphemeral then base.sshKeys else base.sshKeys.adding SshKey.id keys
  notes : after.notes =
    if edit.isNotesEphemeral then base.notes else base.notes.adding Note.id created
  diskEdits : after.diskEdits = base.diskEdits.insert result.id
    (edit.requestWith (keys.map SshKey.id) (created.map Note.id))
  privateKey : result.generatedSshPrivateKey.toList = privateKeys
  declared : result.generatedSshPrivateKey.isSome = edit.generateSshKey.isSome

/-- New records that are forgotten again leave the records as they were. -/
theorem Records.get?_forgotten {ρ : Type} {idOf : ρ → ResourceId} {records : Records ρ}
    {added : List ρ} (new : ∀ record ∈ added, records.get? (idOf record) = none)
    (id : ResourceId) :
    (if id ∈ added.map idOf then none else (records.adding idOf added).get? id) =
      records.get? id := by
  split
  next member =>
    obtain ⟨record, listed, rfl⟩ := List.mem_map.mp member
    exact (new record listed).symm
  next apart => exact Records.get?_adding apart records

/-- A journal that recounts an edit leaves the stock behind that the edit declares, when what was
made is new to the cloud. -/
theorem UnixEdit.Recounts.stocked (recounts : edit.Recounts result keys notes journal)
    (new : base.Lacks keys notes) (entered : after.stock = base.stock.through journal) :
    edit.Stocked base result after keys notes (journal.filterMap Entry.generated?) := by
  rw [recounts.through] at entered
  constructor
  case names => exact recounts.names
  case contents => exact recounts.contents
  case new => exact new
  case privateKey => exact recounts.privateKeys.symm
  case declared => exact recounts.declared
  case diskEdits =>
    exact (congrArg Stock.diskEdits entered).trans (Stock.foldl_without_diskEdits _ _)
  case sshKeys =>
    apply (congrArg Stock.sshKeys entered).trans
    ext id : 1
    rw [Stock.foldl_without_sshKeys]
    cases ephemeral : edit.isSshKeysEphemeral with
    | true =>
        -- The added keys are erased again, and they were new, so the former records remain.
        simp only [UnixEdit.sshKey_mem_ephemeral, ephemeral, true_and, if_true]
        exact Records.get?_forgotten new.newKeys id
    | false => simp [UnixEdit.sshKey_mem_ephemeral, ephemeral, Stock.supplied, Cloud.stock]
  case notes =>
    apply (congrArg Stock.notes entered).trans
    ext id : 1
    rw [Stock.foldl_without_notes]
    cases ephemeral : edit.isNotesEphemeral with
    | true =>
        simp only [UnixEdit.note_mem_ephemeral, ephemeral, true_and, if_true]
        exact Records.get?_forgotten new.newNotes id
    | false => simp [UnixEdit.note_mem_ephemeral, ephemeral, Stock.supplied, Cloud.stock]

/-- The build of an edited disk that succeeds on a numbered cloud leaves the declared stock, as long
as the counter has room for what the build draws. -/
theorem DiskBlueprint.build_leaves_declared_stock (zone : Zone) (serverId : ResourceId)
    (timing : Timing) (edited : blueprint.edit? = some edit) (context : Context)
    {world last : World Cloud} (numbered : world.store.Numbered)
    (room : world.store.lastId.toNat + blueprint.draws < UInt64.size)
    (built : (blueprint.build zone serverId timing).run.run context Cloud.remote world =
      (.ok result, last)) :
    let journal := (blueprint.build zone serverId timing).run.journal context Cloud.remote world
    edit.Stocked world.store result last.store (journal.filterMap Entry.sshKey?)
      (journal.filterMap Entry.note?) (journal.filterMap Entry.generated?) := by
  intro journal
  obtain ⟨keys, notes, recounts⟩ := (build_recounts edited).written built
  have draws : blueprint.draws = edit.draws + 1 := by
    cases blueprint with
    | unix spec system declared =>
        cases edited
        rfl
    | copied spec sourceDiskId sourceArchiveId declared =>
        cases edited
        rfl
    | windows | fixedArchive | blank | connected => nomatch edited
  have enough : world.store.lastId.toNat + (journal.map Entry.draws).sum < UInt64.size := by
    rw [recounts.draws, ← draws]
    exact room
  have entered := (blueprint.build zone serverId timing).run.run_stock context world
  rw [built] at entered
  have new := (blueprint.build zone serverId timing).run.run_lacks context numbered enough
  rw [recounts.storedKeys, recounts.storedNotes] at new ⊢
  exact recounts.stocked new entered

/-- A copied disk is edited with a key that is deleted again and with two notes that stay. -/
theorem copied_disk_keeps_its_notes :
    let spec : DiskSpec :=
      { (default : DiskSpec) with name := "root", planId := ⟨4⟩, sizeGb := 20 }
    let edit : UnixEdit :=
      { (default : UnixEdit) with
        sshKeyIds := [⟨9⟩]
        generateSshKey := some default
        isSshKeysEphemeral := true
        notes := [⟨⟨10⟩, .empty⟩]
        noteContents := ["first", "second"] }
    let blueprint : DiskBlueprint := .copied spec .unset ⟨8⟩ (some edit)
    let cloud := (Cloud.empty.seedDiskPlan ⟨4⟩ "SSD" [20]).seedArchive
      { (default : Archive) with id := ⟨8⟩, tags := [⟨"os-linux"⟩] }
    let stocked := (cloud.seedSshKey { (default : SshKey) with id := ⟨9⟩ }).seedNote
      { (default : Note) with id := ⟨10⟩ }
    let build := (blueprint.build ⟨"is1a"⟩ .unset (.uniform 1 1)).run
    let finished := build.run default Cloud.remote ⟨default, stocked⟩
    let journal := build.journal default Cloud.remote ⟨default, stocked⟩
    finished.2.store.sshKeys = stocked.sshKeys ∧
      finished.2.store.notes.keys = [⟨10⟩, ⟨1002⟩, ⟨1003⟩] ∧
      ∃ result, finished.1 = .ok result ∧
        edit.Stocked stocked result finished.2.store (journal.filterMap Entry.sshKey?)
          (journal.filterMap Entry.note?) (journal.filterMap Entry.generated?) := by
  intro spec edit blueprint cloud stocked build finished journal
  have kept : finished.2.store.sshKeys = stocked.sshKeys ∧
      finished.2.store.notes.keys = [⟨10⟩, ⟨1002⟩, ⟨1003⟩] := by decide +kernel
  have numbered : stocked.Numbered := {
    disks := nofun
    archives := numbers_of_entries (by decide)
    sshKeys := numbers_of_entries (by decide)
    notes := numbers_of_entries (by decide)
    servers := nofun }
  have succeeds : finished.1.isOk := by decide +kernel
  refine ⟨kept.1, kept.2, ?_⟩
  cases outcome : finished.1 with
  | error error =>
      rw [outcome] at succeeds
      nomatch succeeds
  | ok result =>
      have built : finished = (.ok result, finished.2) := Prod.ext outcome rfl
      exact ⟨result, rfl, DiskBlueprint.build_leaves_declared_stock ⟨"is1a"⟩ .unset (.uniform 1 1)
        rfl default numbered (by decide) built⟩

end Build

end Provisioning
