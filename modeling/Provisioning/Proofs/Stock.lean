import Mathlib.Algebra.GroupWithZero.Nat
import Provisioning.Proofs.Disposal
import Provisioning.Proofs.Ledger

/-!
The stock of a cloud: the keys and notes that it keeps, and the edits of its disks. The main
statements say that the journal of a run accounts for the stock that the run leaves behind, and that
the keys and notes of a run are new and differ from each other.
-/

namespace Provisioning

open Cloud

/-- This number identifies an artifact. -/
def Artifact.number : Artifact → UInt64
  | sshKey id => id.value
  | note id => id.value

/-- The stock of a cloud has the keys, the notes, and the edits of the disks. -/
@[ext] structure Stock where
  sshKeys : Records SshKey
  notes : Records Note
  diskEdits : Records DiskEditRequest

def Cloud.stock (cloud : Cloud) : Stock := ⟨cloud.sshKeys, cloud.notes, cloud.diskEdits⟩

namespace Entry

/-- This is the public key that a call has stored. -/
def sshKey? : Entry CloudService → Option SshKey
  | ⟨.credential (.generateSshKey request), .ok pair, _, _⟩ =>
      some { id := pair.id, name := request.name, publicKey := pair.publicKey }
  | _ => none

/-- This is the note that a call has stored. -/
def note? : Entry CloudService → Option Note
  | ⟨.credential (.createNote request), .ok note, _, _⟩ =>
      some { id := note.id, name := request.name, content := request.content }
  | _ => none

/-- A call that fails has made nothing. -/
theorem made?_of_error (request : Request) (error : RemoteError) (started completed : Timeline) :
    Entry.made? ⟨request, .error error, started, completed⟩ = none := by
  cases request with
  | credential call => cases call <;> rfl
  | _ => rfl

/-- An entry draws as many numbers as its request, but a failure may draw none. -/
def draws (entry : Entry CloudService) : Nat :=
  if entry.answer.isOk then entry.request.draws else entry.request.drawsInVain

end Entry

namespace Stock

/-- A key or a note joins the stock when it is stored and leaves it when it is deleted. The edit of
a disk is kept with the disk. -/
def entered (stock : Stock) : Entry CloudService → Stock
  | ⟨.credential (.generateSshKey request), .ok pair, _, _⟩ =>
      { stock with
        sshKeys := stock.sshKeys.insert pair.id
          { id := pair.id, name := request.name, publicKey := pair.publicKey } }
  | ⟨.credential (.createNote request), .ok note, _, _⟩ =>
      { stock with
        notes := stock.notes.insert note.id
          { id := note.id, name := request.name, content := request.content } }
  | ⟨.credential (.deleteSshKey id), .ok _, _, _⟩ =>
      { stock with sshKeys := stock.sshKeys.erase id }
  | ⟨.credential (.deleteNote id), .ok _, _, _⟩ => { stock with notes := stock.notes.erase id }
  | ⟨.disk _ (.createWithConfig _ edit _ _), .ok disk, _, _⟩ =>
      { stock with diskEdits := stock.diskEdits.insert disk.id edit }
  | ⟨.disk _ (.config id edit), .ok _, _, _⟩ =>
      { stock with diskEdits := stock.diskEdits.insert id edit }
  | _ => stock

/-- This stock is left when a journal has been entered. -/
def through (stock : Stock) (journal : List (Entry CloudService)) : Stock :=
  journal.foldl entered stock

@[simp] theorem through_nil (stock : Stock) : stock.through [] = stock := rfl

@[simp] theorem through_cons (stock : Stock) (entry : Entry CloudService)
    (rest : List (Entry CloudService)) :
    stock.through (entry :: rest) = (stock.entered entry).through rest := rfl

/-- Two journals are entered one after the other. -/
@[simp] theorem through_append (stock : Stock) (first second : List (Entry CloudService)) :
    stock.through (first ++ second) = (stock.through first).through second :=
  List.foldl_append

/-- A call that failed leaves the stock as it is. -/
theorem entered_of_error (stock : Stock) (request : Request) (error : RemoteError)
    (started completed : Timeline) :
    stock.entered ⟨request, .error error, started, completed⟩ = stock := by
  cases request with
  | disk zone call => cases call <;> rfl
  | credential call => cases call <;> rfl
  | _ => rfl

end Stock

namespace Cloud

open CloudStep

variable {cloud : Cloud} {started completed : Timeline}

/-- A call about a disk enters the stock as its entry says, and not at all when it fails. -/
theorem answerDisk_stock (zone : Zone) (call : DiskCall) :
    (answerDisk call).Yields cloud
      (fun value after =>
        after.stock = cloud.stock.entered ⟨.disk zone call, .ok value, started, completed⟩)
      (fun _ after => after.stock = cloud.stock) := by
  cases call with
  | create request distantFrom | createWithConfig request edit bootAtAvailable distantFrom =>
      rw [answerDisk, yields_createDisk]
      repeat' split
      all_goals trivial
  | read id =>
      simp only [answerDisk, yields_readSettling, yields_change, yields_find]
      repeat' split
      all_goals trivial
  | update id request =>
      simp only [answerDisk, yields_change]
      split <;> trivial
  | delete id =>
      simp only [answerDisk, yields_remove]
      split <;> trivial
  | connectToServer id serverId =>
      simp only [answerDisk, connectDisk, yields_bind, yields_change, yields_pure]
      repeat' split
      all_goals trivial
  | config id edit =>
      simp only [answerDisk, configureDisk, yields_bind, yields_change, yields_track,
        yields_modify]
      split <;> trivial

/-- A call about a key or a note enters the stock as its entry says, and not at all when it fails.
-/
theorem answerCredential_stock (call : CredentialCall) :
    (answerCredential call).Yields cloud
      (fun value after =>
        after.stock = cloud.stock.entered ⟨.credential call, .ok value, started, completed⟩)
      (fun _ after => after.stock = cloud.stock) := by
  cases call with
  | generateSshKey request => rfl
  | createNote request => rfl
  | readSshKey id | readNote id =>
      simp only [answerCredential, yields_find]
      split <;> trivial
  | deleteSshKey id | deleteNote id =>
      simp only [answerCredential, yields_remove]
      split <;> trivial

/-- The entry of a call says what the call does to the stock. -/
theorem call_stock (request : Request) (cloud : Cloud) :
    (call request cloud).2.stock =
      cloud.stock.entered ⟨request, (call request cloud).1, started, completed⟩ := by
  refine call_elim (motive := fun answer after =>
    after.stock = cloud.stock.entered ⟨request, answer, started, completed⟩) ?_ ?_
  · intro error failures announced
    exact (Stock.entered_of_error _ _ _ _ _).symm
  · intro silent
    cases request with
    | disk zone call =>
        apply (answerDisk_stock zone call).mono
        · exact fun _ _ stocked => stocked
        · exact fun _ _ stocked => stocked.trans (Stock.entered_of_error _ _ _ _ _).symm
    | credential call =>
        apply (answerCredential_stock call).mono
        · exact fun _ _ stocked => stocked
        · exact fun _ _ stocked => stocked.trans (Stock.entered_of_error _ _ _ _ _).symm
    | _ =>
        apply (answerRequest_footprint _).mono
        · intro value after written
          rw [written]
          rfl
        · intro error after written
          rw [written]
          rfl

/-- An artifact bears a number that its call has drawn. -/
theorem call_makes (request : Request) (cloud : Cloud) :
    (([⟨request, (call request cloud).1, started, completed⟩].filterMap Entry.made?).map
      Artifact.number).Sublist (numbersAfter cloud.lastId (cloud.drawn request)) := by
  unfold drawn
  refine call_elim (motive := fun outcome _ =>
    (([⟨request, outcome, started, completed⟩].filterMap Entry.made?).map Artifact.number).Sublist
      (numbersAfter cloud.lastId (if (request.endpoint.takeFirst cloud.failures).isSome then 0
        else if outcome.isOk then request.draws else request.drawsInVain))) ?_ ?_
  · intro error failures announced
    rw [List.filterMap_cons_none (Entry.made?_of_error _ _ _ _)]
    exact List.nil_sublist _
  · intro silent
    rw [silent]
    cases request with
    | credential call =>
        cases call with
        | generateSshKey request => exact .refl _
        | createNote request => exact .refl _
        | _ => exact .of_forall (fun _ _ => List.nil_sublist _) fun _ _ => List.nil_sublist _
    | _ => exact .of_forall (fun _ _ => List.nil_sublist _) fun _ _ => List.nil_sublist _

/-- A call draws no more numbers than its entry says. -/
theorem drawn_le_draws (request : Request) (cloud : Cloud) :
    cloud.drawn request ≤ Entry.draws ⟨request, (call request cloud).1, started, completed⟩ := by
  unfold drawn Entry.draws
  split
  · exact Nat.zero_le _
  · exact Nat.le_refl _

end Cloud

namespace Program

variable {α : Type} (context : Context)

/-- The journal of a run accounts for the stock that the run leaves behind. -/
theorem run_stock (program : Program CloudService α) (world : World Cloud) :
    (program.run context Cloud.remote world).2.store.stock =
      world.store.stock.through (program.journal context Cloud.remote world) := by
  induction program generalizing world with
  | done value => rfl
  | call request next inductionHypothesis =>
      let answered := Cloud.remote context request world
      have stocked : answered.2.store.stock = world.store.stock.entered
          ⟨request, answered.1, world.timeline, answered.2.timeline⟩ :=
        call_stock request world.store
      rw [journal_call, Stock.through_cons]
      exact (inductionHypothesis answered.1 answered.2).trans (congrArg (Stock.through · _) stocked)
  | clock next inductionHypothesis => exact inductionHypothesis world.timeline.now world
  | check next inductionHypothesis =>
      exact inductionHypothesis (context.check world.timeline) world
  | sleep span next inductionHypothesis =>
      let slept := context.sleep span world.timeline
      exact inductionHypothesis slept.1 { world with timeline := slept.2 }

/-- The artifacts of a run bear numbers that the run has drawn, in the same order. -/
theorem run_makes (program : Program CloudService α) (world : World Cloud) :
    ∃ drawn, drawn ≤ ((program.journal context Cloud.remote world).map Entry.draws).sum ∧
      (((program.journal context Cloud.remote world).filterMap Entry.made?).map
        Artifact.number).Sublist (numbersAfter world.store.lastId drawn) := by
  induction program generalizing world with
  | done value => exact ⟨0, Nat.le_refl _, .refl _⟩
  | call request next inductionHypothesis =>
      let answered := Cloud.remote context request world
      let entry : Entry CloudService :=
        ⟨request, answered.1, world.timeline, answered.2.timeline⟩
      obtain ⟨later, bounded, numbered⟩ := inductionHypothesis answered.1 answered.2
      have counted : answered.2.store.lastId =
          world.store.lastId + UInt64.ofNat (world.store.drawn request) :=
        call_lastId request world.store
      have makes : (([entry].filterMap Entry.made?).map Artifact.number).Sublist
          (numbersAfter world.store.lastId (world.store.drawn request)) :=
        call_makes request world.store
      have draws : world.store.drawn request ≤ entry.draws := drawn_le_draws request world.store
      refine ⟨world.store.drawn request + later, ?_, ?_⟩
      · rw [journal_call, List.map_cons, List.sum_cons]
        exact Nat.add_le_add draws bounded
      · rw [counted] at numbered
        rw [journal_call, ← List.singleton_append, List.filterMap_append, List.map_append,
          numbersAfter_append]
        exact makes.append numbered
  | clock next inductionHypothesis => exact inductionHypothesis world.timeline.now world
  | check next inductionHypothesis =>
      exact inductionHypothesis (context.check world.timeline) world
  | sleep span next inductionHypothesis =>
      let slept := context.sleep span world.timeline
      exact inductionHypothesis slept.1 { world with timeline := slept.2 }

/-- As long as the counter has room, the artifacts of a run are new and differ from each other. -/
theorem run_makes_new (program : Program CloudService α) (world : World Cloud)
    (room : world.store.lastId.toNat +
      ((program.journal context Cloud.remote world).map Entry.draws).sum < UInt64.size) :
    (∀ artifact ∈ (program.journal context Cloud.remote world).filterMap Entry.made?,
      world.store.lastId < artifact.number) ∧
    ((program.journal context Cloud.remote world).filterMap Entry.made?).Nodup := by
  obtain ⟨drawn, bounded, numbered⟩ := program.run_makes context world
  have roomDrawn : world.store.lastId.toNat + drawn < UInt64.size := by omega
  constructor
  · intro artifact member
    exact ((mem_numbersAfter roomDrawn).mp (numbered.subset (List.mem_map_of_mem member))).1
  · have ascending := (pairwise_numbersAfter roomDrawn).sublist numbered
    apply List.Nodup.of_map Artifact.number
    apply ascending.imp
    intro first second below
    exact UInt64.ne_of_lt below

end Program

end Provisioning
