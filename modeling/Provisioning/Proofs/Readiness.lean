import Provisioning.Proofs.Journal
import Provisioning.Proofs.Orderly
import Provisioning.Proofs.SettingsHash

/-!
Readiness in journals. A build that creates a resource waits until a read shows it ready, and what
follows is addressed to this resource and sends the hash that was read. The rules tell what a wait
and what an orderly program write into a journal.
-/

namespace Provisioning

/-- A build waits for resources of these kinds. -/
inductive Awaited where
  | disk
  | database
  | vpcRouter
  | mobileGateway
  | containerRegistry
  | localRouter
  deriving DecidableEq, Repr

/-- A subject is a resource, named by its kind and its identifier. -/
structure Subject where
  kind : Awaited
  id : ResourceId
  deriving DecidableEq, Repr

namespace Request

/-- A request is addressed to the resource that it names. -/
def subject? : Request → Option Subject
  | .disk _ call =>
      match call with
      | .create .. | .createWithConfig .. => none
      | .read id | .update id _ | .delete id | .connectToServer id _ | .config id _ =>
          some ⟨.disk, id⟩
  | .database _ call =>
      match call with
      | .create _ => none
      | .read id | .update id _ | .delete id | .boot id | .shutdown id _ | .config id
      | .setParameters id _ | .status id => some ⟨.database, id⟩
  | .vpcRouter _ call =>
      match call with
      | .create _ => none
      | .read id | .update id _ | .delete id | .boot id | .shutdown id _ | .connectToSwitch id _ _
      | .config id => some ⟨.vpcRouter, id⟩
  | .mobileGateway _ call =>
      match call with
      | .create _ => none
      | .read id | .update id _ | .delete id | .boot id | .shutdown id _ | .connectToSwitch id _
      | .config id | .setDns id _ | .addSim id _ | .setTrafficConfig id _ =>
          some ⟨.mobileGateway, id⟩
  | .containerRegistry call =>
      match call with
      | .create _ => none
      | .read id | .update id _ | .delete id | .addUser id _ | .deleteUser id _ =>
          some ⟨.containerRegistry, id⟩
  | .localRouter call =>
      match call with
      | .create _ => none
      | .read id | .updateSettings id _ _ | .delete id => some ⟨.localRouter, id⟩
  | .catalogue .. | .credential _ | .server .. | .sim _ => none

/-- This is the resource that a read asks for. -/
def reads? : Request → Option Subject
  | .disk _ (.read id) => some ⟨.disk, id⟩
  | .database _ (.read id) => some ⟨.database, id⟩
  | .vpcRouter _ (.read id) => some ⟨.vpcRouter, id⟩
  | .mobileGateway _ (.read id) => some ⟨.mobileGateway, id⟩
  | .containerRegistry (.read id) => some ⟨.containerRegistry, id⟩
  | .localRouter (.read id) => some ⟨.localRouter, id⟩
  | _ => none

/-- This is the kind of resource that a request creates. -/
def creates? : Request → Option Awaited
  | .disk _ (.create ..) | .disk _ (.createWithConfig ..) => some .disk
  | .database _ (.create _) => some .database
  | .vpcRouter _ (.create _) => some .vpcRouter
  | .mobileGateway _ (.create _) => some .mobileGateway
  | .containerRegistry (.create _) => some .containerRegistry
  | .localRouter (.create _) => some .localRouter
  | _ => none

/-- This request sets the parameters of a database. -/
def setsParameters : Request → Bool
  | .database _ (.setParameters ..) => true
  | _ => false

/-- A look creates nothing. -/
theorem creates?_of_looks {request : Request} (looks : request.Looks) :
    request.creates? = none := by
  cases request with
  | disk zone call => cases call <;> first | rfl | nomatch looks
  | database zone call => cases call <;> first | rfl | nomatch looks
  | vpcRouter zone call => cases call <;> first | rfl | nomatch looks
  | mobileGateway zone call => cases call <;> first | rfl | nomatch looks
  | containerRegistry call => cases call <;> first | rfl | nomatch looks
  | localRouter call => cases call <;> first | rfl | nomatch looks
  | catalogue | credential | server | sim => rfl

/-- A read of a resource creates nothing. -/
theorem creates?_of_reads? {request : Request} {subject : Subject}
    (reads : request.reads? = some subject) : request.creates? = none := by
  unfold reads? at reads
  split at reads <;> first | rfl | nomatch reads

end Request

/-- A record of a kind that is awaited has an identifier, and some kinds guard their settings. -/
class Awaitable (ρ : Type) extends Lifecycle ρ where
  kind : Awaited
  id : ρ → ResourceId
  settingsHash : ρ → Option String := fun _ => none

instance : Awaitable Disk where
  kind := .disk
  id := Disk.id

instance : Awaitable Database where
  kind := .database
  id := Database.id
  settingsHash database := some database.settingsHash

instance : Awaitable VpcRouter where
  kind := .vpcRouter
  id := VpcRouter.id
  settingsHash router := some router.settingsHash

instance : Awaitable MobileGateway where
  kind := .mobileGateway
  id := MobileGateway.id
  settingsHash gateway := some gateway.settingsHash

instance : Awaitable ContainerRegistry where
  kind := .containerRegistry
  id := ContainerRegistry.id

instance : Awaitable LocalRouter where
  kind := .localRouter
  id := LocalRouter.id
  settingsHash router := some router.settingsHash

/-- A sighting is what a read shows of the resource that it asks for. -/
structure Sighting where
  subject : Subject
  id : ResourceId
  availability : Availability
  runStatus : Option RunStatus
  settingsHash : Option String
  deriving DecidableEq, Repr

def Sighting.of {ρ : Type} [Awaitable ρ] (asked : ResourceId) (record : ρ) : Sighting where
  subject := ⟨Awaitable.kind ρ, asked⟩
  id := Awaitable.id record
  availability := Lifecycle.availability record
  runStatus := Lifecycle.runStatus record
  settingsHash := Awaitable.settingsHash record

/-- The remote has finished a resource that is ready, and it has not failed to do so. -/
def Sighting.Ready (seen : Sighting) : Prop :=
  seen.availability.isTransitional = false ∧ seen.availability ≠ .failed

namespace Entry

/-- A read that succeeds shows a record. -/
def sighting? : Entry CloudService → Option Sighting
  | ⟨.disk _ (.read id), .ok record, _, _⟩ => some (.of id record)
  | ⟨.database _ (.read id), .ok record, _, _⟩ => some (.of id record)
  | ⟨.vpcRouter _ (.read id), .ok record, _, _⟩ => some (.of id record)
  | ⟨.mobileGateway _ (.read id), .ok record, _, _⟩ => some (.of id record)
  | ⟨.containerRegistry (.read id), .ok record, _, _⟩ => some (.of id record)
  | ⟨.localRouter (.read id), .ok record, _, _⟩ => some (.of id record)
  | _ => none

/-- A creation that succeeds tells the resource that it has created. -/
def created? : Entry CloudService → Option Subject
  | ⟨.disk _ (.create ..), .ok record, _, _⟩ => some ⟨.disk, record.id⟩
  | ⟨.disk _ (.createWithConfig ..), .ok record, _, _⟩ => some ⟨.disk, record.id⟩
  | ⟨.database _ (.create _), .ok record, _, _⟩ => some ⟨.database, record.id⟩
  | ⟨.vpcRouter _ (.create _), .ok record, _, _⟩ => some ⟨.vpcRouter, record.id⟩
  | ⟨.mobileGateway _ (.create _), .ok record, _, _⟩ => some ⟨.mobileGateway, record.id⟩
  | ⟨.containerRegistry (.create _), .ok record, _, _⟩ => some ⟨.containerRegistry, record.id⟩
  | ⟨.localRouter (.create _), .ok record, _, _⟩ => some ⟨.localRouter, record.id⟩
  | _ => none

/-- A call that tells a new resource is a creation. -/
theorem creates?_of_created? {entry : Entry CloudService} {subject : Subject}
    (created : entry.created? = some subject) : entry.request.creates? ≠ none := by
  unfold created? at created
  split at created <;> first | exact Option.some_ne_none _ | nomatch created

/-- A read that fails shows nothing. -/
theorem sighting?_of_error {entry : Entry CloudService} {error : RemoteError}
    (failed : entry.answer = .error error) : entry.sighting? = none := by
  unfold sighting?
  split <;> first | rfl | nomatch failed

/-- A creation that fails creates nothing. -/
theorem created?_of_error {entry : Entry CloudService} {error : RemoteError}
    (failed : entry.answer = .error error) : entry.created? = none := by
  unfold created?
  split <;> first | rfl | nomatch failed

/-- What a read shows is what it asks for. -/
theorem reads?_of_sighting? {entry : Entry CloudService} {seen : Sighting}
    (shows : entry.sighting? = some seen) : entry.request.reads? = some seen.subject := by
  unfold sighting? at shows
  split at shows <;> first | (cases shows; rfl) | nomatch shows

/-- A look at a resource is a read of it that does not show it ready. -/
structure Looks (subject : Subject) (entry : Entry CloudService) : Prop where
  reads : entry.request.reads? = some subject
  unready : ∀ seen, entry.sighting? = some seen → ¬ seen.Ready

end Entry

/-- A list is divided in one way only by its only item with a property. -/
theorem division_unique {ι : Type} (property : ι → Prop) {before after history later : List ι}
    {mark item : ι} (divided : before ++ mark :: after = history ++ item :: later)
    (holds : property item) (unmarked : ∀ other ∈ before, ¬ property other)
    (lacking : ∀ other ∈ after, ¬ property other) :
    history = before ∧ item = mark ∧ later = after := by
  induction before generalizing history with
  | nil =>
      cases history with
      | nil =>
          obtain ⟨rfl, rfl⟩ := List.cons.inj divided
          exact ⟨rfl, rfl, rfl⟩
      | cons head rest =>
          obtain ⟨-, rfl⟩ := List.cons.inj divided
          exact absurd holds (lacking item (List.mem_append_right _ List.mem_cons_self))
  | cons first others inductionHypothesis =>
      cases history with
      | nil =>
          obtain ⟨rfl, -⟩ := List.cons.inj divided
          exact absurd holds (unmarked _ List.mem_cons_self)
      | cons head rest =>
          obtain ⟨rfl, remaining⟩ := List.cons.inj divided
          obtain ⟨rfl, same, last⟩ := inductionHypothesis remaining
            fun other member => unmarked other (List.mem_cons_of_mem _ member)
          exact ⟨rfl, same, last⟩

/-- A journal is honest when each read shows a record with the identifier that it asks for. -/
def Honest (journal : List (Entry CloudService)) : Prop :=
  ∀ seen ∈ journal.filterMap Entry.sighting?, seen.id = seen.subject.id

instance (journal : List (Entry CloudService)) : Decidable (Honest journal) :=
  inferInstanceAs (Decidable (∀ seen ∈ journal.filterMap Entry.sighting?, _))

/-- The later part of an honest journal is honest. -/
theorem Honest.of_append {before after : List (Entry CloudService)}
    (honest : Honest (before ++ after)) : Honest after := by
  intro seen member
  apply honest seen
  rw [List.filterMap_append]
  exact List.mem_append_right _ member

/-- These calls may follow when a resource has been seen ready. They are addressed to the resource
and create no other. An update sends the hash that was seen, and nothing was read in between.
Parameters are set after a read that shows the resource up. -/
structure FollowUps (subject : Subject) (seen : Sighting) (calls : List (Entry CloudService)) :
    Prop where
  addressed : ∀ call ∈ calls, ∀ other, call.request.subject? = some other → other = subject
  creates : ∀ call ∈ calls, call.request.creates? = none
  updates : ∀ history call later kind id sent, calls = history ++ call :: later →
    call.request.update? = some (kind, id, sent) → seen.settingsHash = some sent ∧
      ∀ earlier ∈ history, earlier.request.reads? = none
  parameters : ∀ history call later, calls = history ++ call :: later →
    call.request.setsParameters → ∃ look ∈ history, ∃ shown, look.sighting? = some shown ∧
      shown.subject = subject ∧ shown.runStatus = some .up

/-- After its creation a resource is looked at until a read shows it ready, and only then other
calls follow. -/
inductive Gated (subject : Subject) (after : List (Entry CloudService)) : Prop where
  | waiting (looks : ∀ entry ∈ after, entry.Looks subject)
  | ready (looks followUps : List (Entry CloudService)) (read : Entry CloudService)
      (seen : Sighting) (divided : after = looks ++ read :: followUps)
      (waits : ∀ entry ∈ looks, entry.Looks subject) (shows : read.sighting? = some seen)
      (same : seen.subject = subject) (ready : seen.Ready)
      (follows : FollowUps subject seen followUps)

/-- A call is plain when it is addressed to the resource, if to any, and neither creates, updates,
nor sets parameters. -/
structure Request.Plain (subject : Subject) (request : Request) : Prop where
  addressed : ∀ other, request.subject? = some other → other = subject
  creates : request.creates? = none
  updates : request.update? = none
  parameters : request.setsParameters = false

/-- An update sends a hash to the resource. -/
structure Request.Updates (subject : Subject) (sent : String) (request : Request) : Prop where
  addressed : request.subject? = some subject
  creates : request.creates? = none
  updates : ∃ kind id, request.update? = some (kind, id, sent)
  parameters : request.setsParameters = false

/-- A call to a resource is plain when it neither creates, updates, nor sets parameters. -/
theorem Request.Plain.of_subject {subject : Subject} {request : Request}
    (addressed : request.subject? = some subject) (creates : request.creates? = none)
    (updates : request.update? = none) (parameters : request.setsParameters = false) :
    request.Plain subject :=
  ⟨fun _ same => Option.some.inj (same.symm.trans addressed), creates, updates, parameters⟩

/-- A call to no resource is plain when it neither creates, updates, nor sets parameters. -/
theorem Request.Plain.of_none {subject : Subject} {request : Request}
    (addressed : request.subject? = none) (creates : request.creates? = none)
    (updates : request.update? = none) (parameters : request.setsParameters = false) :
    request.Plain subject :=
  ⟨fun _ same => (nomatch addressed.symm.trans same), creates, updates, parameters⟩

/-- A read of the resource is plain. -/
theorem Request.Plain.of_reads? {subject : Subject} {request : Request}
    (reads : request.reads? = some subject) : request.Plain subject := by
  unfold Request.reads? at reads
  split at reads <;> first | (cases reads; exact .of_subject rfl rfl rfl rfl) | nomatch reads

namespace FollowUps

variable {subject : Subject} {seen : Sighting} {calls later : List (Entry CloudService)}
  {call : Entry CloudService}

/-- Plain calls may follow at any time. -/
theorem of_plain (plain : ∀ call ∈ calls, call.request.Plain subject) :
    FollowUps subject seen calls where
  addressed call member := (plain call member).addressed
  creates call member := (plain call member).creates
  updates history call later kind id sent divided updates := by
    have member : call ∈ calls := divided ▸ List.mem_append_right _ List.mem_cons_self
    nomatch (plain call member).updates.symm.trans updates
  parameters history call later divided sets := by
    have member : call ∈ calls := divided ▸ List.mem_append_right _ List.mem_cons_self
    nomatch (plain call member).parameters.symm.trans sets

/-- An update follows when it sends the hash that was seen and nothing was read before it. -/
theorem of_update {sent : String}
    (plain : ∀ earlier ∈ calls, earlier.request.Plain subject ∧ earlier.request.reads? = none)
    (updates : call.request.Updates subject sent) (sees : seen.settingsHash = some sent)
    (concludes : ∀ last ∈ later, last.request.Plain subject) :
    FollowUps subject seen (calls ++ call :: later) := by
  have others : ∀ other ∈ calls ++ call :: later, other = call ∨ other.request.Plain subject := by
    intro other member
    rcases List.mem_append.mp member with earlier | ⟨⟩ | ⟨_, last⟩
    · exact .inr (plain other earlier).1
    · exact .inl rfl
    · exact .inr (concludes other last)
  refine ⟨?_, ?_, ?_, ?_⟩
  · intro other member named
    rcases others other member with rfl | plain
    · exact fun same => Option.some.inj (same.symm.trans updates.addressed)
    · exact plain.addressed named
  · intro other member
    rcases others other member with rfl | plain
    · exact updates.creates
    · exact plain.creates
  · intro history other rest otherKind otherId otherSent divided sends
    obtain ⟨rfl, rfl, -⟩ := division_unique
      (fun entry : Entry CloudService => entry.request.update? ≠ none) divided
      (fun none => nomatch none.symm.trans sends) (fun earlier member hashed =>
        hashed (plain earlier member).1.updates) fun last member hashed =>
        hashed (concludes last member).updates
    obtain ⟨kind, id, same⟩ := updates.updates
    cases same.symm.trans sends
    exact ⟨sees, fun earlier member => (plain earlier member).2⟩
  · intro history other rest divided sets
    have member : other ∈ calls ++ call :: later :=
      divided ▸ List.mem_append_right _ List.mem_cons_self
    rcases others other member with rfl | plain
    · nomatch updates.parameters.symm.trans sets
    · nomatch plain.parameters.symm.trans sets

/-- Parameters follow a read that shows the resource up. -/
theorem of_parameters {look : Entry CloudService} {shown : Sighting}
    (plain : ∀ earlier ∈ calls, earlier.request.Plain subject) (member : look ∈ calls)
    (shows : look.sighting? = some shown) (same : shown.subject = subject)
    (up : shown.runStatus = some .up) (addressed : call.request.subject? = some subject)
    (creates : call.request.creates? = none) (updates : call.request.update? = none) :
    FollowUps subject seen (calls ++ [call]) := by
  have others : ∀ other ∈ calls ++ [call], other = call ∨ other.request.Plain subject := by
    intro other member
    rcases List.mem_append.mp member with earlier | last
    · exact .inr (plain other earlier)
    · exact .inl (List.mem_singleton.mp last)
  refine ⟨?_, ?_, ?_, ?_⟩
  · intro other member named
    rcases others other member with rfl | plain
    · exact fun same => Option.some.inj (same.symm.trans addressed)
    · exact plain.addressed named
  · intro other member
    rcases others other member with rfl | plain
    · exact creates
    · exact plain.creates
  · intro history other rest otherKind otherId otherSent divided sends
    have member : other ∈ calls ++ [call] :=
      divided ▸ List.mem_append_right _ List.mem_cons_self
    rcases others other member with rfl | plain
    · nomatch updates.symm.trans sends
    · nomatch plain.updates.symm.trans sends
  · intro history other rest divided sets
    rcases Entry.division_of_append divided with ⟨rfl, -, -⟩ | ⟨earlier, -, rfl⟩
    · exact ⟨look, member, shown, shows, same, up⟩
    · have harmless := plain other (List.mem_append_right _ List.mem_cons_self)
      nomatch harmless.parameters.symm.trans sets

end FollowUps

open Program

section Rules

variable {Store α : Type} {context : Context} {remote : Remote CloudService Store}
  {world : World (Observed CloudService Store)}

/-- The journal has grown by entries with a property. -/
def Wrote (property : List (Entry CloudService) → Prop)
    (before after : World (Observed CloudService Store)) : Prop :=
  ∃ made, after.store.journal = before.store.journal ++ made ∧ property made

/-- An orderly program writes down allowed requests only. -/
theorem Program.Orderly.wrote {allowed : Request → Prop} {program : Build α}
    (orderly : Orderly allowed program.run) :
    Yields context remote.observed program world
      (fun _ => Wrote (fun made => ∀ entry ∈ made, allowed entry.request) world)
      (fun _ => Wrote (fun made => ∀ entry ∈ made, allowed entry.request) world) := by
  let grows (store : Observed CloudService Store) : Prop :=
    ∃ made, store.journal = world.store.journal ++ made ∧ ∀ entry ∈ made, allowed entry.request
  apply orderly.keeps grows
  · rintro request permitted now ⟨made, grown, others⟩
    let answered := remote.observed context request now
    let entry : Entry CloudService :=
      ⟨request, answered.1, now.timeline, answered.2.timeline⟩
    refine ⟨made ++ [entry], ?_, ?_⟩
    · exact (congrArg (· ++ [entry]) grown).trans (List.append_assoc _ _ _)
    · exact List.forall_mem_append.mpr ⟨others, List.forall_mem_singleton.mpr permitted⟩
  · exact ⟨[], (List.append_nil _).symm, List.forall_mem_nil _⟩

/-- Every program only adds to the journal. -/
theorem yields_wrote (program : Build α) :
    Yields context remote.observed program world (fun _ => Wrote (fun _ => True) world)
      (fun _ => Wrote (fun _ => True) world) := by
  have writes : ∀ (program : Program CloudService (Except ProvisionError α)) world,
      Wrote (fun _ => True) world (program.run context remote.observed world).2 := by
    intro program world
    induction program generalizing world with
    | done outcome => exact ⟨[], (List.append_nil _).symm, trivial⟩
    | call request next inductionHypothesis =>
        let answered := remote.observed context request world
        obtain ⟨made, grown, -⟩ := inductionHypothesis answered.1 answered.2
        exact ⟨_ :: made, grown.trans (List.append_assoc _ _ _), trivial⟩
    | clock next inductionHypothesis => exact inductionHypothesis world.timeline.now world
    | check next inductionHypothesis =>
        exact inductionHypothesis (context.check world.timeline) world
    | sleep span next inductionHypothesis =>
        let slept := context.sleep span world.timeline
        exact inductionHypothesis slept.1 { world with timeline := slept.2 }
  have written := writes program.run world
  unfold Yields
  generalize program.run.run context remote.observed world = result at written
  obtain ⟨outcome, after⟩ := result
  cases outcome <;> exact written

/-- A plain call is written down, whether it succeeds or fails. -/
theorem Program.Yields.called {label : String} {request : Request}
    {succeeds : request.Answer → World (Observed CloudService Store) → Prop}
    {fails : ProvisionError → World (Observed CloudService Store) → Prop}
    (onSuccess : ∀ value after, after.store.journal = world.store.journal ++
      [⟨request, .ok value, world.timeline, after.timeline⟩] → succeeds value after)
    (onFailure : ∀ error after, after.store.journal = world.store.journal ++
      [⟨request, .error error, world.timeline, after.timeline⟩] →
        fails (.ofRemote label error) after) :
    Yields context remote.observed (Build.call label request) world succeeds fails := by
  rw [Build.call, yields_during]
  exact .answered onSuccess onFailure

/-- A look was rejected when it failed or when it showed a state that is not accepted. -/
def Rejected (request : Request) (accepts : request.Answer → Bool)
    (entry : Entry CloudService) : Prop :=
  ∃ answer started completed, entry = ⟨request, answer, started, completed⟩ ∧
    ∀ record, answer = .ok record → accepts record = false

/-- A wait has found nothing so far when all its looks were rejected. -/
def Fruitless (request : Request) (accepts : request.Answer → Bool)
    (looks : List (Entry CloudService)) : Prop :=
  ∀ look ∈ looks, Rejected request accepts look

/-- A wait has found a record when its last look is the first one that was accepted. -/
def Fruitful (request : Request) (accepts : request.Answer → Bool) (record : request.Answer)
    (made : List (Entry CloudService)) : Prop :=
  accepts record = true ∧ ∃ looks started completed,
    made = looks ++ [⟨request, .ok record, started, completed⟩] ∧ Fruitless request accepts looks

/-- A wait writes down its looks, and the last one shows a state that is accepted. -/
theorem Wait.forState_wrote {action : String} {request : Request}
    {accepts : request.Answer → Bool} {options : WaitOptions} :
    Yields context remote.observed
      (forState action (Build.attempt request) accepts options) world
      (fun record => Wrote (Fruitful request accepts record) world)
      (fun _ => Wrote (Fruitless request accepts) world) := by
  have looking : ∀ (_ : Unit) (now : World (Observed CloudService Store)),
      Wrote (Fruitless request accepts) world now →
      Yields context remote.observed (do return (← Build.attempt request, ())) now
        (fun seen after =>
          if accepts seen.1 then Wrote (Fruitful request accepts seen.1) world after
          else Wrote (Fruitless request accepts) world after)
        (fun _ after => Wrote (Fruitless request accepts) world after) := by
    rintro - now ⟨looks, grown, rejected⟩
    have rejects : ∀ answer after, after.store.journal = now.store.journal ++
        [⟨request, answer, now.timeline, after.timeline⟩] →
        (∀ record, answer = .ok record → accepts record = false) →
        Wrote (Fruitless request accepts) world after := by
      intro answer after written other
      refine ⟨_, written.trans (grown ▸ List.append_assoc _ _ _), ?_⟩
      intro look member
      rcases List.mem_append.mp member with earlier | last
      · exact rejected look earlier
      · exact ⟨answer, _, _, List.mem_singleton.mp last, other⟩
    rw [yields_bind]
    apply Yields.answered
    · intro record after written
      rw [yields_pure]
      split
      next accepted =>
        exact ⟨_, written.trans (grown ▸ List.append_assoc _ _ _), accepted, looks, _, _, rfl,
          rejected⟩
      next missed =>
        refine rejects _ after written ?_
        rintro _ ⟨⟩
        exact Bool.eq_false_iff.mpr missed
    · exact fun error after written => rejects _ after written nofun
  exact forStateWith_keeps (fun _ now => Wrote (Fruitless request accepts) world now)
    (fun record now => Wrote (Fruitful request accepts record) world now)
    looking (fun _ _ _ written => written) (fun _ _ written => written)
    ⟨[], (List.append_nil _).symm, List.forall_mem_nil _⟩

/-- The wait for a resource writes down looks until a read shows it ready. -/
theorem Wait.untilReady_wrote {resource : String} {id : ResourceId} {request : Request}
    [Awaitable request.Answer] {options : WaitOptions} {subject : Subject}
    (reads : request.reads? = some subject)
    (shows : ∀ record started completed,
      Entry.sighting? ⟨request, .ok record, started, completed⟩ = some (.of id record)) :
    Yields context remote.observed
      (untilReady resource id (Build.attempt request) options) world
      (fun record => Wrote (fun made => ∃ looks read, made = looks ++ [read] ∧
        (∀ look ∈ looks, look.Looks subject) ∧ read.sighting? = some (.of id record) ∧
          (Sighting.of id record).Ready) world)
      (fun _ => Wrote (fun looks => ∀ look ∈ looks, look.Looks subject) world) := by
  have looks : ∀ looks, Fruitless request
      (fun record => !(Lifecycle.availability record).isTransitional) looks →
      ∀ look ∈ looks, look.Looks subject := by
    intro looks fruitless look member
    obtain ⟨answer, started, completed, rfl, rejected⟩ := fruitless look member
    refine ⟨reads, fun seen shown ready => ?_⟩
    cases answer with
    | error error => nomatch (Entry.sighting?_of_error rfl).symm.trans shown
    | ok record =>
        cases (shows record started completed).symm.trans shown
        have finished := rejected record rfl
        rw [Bool.not_eq_false'] at finished
        nomatch finished.symm.trans ready.1
  rw [untilReady, yields_bind]
  apply forState_wrote.mono
  · rintro record after ⟨_, grown, accepted, polls, started, completed, rfl, fruitless⟩
    have finished : (Lifecycle.availability record).isTransitional = false := by
      rw [← Bool.not_eq_true']
      exact accepted
    dsimp only
    rw [yields_ite]
    split
    -- The wait accepts a failed resource, but the read of one does not show it ready.
    next failed =>
      refine ⟨_, grown, fun look member => ?_⟩
      rcases List.mem_append.mp member with earlier | last
      · exact looks polls fruitless look earlier
      · rw [List.mem_singleton.mp last]
        refine ⟨reads, fun seen shown ready => ?_⟩
        cases (shows record started completed).symm.trans shown
        exact ready.2 failed
    next ready =>
      exact ⟨_, grown, polls, _, rfl, looks polls fruitless, shows record started completed,
        finished, ready⟩
  · rintro error after ⟨polls, grown, fruitless⟩
    exact ⟨polls, grown, looks polls fruitless⟩

end Rules

end Provisioning
