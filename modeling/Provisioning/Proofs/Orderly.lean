import Provisioning.Proofs.Steps
import Provisioning.Blueprint.ContainerRegistry
import Provisioning.Blueprint.Database
import Provisioning.Blueprint.LocalRouter
import Provisioning.Blueprint.MobileGateway
import Provisioning.Blueprint.Server
import Provisioning.Blueprint.VpcRouter

/-!
Orderly programs. Each call of an orderly program is allowed and belongs to a step whose label fits
the request, whatever the answers before were. All validations are orderly programs that only look,
and all builds and updates are orderly.
-/

namespace Provisioning

/-- A step of several attempts is a sequence of steps. -/
theorem Provision.during_bind {σ : Signature} {α β : Type} (label : String) (attempt : Attempt σ α)
    (continuation : α → Attempt σ β) :
    during label (attempt >>= continuation) =
      during label attempt >>= fun value => during label (continuation value) := by
  have reported : ∀ {γ : Type} (attempt : Attempt σ γ), during label attempt =
      ExceptT.mk (Program.bind attempt.run fun outcome =>
        .done (outcome.mapError (ProvisionError.ofRemote label))) := by
    intro γ attempt
    refine (Program.bind_bind _ _ _).trans (congrArg _ (funext fun outcome => ?_))
    cases outcome <;> rfl
  rw [reported, reported]
  refine (Program.bind_bind _ _ _).trans (Eq.trans ?_ (Program.bind_bind _ _ _).symm)
  refine congrArg _ (funext fun outcome => ?_)
  cases outcome with
  | ok value => exact (reported (continuation value)).symm
  | error error => rfl

namespace Program

variable {α β γ ι μ ρ : Type} {allowed : Request → Prop}

/-- Every call that the program can come to is allowed and belongs to a labelled step. -/
def Orderly (allowed : Request → Prop) : Program CloudService (Except ProvisionError α) → Prop
  | .done _ => True
  | .call request next =>
      allowed request ∧
      (∃ label passes, Step (ExceptT.mk (.call request next) : Build α) label passes ∧
        request.Labelled label) ∧
      ∀ answer, (next answer).Orderly allowed
  | .clock next => ∀ now, (next now).Orderly allowed
  | .check next => ∀ interruption, (next interruption).Orderly allowed
  | .sleep _ next => ∀ interruption, (next interruption).Orderly allowed

namespace Orderly

theorem pure (value : α) : Orderly allowed (Pure.pure value : Build α).run := trivial

theorem throw (error : ProvisionError) :
    Orderly allowed (MonadExcept.throw error : Build α).run := trivial

theorem lift (check : Except ProvisionError α) :
    Orderly allowed (liftM check : Build α).run := by
  cases check <;> exact trivial

/-- Orderly programs are sequenced to an orderly program. -/
theorem bind {program : Build α} {continuation : α → Build β} (first : Orderly allowed program.run)
    (rest : ∀ value, Orderly allowed (continuation value).run) :
    Orderly allowed (program >>= continuation).run := by
  change Orderly allowed (Program.bind program (ExceptT.bindCont continuation))
  change Orderly allowed program at first
  induction program with
  | done outcome =>
      cases outcome with
      | ok value => exact rest value
      | error error => trivial
  | call request next inductionHypothesis =>
      obtain ⟨permitted, ⟨label, passes, step, labelled⟩, goesOn⟩ := first
      exact ⟨permitted, ⟨label, passes, step.bind continuation, labelled⟩,
        fun answer => inductionHypothesis answer (goesOn answer)⟩
  | clock next inductionHypothesis =>
      exact fun now => inductionHypothesis now (first now)
  | check next inductionHypothesis =>
      exact fun interruption => inductionHypothesis interruption (first interruption)
  | sleep span next inductionHypothesis =>
      exact fun interruption => inductionHypothesis interruption (first interruption)

/-- What is allowed may be extended. -/
theorem mono {more : Request → Prop} {program : Program CloudService (Except ProvisionError α)}
    (orderly : Orderly allowed program) (extended : ∀ request, allowed request → more request) :
    Orderly more program := by
  induction program with
  | done outcome => trivial
  | call request next inductionHypothesis =>
      obtain ⟨permitted, step, goesOn⟩ := orderly
      exact ⟨extended request permitted, step,
        fun answer => inductionHypothesis answer (goesOn answer)⟩
  | clock next inductionHypothesis =>
      exact fun now => inductionHypothesis now (orderly now)
  | check next inductionHypothesis =>
      exact fun interruption => inductionHypothesis interruption (orderly interruption)
  | sleep span next inductionHypothesis =>
      exact fun interruption => inductionHypothesis interruption (orderly interruption)

/-- A plain call is a step. -/
theorem call {label : String} {request : Request} (labelled : request.Labelled label)
    (permitted : allowed request) : Orderly allowed (Build.call label request).run := by
  refine ⟨permitted, ⟨label, _, .call label request Pure.pure (bind_pure _).symm, labelled⟩, ?_⟩
  intro answer
  cases answer <;> trivial

/-- A call with a fitting label is a step, and what follows it may be any orderly program. -/
theorem step {label : String} {request : Request} {continuation : request.Answer → Build α}
    (labelled : request.Labelled label) (permitted : allowed request)
    (rest : ∀ value, Orderly allowed (continuation value).run) :
    Orderly allowed (Build.call label request >>= continuation).run :=
  (call labelled permitted).bind rest

theorem forM {items : List ι} {step : ι → Build PUnit}
    (each : ∀ item ∈ items, Orderly allowed (step item).run) :
    Orderly allowed (items.forM step).run := by
  induction items with
  | nil => exact .pure _
  | cons item rest inductionHypothesis =>
      rw [List.forM]
      refine (each item List.mem_cons_self).bind fun _ => ?_
      exact inductionHypothesis fun other member => each other (List.mem_cons_of_mem _ member)

theorem mapM {items : List ι} {step : ι → Build α}
    (each : ∀ item, Orderly allowed (step item).run) :
    Orderly allowed (items.mapM step).run := by
  induction items with
  | nil =>
      rw [List.mapM_nil]
      exact .pure _
  | cons item rest inductionHypothesis =>
      rw [List.mapM_cons]
      exact (each item).bind fun _ => inductionHypothesis.bind fun _ => .pure _

theorem now : Orderly allowed (Provision.now : Build Nat).run := fun _ => trivial

theorem uninterrupted (action : String) (interruption : Option Interruption) :
    Orderly allowed (Provision.uninterrupted action interruption : Build Unit).run := by
  cases interruption <;> trivial

/-- A check of the context calls nothing. -/
theorem check (action : String) : Orderly allowed (Provision.check action : Build Unit).run :=
  fun interruption => (uninterrupted action interruption : Orderly allowed _)

/-- A pause calls nothing. -/
theorem pause (span : Nat) (action : String) :
    Orderly allowed (Provision.pause span action : Build Unit).run :=
  fun interruption => (uninterrupted action interruption : Orderly allowed _)

/-- A wait is orderly when each of its looks is. -/
theorem forStateWith {action : String} {probe : μ → Attempt CloudService (ρ × μ)}
    {accepts : ρ → Bool} {options : WaitOptions} {memory : μ}
    (looks : ∀ memory, Orderly allowed (Provision.during action (probe memory)).run) :
    Orderly allowed (Wait.forStateWith action probe accepts options memory).run := by
  have polls : ∀ deadline rounds memory, Orderly allowed
      (Wait.pollUntil action options.pollInterval deadline probe accepts rounds memory).run := by
    intro deadline rounds
    induction rounds with
    | zero => exact fun _ => .throw _
    | succ rounds inductionHypothesis =>
        intro memory
        rw [Wait.pollUntil]
        refine (Orderly.check action).bind fun _ => (looks memory).bind fun seen => ?_
        dsimp only
        split
        · exact .pure _
        · refine Orderly.now.bind fun now => ?_
          split
          · exact .throw _
          · exact (pause _ _).bind fun _ => inductionHypothesis _
  exact Orderly.now.bind fun start => polls _ _ memory

/-- A wait for a state is orderly: all of its looks belong to one step. -/
theorem forState {action : String} {request : Request} {accepts : request.Answer → Bool}
    {options : WaitOptions} (labelled : request.Labelled action) (permitted : allowed request) :
    Orderly allowed (Wait.forState action (Build.attempt request) accepts options).run := by
  refine forStateWith fun _ => ?_
  rw [Provision.during_bind]
  exact (call labelled permitted).bind fun _ => .pure _

/-- A wait until a resource is ready is orderly: all of its looks belong to one step. -/
theorem untilReady {resource : String} {id : ResourceId} {request : Request}
    [Lifecycle request.Answer] {options : WaitOptions}
    (labelled : request.Labelled (Wait.readyLabel resource id)) (permitted : allowed request) :
    Orderly allowed (Wait.untilReady resource id (Build.attempt request) options).run := by
  refine (forState labelled permitted).bind fun record => ?_
  split
  · exact .throw _
  · exact .pure _

section Power

variable {zone : Zone} {id : ResourceId} {kind : Switchable} {operation : PowerOperation}

/-- A power request that is issued again belongs to the step of the switch. -/
theorem reissue (asks : allowed (kind.operate zone id operation)) :
    Orderly allowed (Provision.during ((kind.handler zone id).action operation)
      ((kind.handler zone id).reissue operation)).run := by
  have step := Step.reissue kind zone id operation Pure.pure (bind_pure _).symm
  have labelled := kind.labelled_operate zone id operation
  rw [PowerHandler.reissue, kind.handler_request] at step ⊢
  refine ⟨asks, ⟨_, _, step, labelled⟩, fun answer => ?_⟩
  cases answer with
  | ok value => trivial
  | error error =>
      change Orderly allowed (Program.bind (Program.bind (if error.isConflict then _ else _) _) _)
      cases error.isConflict <;> trivial

/-- The rounds of the first request belong to the step of the switch. -/
theorem requestRounds (asks : allowed (kind.operate zone id operation)) {policy : RetryPolicy}
    {start : Nat} (rounds : Nat) : Orderly allowed
      ((kind.handler zone id).requestRounds operation policy start rounds).run := by
  induction rounds with
  | zero => exact .throw _
  | succ rounds inductionHypothesis =>
      refine (Orderly.check _).bind fun _ => ?_
      have step := Step.power kind zone id operation policy start rounds Pure.pure
        (bind_pure _).symm
      change Orderly allowed ((kind.handler zone id).round operation policy start rounds)
      have labelled := kind.labelled_operate zone id operation
      rw [PowerHandler.round, kind.handler_request] at step ⊢
      refine ⟨asks, ⟨_, _, step, labelled⟩, fun answer => ?_⟩
      cases answer with
      | ok value => trivial
      | error error =>
          change Orderly allowed (if error.isStillCreating then _ else _)
          cases error.isStillCreating with
          | false => trivial
          | true =>
              refine (Orderly.pause _ _).bind fun _ => Orderly.now.bind fun now => ?_
              split
              · exact .throw _
              · exact inductionHypothesis

/-- The confirmation of a power operation looks and asks again in the step of the switch. -/
theorem confirmation (asks : allowed (kind.operate zone id operation))
    (looks : allowed (kind.look zone id)) (span lastRequest : Nat) :
    Orderly allowed (Provision.during ((kind.handler zone id).action operation)
      ((kind.handler zone id).confirmation operation span lastRequest)).run := by
  have clock : Orderly allowed (Provision.during ((kind.handler zone id).action operation)
      (ExceptT.lift (Program.clock .done))).run := fun _ => trivial
  obtain ⟨status, same⟩ := kind.handler_status zone id
  rw [PowerHandler.confirmation, same]
  simp only [bind_assoc, Provision.during_bind]
  refine (call (kind.labelled_look operation) looks).bind fun record => ?_
  refine (Orderly.pure _).bind fun _ => clock.bind fun now => ?_
  split
  · rw [Provision.during_bind]
    refine (reissue asks).bind fun _ => ?_
    rw [Provision.during_bind]
    exact clock.bind fun _ => .pure _
  · exact .pure _

/-- The confirmation of a power operation is orderly. -/
theorem confirm (kind : Switchable) (asks : allowed (kind.operate zone id operation))
    (looks : allowed (kind.look zone id)) (timing : Timing) :
    Orderly allowed ((kind.handler zone id).confirm operation timing).run :=
  Orderly.now.bind fun _ =>
    (forStateWith fun _ => confirmation asks looks _ _).bind fun _ => .pure _

/-- A power operation is orderly. -/
theorem switch (kind : Switchable) (asks : allowed (kind.operate zone id operation))
    (looks : allowed (kind.look zone id)) (timing : Timing) (noWait : Bool) :
    Orderly allowed ((kind.handler zone id).switch operation timing noWait).run := by
  refine Orderly.bind (Orderly.now.bind fun _ => requestRounds asks _) fun _ => ?_
  cases noWait with
  | true => exact .pure _
  | false => exact confirm kind asks looks timing

end Power

/-- What no allowed call breaks holds after a run of an orderly program, whether the run succeeds or
fails. -/
theorem keeps {Store : Type} {context : Context} {remote : Remote CloudService Store}
    {world : World Store} {program : Build α} (orderly : Orderly allowed program.run)
    (invariant : Store → Prop)
    (called : ∀ request, allowed request → ∀ world : World Store, invariant world.store →
      invariant (remote context request world).2.store)
    (here : invariant world.store) :
    Yields context remote program world (fun _ after => invariant after.store)
      (fun _ after => invariant after.store) := by
  have runs : ∀ (program : Program CloudService (Except ProvisionError α)) (world : World Store),
      Orderly allowed program → invariant world.store →
        invariant (program.run context remote world).2.store := by
    intro program world orderly here
    induction program generalizing world with
    | done outcome => exact here
    | call request next inductionHypothesis =>
        obtain ⟨permitted, -, goesOn⟩ := orderly
        exact inductionHypothesis _ _ (goesOn _) (called request permitted world here)
    | clock next inductionHypothesis => exact inductionHypothesis _ _ (orderly _) here
    | check next inductionHypothesis => exact inductionHypothesis _ _ (orderly _) here
    | sleep span next inductionHypothesis => exact inductionHypothesis _ _ (orderly _) here
  have kept := runs program.run world orderly here
  unfold Yields
  generalize program.run.run context remote world = result at kept
  obtain ⟨outcome, after⟩ := result
  cases outcome <;> exact kept

end Orderly

end Program

open Program

/-- Validations look at disks, at the catalogue, at keys and notes, at cards and at local
routers. -/
def Request.isLook : Request → Bool
  | .disk _ (.read _) => true
  | .catalogue .. => true
  | .credential (.readSshKey _) | .credential (.readNote _) => true
  | .sim (.read _) => true
  | .localRouter (.read _) => true
  | _ => false

def Request.Looks (request : Request) : Prop := request.isLook = true

/-- These requests delete a resource, an artifact or a user. -/
def Request.deletes : Request → Bool
  | .disk _ (.delete _) => true
  | .credential (.deleteSshKey _) | .credential (.deleteNote _) => true
  | .server _ (.delete _) => true
  | .database _ (.delete _) => true
  | .vpcRouter _ (.delete _) => true
  | .mobileGateway _ (.delete _) => true
  | .containerRegistry (.delete _) | .containerRegistry (.deleteUser ..) => true
  | .localRouter (.delete _) => true
  | _ => false

/-- A request preserves what there is when it deletes nothing. -/
structure Request.Preserves (request : Request) : Prop where
  deletes : request.deletes = false

/-- A look deletes nothing. -/
theorem Request.preserves_of_looks (request : Request) (looks : request.Looks) :
    request.Preserves := by
  unfold Looks isLook at looks
  split at looks <;> first | exact ⟨rfl⟩ | nomatch looks

section Validations

variable {zone : Zone}

namespace Lineage

/-- The lookup of a disk is a step, and so is the lookup of an archive. -/
theorem inspect_orderly (node : Node) : Orderly Request.Looks (inspect zone node).run := by
  cases node with
  | disk id =>
      refine ⟨rfl, ⟨_, _, .lookup zone id pure (bind_pure _).symm, Or.inl rfl⟩, fun answer => ?_⟩
      cases answer with
      | ok disk => exact Orderly.lift (judgeDisk disk)
      | error error =>
          change Orderly Request.Looks (if error.isNotFound then _ else _)
          cases error.isNotFound <;> trivial
  | archive id => exact Orderly.step (Or.inl rfl) rfl fun _ => .lift _

/-- A walk along a lineage only looks. -/
theorem walk_orderly (start : ResourceId) (steps : Nat) (visited : List Node) (node : Node) :
    Orderly Request.Looks (walk zone start steps visited node).run := by
  induction steps generalizing visited node with
  | zero => exact .throw _
  | succ steps inductionHypothesis =>
      refine (Orderly.check _).bind fun _ => ?_
      split
      · exact .throw _
      · refine (inspect_orderly node).bind fun verdict => ?_
        cases verdict with
        | editable supported => exact .pure _
        | follow source => exact inductionHypothesis _ _

end Lineage

theorem OperatingSystem.findArchive_orderly (system : OperatingSystem) :
    Orderly Request.Looks (system.findArchive zone).run := by
  rw [findArchive]
  split
  · exact .throw _
  · refine Orderly.step rfl rfl fun archives => ?_
    split
    · exact .pure _
    · exact .throw _

theorem DiskSpec.validate_orderly (spec : DiskSpec) :
    Orderly Request.Looks (spec.validate zone).run := by
  refine (Orderly.lift _).bind fun _ => (Orderly.lift _).bind fun _ => ?_
  exact Orderly.step rfl rfl fun _ => .lift _

theorem UnixEdit.validate_orderly (edit : UnixEdit) :
    Orderly Request.Looks edit.validate.run := by
  refine (Orderly.lift _).bind fun _ => ?_
  refine .bind (.forM fun _ _ => .step rfl rfl fun _ => .pure _) fun _ => ?_
  exact .forM fun _ _ => Orderly.step rfl rfl fun _ => .pure _

/-- The validation of a disk only looks. -/
theorem DiskBlueprint.validate_orderly (blueprint : DiskBlueprint) :
    Orderly Request.Looks (blueprint.validate zone).run := by
  cases blueprint with
  | unix spec system edit =>
      refine spec.validate_orderly.bind fun _ => (Orderly.lift _).bind fun _ => ?_
      exact system.findArchive_orderly.bind fun _ => edit.validate_orderly
  | windows spec system edit =>
      refine spec.validate_orderly.bind fun _ => (Orderly.lift _).bind fun _ => ?_
      exact system.findArchive_orderly.bind fun _ => .pure _
  | fixedArchive spec system =>
      exact spec.validate_orderly.bind fun _ => system.findArchive_orderly.bind fun _ => .pure _
  | copied spec sourceDiskId sourceArchiveId edit =>
      refine spec.validate_orderly.bind fun _ => (Orderly.lift _).bind fun source => ?_
      have reads : Orderly Request.Looks (readSource zone source).run := by
        cases source with
        | disk id => exact Orderly.step (Or.inr (Or.inl rfl)) rfl fun _ => .pure _
        | archive id => exact Orderly.step (Or.inr rfl) rfl fun _ => .pure _
      refine reads.bind fun _ => ?_
      cases edit with
      | none => exact .pure _
      | some edit =>
          refine (Lineage.walk_orderly _ _ _ _).bind fun supported => ?_
          exact (Orderly.lift _).bind fun _ => edit.validate_orderly
  | blank spec => exact spec.validate_orderly
  | connected spec diskId =>
      refine (Orderly.lift _).bind fun _ => ?_
      exact Orderly.step (Or.inl rfl) rfl fun _ => .pure _

namespace ServerBlueprint

theorem resolvePlan_orderly (blueprint : ServerBlueprint) :
    Orderly Request.Looks (blueprint.resolvePlan zone).run :=
  Orderly.step rfl rfl fun _ => .lift _

/-- A packet filter is looked up when there is one. -/
theorem readPacketFilter_orderly (nic : NicSpec) :
    Orderly Request.Looks (do
      if let some id := nic.packetFilterId.set? then
        let _ ← Build.call "read packet filter" (.catalogue zone (.readPacketFilter id))).run := by
  split
  · exact Orderly.step rfl rfl fun _ => .pure _
  · exact .pure _

theorem validateNic_orderly (nic : NicSpec) :
    Orderly Request.Looks (validateNic zone nic).run := by
  rw [validateNic]
  split
  · exact Orderly.step rfl rfl fun _ => readPacketFilter_orderly nic
  · exact (Orderly.lift _).bind fun _ => readPacketFilter_orderly nic

theorem readCdrom_orderly (cdromId : ResourceId) :
    Orderly Request.Looks (readCdrom zone cdromId).run := by
  rw [readCdrom]
  split
  · exact Orderly.step rfl rfl fun _ => .pure _
  · exact .pure _

/-- The check of a server only looks. -/
theorem check_orderly (blueprint : ServerBlueprint) :
    Orderly Request.Looks (blueprint.check zone).run := by
  refine (Orderly.lift _).bind fun _ => (Orderly.lift _).bind fun _ => ?_
  refine blueprint.resolvePlan_orderly.bind fun planId => ?_
  refine (Orderly.forM fun nic _ => validateNic_orderly nic).bind fun _ => ?_
  refine (readCdrom_orderly _).bind fun _ => ?_
  exact (Orderly.forM fun disk _ => disk.validate_orderly).bind fun _ => .pure _

end ServerBlueprint

theorem DatabaseBlueprint.validate_orderly (blueprint : DatabaseBlueprint) :
    Orderly Request.Looks (blueprint.validate zone).run :=
  (Orderly.lift _).bind fun _ => Orderly.step rfl rfl fun _ => .pure _

theorem VpcRouterBlueprint.validate_orderly (blueprint : VpcRouterBlueprint) :
    Orderly Request.Looks (blueprint.validate zone).run :=
  (Orderly.lift _).bind fun _ => .forM fun _ _ => Orderly.step rfl rfl fun _ => .pure _

theorem MobileGatewayBlueprint.validate_orderly (blueprint : MobileGatewayBlueprint) :
    Orderly Request.Looks (blueprint.validate zone).run := by
  have cards : Orderly Request.Looks (blueprint.sims.forM fun sim => do
      let _ ← Build.call "read SIM" (.sim (.read sim.simId))).run :=
    .forM fun _ _ => Orderly.step rfl rfl fun _ => .pure _
  rw [validate]
  refine (Orderly.lift _).bind fun _ => ?_
  split
  · exact Orderly.step rfl rfl fun _ => cards
  · exact cards

theorem LocalRouterBlueprint.validate_orderly (blueprint : LocalRouterBlueprint) :
    Orderly Request.Looks blueprint.validate.run := by
  refine (Orderly.lift _).bind fun _ => .forM fun peer _ => ?_
  exact Orderly.step (Or.inl rfl) rfl fun _ => .lift _

end Validations

end Provisioning
