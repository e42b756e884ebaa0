import Provisioning.Proofs.GlobalBuild
import Provisioning.Proofs.OrderlyPlans

/-!
How updates reconcile the users of a registry with a list. Failures may be announced before every
single call, so an update may stop anywhere and be tried again. No call of an update changes which
users the registry will have once it is reconciled. The main statement tells the users after every
update that succeeds, whatever was tried before, and which users are never locked out.
-/

namespace Provisioning

/-- Users that are stored and listed keep their order, and the new ones follow in listed order. -/
def reconciled (listed stored : List String) : List String :=
  stored.filter (· ∈ listed) ++ listed.filter (· ∉ stored)

section Reconciled

variable {listed stored names added rest : List String} {name : String}

/-- Once some missing users are added, the others are missing. -/
theorem missing_append (distinct : listed.Nodup)
    (missing : listed.filter (· ∉ names) = added ++ rest) :
    listed.filter (· ∉ names ++ added) = rest := by
  have both : listed.filter (· ∉ names ++ added) =
      (listed.filter (· ∉ names)).filter (· ∉ added) := by
    rw [List.filter_filter]
    apply List.filter_congr
    intro name _
    simp [Bool.and_comm]
  have apart : (added ++ rest).Nodup := missing ▸ distinct.filter _
  have gone : added.filter (· ∉ added) = [] := by
    apply List.filter_eq_nil_iff.mpr
    intro name member
    simp [member]
  have left : rest.filter (· ∉ added) = rest := by
    apply List.filter_eq_self.mpr
    intro name member
    have new : name ∉ added := by
      intro old
      exact (List.nodup_append.mp apart).2.2 name old name member rfl
    exact decide_eq_true new
  rw [both, missing, List.filter_append, gone, left, List.nil_append]

/-- The first missing users are added where they will stay. -/
theorem reconciled_append (distinct : listed.Nodup)
    (missing : listed.filter (· ∉ names) = added ++ rest) :
    reconciled listed (names ++ added) = reconciled listed names := by
  have wanted : added.filter (· ∈ listed) = added := by
    apply List.filter_eq_self.mpr
    intro name member
    have new : name ∈ listed.filter (· ∉ names) := missing ▸ List.mem_append_left rest member
    exact decide_eq_true (List.mem_filter.mp new).1
  rw [reconciled, reconciled, missing_append distinct missing, missing, List.filter_append, wanted,
    List.append_assoc]

/-- A user that is not listed may go before or after the others. -/
theorem reconciled_erase (unlisted : name ∉ listed) :
    reconciled listed (names.filter (· != name)) = reconciled listed names := by
  have kept : (names.filter (· != name)).filter (· ∈ listed) = names.filter (· ∈ listed) := by
    rw [List.filter_filter]
    apply List.filter_congr
    intro other _
    by_cases wanted : other ∈ listed
    · have different : other ≠ name := by
        rintro rfl
        exact unlisted wanted
      simp [wanted, different]
    · simp [wanted]
  have missing : listed.filter (· ∉ names.filter (· != name)) = listed.filter (· ∉ names) := by
    apply List.filter_congr
    intro other wanted
    have different : other ≠ name := by
      rintro rfl
      exact unlisted wanted
    simp [different]
  rw [reconciled, reconciled, kept, missing]

/-- What is left after the missing users were added and the others were deleted is reconciled. -/
theorem filter_append_missing (listed stored : List String) :
    (stored ++ listed.filter (· ∉ stored)).filter (· ∉ stored.filter (· ∉ listed)) =
      reconciled listed stored := by
  have kept : stored.filter (· ∉ stored.filter (· ∉ listed)) = stored.filter (· ∈ listed) := by
    apply List.filter_congr
    intro name member
    simp [member]
  have added : (listed.filter (· ∉ stored)).filter (· ∉ stored.filter (· ∉ listed)) =
      listed.filter (· ∉ stored) := by
    apply List.filter_eq_self.mpr
    intro name member
    simp [(List.mem_filter.mp member).1]
  rw [List.filter_append, kept, added, reconciled]

/-- Reconciled users need no further change. -/
theorem reconciled_reconciled (listed stored : List String) :
    reconciled listed (reconciled listed stored) = reconciled listed stored := by
  have allListed : (reconciled listed stored).filter (· ∈ listed) = reconciled listed stored := by
    apply List.filter_eq_self.mpr
    intro name member
    have wanted : name ∈ listed := by
      rcases List.mem_append.mp member with old | new
      · exact of_decide_eq_true (List.mem_filter.mp old).2
      · exact (List.mem_filter.mp new).1
    exact decide_eq_true wanted
  have noneMissing : listed.filter (· ∉ reconciled listed stored) = [] := by
    apply List.filter_eq_nil_iff.mpr
    intro name wanted
    by_cases old : name ∈ stored <;> simp [reconciled, wanted, old]
  rw [reconciled, allListed, noneMissing, List.append_nil]

end Reconciled

namespace Program

variable {σ : Signature} {α Store : Type}

/-- These are the stores that a run passes through, the first and the last one included. -/
def stores (context : Context) (remote : Remote σ Store) :
    Program σ α → World Store → List Store
  | .done _, world => [world.store]
  | .call request next, world =>
      let (answer, after) := remote context request world
      world.store :: (next answer).stores context remote after
  | .clock next, world => (next world.timeline.now).stores context remote world
  | .check next, world => (next (context.check world.timeline)).stores context remote world
  | .sleep span next, world =>
      let (interruption, timeline) := context.sleep span world.timeline
      (next interruption).stores context remote { world with timeline }

/-- The store that a run leaves behind is one that it passes through. -/
theorem last_mem_stores (context : Context) (remote : Remote σ Store) (program : Program σ α)
    (world : World Store) :
    (program.run context remote world).2.store ∈ program.stores context remote world := by
  induction program generalizing world with
  | done value => exact List.mem_singleton.mpr rfl
  | call request next inductionHypothesis =>
      exact List.mem_cons_of_mem _ (inductionHypothesis _ _)
  | clock next inductionHypothesis => exact inductionHypothesis _ world
  | check next inductionHypothesis => exact inductionHypothesis _ world
  | sleep span next inductionHypothesis =>
      exact inductionHypothesis _ { world with timeline := (context.sleep span world.timeline).2 }

/-- What no allowed call breaks holds in every store that an orderly program passes through. -/
theorem Orderly.keeps_throughout {allowed : Request → Prop} {context : Context}
    {remote : Remote CloudService Store} {world : World Store} {program : Build α}
    (orderly : Orderly allowed program.run) (invariant : Store → Prop)
    (called : ∀ request, allowed request → ∀ world : World Store, invariant world.store →
      invariant (remote context request world).2.store)
    (here : invariant world.store) :
    ∀ store ∈ program.run.stores context remote world, invariant store := by
  change ∀ store ∈ Program.stores context remote program world, invariant store
  change Orderly allowed program at orderly
  induction program generalizing world with
  | done outcome => exact List.forall_mem_singleton.mpr here
  | call request next inductionHypothesis =>
      obtain ⟨permitted, -, goesOn⟩ := orderly
      have kept := called request permitted world here
      exact List.forall_mem_cons.mpr ⟨here, inductionHypothesis _ kept (goesOn _)⟩
  | clock next inductionHypothesis => exact inductionHypothesis _ here (orderly _)
  | check next inductionHypothesis => exact inductionHypothesis _ here (orderly _)
  | sleep span next inductionHypothesis => exact inductionHypothesis _ here (orderly _)

end Program

/-- A troubled cloud has failures that will be announced while a run goes on, some before each of
its calls. -/
structure TroubledCloud where
  cloud : Cloud
  announcements : List (List (Endpoint × RemoteError))

namespace TroubledCloud

/-- The failures that come next join those that were announced before. -/
def announced (troubled : TroubledCloud) : Cloud :=
  { troubled.cloud with
    failures := troubled.cloud.failures ++ troubled.announcements.headD [] }

/-- A troubled cloud makes its next announcements and answers like any cloud then. -/
def remote : Remote CloudService TroubledCloud := fun _ request world =>
  let (answer, cloud) := Cloud.call request world.store.announced
  (answer, { world with store := ⟨cloud, world.store.announcements.tail⟩ })

end TroubledCloud

/-- A trial is a run that is given its context, its timeline and the failures that it will meet. -/
structure Trial where
  context : Context
  timeline : Timeline
  announcements : List (List (Endpoint × RemoteError))

namespace ContainerRegistryBlueprint

open Program Cloud

variable {context : Context} {world : World TroubledCloud} {id : ResourceId}
  {listed names : List String}

/-- A registry has some users when it is stored with their names. -/
theorem hasUsers_iff {cloud : Cloud} : HasUsers id names cloud ↔
    (cloud.registries.get? id).map ContainerRegistry.userNames = some names :=
  Option.map_eq_some_iff.symm

/-- These are the names of the users that the blueprint wants. -/
def listedNames (blueprint : ContainerRegistryBlueprint) : List String :=
  blueprint.users.map RegistryUser.userName

/-- The trial of an update has an outcome and leaves a cloud behind. -/
def updateOn (blueprint : ContainerRegistryBlueprint) (cloud : Cloud) (trial : Trial) :
    Except ProvisionError BuildResult × Cloud :=
  let (outcome, after) := blueprint.update.run.run trial.context TroubledCloud.remote
    ⟨trial.timeline, cloud, trial.announcements⟩
  (outcome, after.store.cloud)

/-- This cloud is left after several trials of an update, whether they succeeded or failed. -/
def updatesOn (blueprint : ContainerRegistryBlueprint) (cloud : Cloud)
    (trials : List Trial) : Cloud :=
  trials.foldl (fun cloud trial => (blueprint.updateOn cloud trial).2) cloud

/-- These are the clouds that the trial of an update passes through. -/
def cloudsOn (blueprint : ContainerRegistryBlueprint) (cloud : Cloud) (trial : Trial) :
    List Cloud :=
  (blueprint.update.run.stores trial.context TroubledCloud.remote
    ⟨trial.timeline, cloud, trial.announcements⟩).map TroubledCloud.cloud

/-- The users of a registry are on their way when they will be the same ones once reconciled. -/
def Reconciling (id : ResourceId) (listed names : List String) (cloud : Cloud) : Prop :=
  ∃ current, HasUsers id current cloud ∧ reconciled listed current = reconciled listed names

/-- The users stay when a call fails before it is answered. -/
theorem call_yields (request : Request) {cloud : Cloud} {succeeds : request.Answer → Cloud → Prop}
    (here : HasUsers id names cloud)
    (answers : ∀ cloud, HasUsers id names cloud →
      (answerRequest request).Yields cloud succeeds fun _ => HasUsers id names) :
    match Cloud.call request cloud with
    | (.ok answer, after) => succeeds answer after
    | (.error _, after) => HasUsers id names after := by
  have called : match (Cloud.call request cloud).1 with
      | .ok answer => succeeds answer (Cloud.call request cloud).2
      | .error _ => HasUsers id names (Cloud.call request cloud).2 := by
    refine call_elim (motive := fun outcome after => match outcome with
      | .ok answer => succeeds answer after
      | .error _ => HasUsers id names after) ?_ ?_
    · exact fun _ _ _ => here
    · exact fun _ => answers _ here
  generalize Cloud.call request cloud = result at called ⊢
  obtain ⟨outcome, after⟩ := result
  cases outcome <;> exact called

/-- The update of the description shows the users and leaves them as they are. -/
theorem update_answers (request : ContainerRegistryUpdateRequest) {cloud : Cloud}
    (here : HasUsers id names cloud) :
    (answerRegistry (.update id request)).Yields cloud
      (fun current after => current.userNames = names ∧ HasUsers id names after)
      (fun _ after => HasUsers id names after) := by
  obtain ⟨registry, stored, users⟩ := here
  exact CloudStep.Yields.change _ _ stored ⟨users, _, SortedMap.get?_insert_self _ _ _, users⟩

/-- A user is added after the others, or the registry keeps the users that it has. -/
theorem addUser_answers (user : RegistryUser) {cloud : Cloud} (here : HasUsers id names cloud) :
    (answerRegistry (.addUser id user)).Yields cloud
      (fun _ after => HasUsers id (names ++ [user.userName]) after)
      (fun _ after => HasUsers id names after) := by
  obtain ⟨registry, stored, rfl⟩ := here
  rw [answerRegistry, addRegistryUser, CloudStep.yields_bind]
  apply CloudStep.Yields.find _ _ stored
  dsimp only
  split
  · exact ⟨registry, stored, rfl⟩
  · rw [CloudStep.yields_bind]
    exact CloudStep.Yields.change _ _ stored ⟨_, SortedMap.get?_insert_self _ _ _, rfl⟩

/-- A user is deleted, or the registry keeps the users that it has. -/
theorem deleteUser_answers (name : String) {cloud : Cloud} (here : HasUsers id names cloud) :
    (answerRegistry (.deleteUser id name)).Yields cloud
      (fun _ after => HasUsers id (names.filter (· != name)) after)
      (fun _ after => HasUsers id names after) := by
  obtain ⟨registry, stored, rfl⟩ := here
  rw [answerRegistry, deleteRegistryUser, CloudStep.yields_bind]
  apply CloudStep.Yields.find _ _ stored
  dsimp only
  split
  · exact ⟨registry, stored, rfl⟩
  · rw [CloudStep.yields_bind]
    exact CloudStep.Yields.change _ _ stored ⟨_, SortedMap.get?_insert_self _ _ _, rfl⟩

/-- A labelled call yields what its answer yields, and the users stay when it fails. -/
theorem troubled_yields {label : String} {call : ContainerRegistryCall}
    {succeeds : call.Answer → Cloud → Prop} (here : HasUsers id names world.store.cloud)
    (answers : ∀ cloud, HasUsers id names cloud →
      (answerRegistry call).Yields cloud succeeds fun _ => HasUsers id names) :
    Yields context TroubledCloud.remote (Build.call label (.containerRegistry call)) world
      (fun answer after => succeeds answer after.store.cloud)
      (fun _ after => HasUsers id names after.store.cloud) := by
  let request : Request := .containerRegistry call
  have here : HasUsers id names world.store.announced := here
  have called := call_yields request here answers
  change Yields context TroubledCloud.remote (Provision.during label (Build.attempt request)) world
    _ _
  rw [yields_during, yields_attempt, TroubledCloud.remote]
  generalize Cloud.call request world.store.announced = result at called
  obtain ⟨outcome, after⟩ := result
  cases outcome <;> exact called

/-- The missing users are added in listed order. Where this stops, the users are on their way. -/
theorem addUsers_troubled {users : List RegistryUser} (distinct : listed.Nodup)
    (missing : listed.filter (· ∉ names) = users.map RegistryUser.userName)
    (here : HasUsers id names world.store.cloud) :
    Yields context TroubledCloud.remote (users.forM (addUser id)) world
      (fun _ after => HasUsers id (names ++ users.map RegistryUser.userName) after.store.cloud)
      (fun _ after => Reconciling id listed names after.store.cloud) := by
  induction users generalizing world names with
  | nil =>
      rw [List.map_nil, List.append_nil]
      exact here
  | cons user rest inductionHypothesis =>
      rw [List.map_cons, ← List.singleton_append] at missing
      rw [List.map_cons, List.forM, List.append_cons, yields_bind]
      apply (troubled_yields here fun _ => addUser_answers user).mono
      · intro _ after here
        unfold Reconciling
        rw [← reconciled_append distinct missing]
        exact inductionHypothesis (missing_append distinct missing) here
      · exact fun _ _ here => ⟨names, here, rfl⟩

/-- Users that are not listed are deleted. Where this stops, the users are on their way. -/
theorem deleteUsers_troubled {unlisted : List String} (others : ∀ name ∈ unlisted, name ∉ listed)
    (here : HasUsers id names world.store.cloud) :
    Yields context TroubledCloud.remote (unlisted.forM (deleteUser id)) world
      (fun _ after => HasUsers id (names.filter (· ∉ unlisted)) after.store.cloud)
      (fun _ after => Reconciling id listed names after.store.cloud) := by
  induction unlisted generalizing world names with
  | nil =>
      have all : names.filter (· ∉ ([] : List String)) = names := by simp
      rw [all]
      exact here
  | cons name rest inductionHypothesis =>
      obtain ⟨first, others⟩ := List.forall_mem_cons.mp others
      have both : names.filter (· ∉ name :: rest) =
          (names.filter (· != name)).filter (· ∉ rest) := by
        rw [List.filter_filter]
        apply List.filter_congr
        intro other _
        by_cases same : other = name <;> simp [same]
      rw [List.forM, yields_bind, both]
      apply (troubled_yields here fun _ => deleteUser_answers name).mono
      · intro _ after here
        unfold Reconciling
        rw [← reconciled_erase first]
        exact inductionHypothesis others here
      · exact fun _ _ here => ⟨names, here, rfl⟩

/-- An update reconciles the users, or it stops and leaves them on their way. -/
theorem update_troubled (blueprint : ContainerRegistryBlueprint)
    (here : HasUsers blueprint.id names world.store.cloud) :
    Yields context TroubledCloud.remote blueprint.update world
      (fun _ after => HasUsers blueprint.id (reconciled blueprint.listedNames names)
        after.store.cloud)
      (fun _ after => Reconciling blueprint.id blueprint.listedNames names after.store.cloud) := by
  have stays (after : World TroubledCloud) (here : HasUsers blueprint.id names after.store.cloud) :
      Reconciling blueprint.id blueprint.listedNames names after.store.cloud := ⟨names, here, rfl⟩
  rw [update, yields_bind]
  apply Yields.checked _ fun _ _ => stays world here
  intro _
  rw [yields_bind]
  apply Yields.checked _ fun _ _ => stays world here
  intro accepted
  have distinct := validate_distinct accepted
  rw [yields_bind]
  apply (troubled_yields here fun _ => update_answers blueprint.updateRequest).mono _
    fun _ => stays
  rintro current described ⟨rfl, here⟩
  have missing : blueprint.listedNames.filter (· ∉ current.userNames) =
      (blueprint.users.filter fun user => !current.userNames.contains user.userName).map
        RegistryUser.userName := by
    rw [listedNames, List.filter_map]
    congr 1
    apply List.filter_congr
    intro user _
    simp
  have unlisted : (current.userNames.filter fun name => !blueprint.listedNames.contains name) =
      current.userNames.filter (· ∉ blueprint.listedNames) := by
    apply List.filter_congr
    intro name _
    simp
  rw [yields_bind]
  apply (addUsers_troubled distinct missing here).mono _
    fun _ _ reconciling => reconciling
  intro _ added here
  rw [← missing] at here
  change Yields context TroubledCloud.remote
    ((current.userNames.filter fun name => !blueprint.listedNames.contains name).forM
      (deleteUser blueprint.id) >>= _) added _ _
  rw [unlisted, yields_bind]
  have others : ∀ name ∈ current.userNames.filter (· ∉ blueprint.listedNames),
      name ∉ blueprint.listedNames :=
    fun name member => of_decide_eq_true (List.mem_filter.mp member).2
  apply (deleteUsers_troubled others here).mono
  · intro _ after here
    rw [filter_append_missing] at here
    exact here
  · rintro _ after ⟨left, here, same⟩
    exact ⟨left, here, same.trans (reconciled_append distinct (List.append_nil _).symm)⟩

/-- A request spares the listed users of a registry when it deletes none of them. -/
def SparesListed (id : ResourceId) (listed : List String) : Request → Prop
  | .containerRegistry (.update other _) | .containerRegistry (.addUser other _) => other = id
  | .containerRegistry (.deleteUser other name) => other = id ∧ name ∉ listed
  | _ => False

/-- A registry serves the users that were stored and are listed when none of them is missing. -/
def Serves (id : ResourceId) (listed names : List String) (cloud : Cloud) : Prop :=
  ∃ current, HasUsers id current cloud ∧ ∀ name ∈ names, name ∈ listed → name ∈ current

/-- An update of a registry deletes no listed user. -/
theorem update_spares (blueprint : ContainerRegistryBlueprint) :
    Orderly (SparesListed blueprint.id blueprint.listedNames) blueprint.update.run := by
  refine (Orderly.lift _).bind fun _ => (Orderly.lift _).bind fun _ => ?_
  refine .step rfl rfl fun current => (addUsers_orderly _ fun _ => rfl).bind fun _ => ?_
  refine .bind (.forM fun name member => .call rfl ⟨rfl, ?_⟩) fun _ => .pure _
  have unlisted : (!blueprint.listedNames.contains name) = true := (List.mem_filter.mp member).2
  simpa using unlisted

/-- No call that spares the listed users stops serving them. -/
theorem Serves.answer {request : Request} {cloud : Cloud} (serves : Serves id listed names cloud)
    (spares : SparesListed id listed request) :
    (answerRequest request).Yields cloud (fun _ after => Serves id listed names after)
      (fun _ after => Serves id listed names after) := by
  obtain ⟨current, here, present⟩ := serves
  have stays (after : Cloud) (here : HasUsers id current after) : Serves id listed names after :=
    ⟨current, here, present⟩
  unfold SparesListed at spares
  split at spares
  next other request =>
    cases spares
    exact (update_answers request here).mono (fun _ after shown => stays after shown.2)
      fun _ => stays
  next other user =>
    cases spares
    refine (addUser_answers user here).mono (fun _ after here => ?_) fun _ => stays
    exact ⟨_, here, fun name old wanted => List.mem_append_left _ (present name old wanted)⟩
  next other gone =>
    obtain ⟨rfl, unlisted⟩ := spares
    refine (deleteUser_answers gone here).mono (fun _ after here => ?_) fun _ => stays
    refine ⟨_, here, fun name old wanted => List.mem_filter.mpr ⟨present name old wanted, ?_⟩⟩
    have different : name ≠ gone := by
      rintro rfl
      exact unlisted wanted
    exact bne_iff_ne.mpr different
  next => exact spares.elim

/-- A registry serves its users during a call that spares them, whatever failures are announced
before it. -/
theorem Serves.troubled {request : Request} (serves : Serves id listed names world.store.cloud)
    (spares : SparesListed id listed request) :
    Serves id listed names (TroubledCloud.remote context request world).2.store.cloud := by
  change Serves id listed names (Cloud.call request world.store.announced).2
  refine call_elim (motive := fun _ after => Serves id listed names after) ?_ ?_
  · exact fun _ _ _ => serves
  · intro _
    let announced := world.store.announced
    have logged : Serves id listed names (announced.logging request announced.failures) := serves
    exact logged.answer spares

section Trial

variable {blueprint : ContainerRegistryBlueprint} {cloud : Cloud}

/-- An update serves the users in every cloud that it passes through. -/
theorem cloudsOn_serve (trial : Trial)
    (serves : Serves blueprint.id blueprint.listedNames names cloud) :
    ∀ passed ∈ blueprint.cloudsOn cloud trial,
      Serves blueprint.id blueprint.listedNames names passed := by
  rw [cloudsOn, List.forall_mem_map]
  exact blueprint.update_spares.keeps_throughout
    (fun store : TroubledCloud => Serves blueprint.id blueprint.listedNames names store.cloud)
    (fun _ spares _ serves => serves.troubled spares) serves

/-- A registry serves its users after any trials of an update. -/
theorem updatesOn_serve (trials : List Trial)
    (serves : Serves blueprint.id blueprint.listedNames names cloud) :
    Serves blueprint.id blueprint.listedNames names (blueprint.updatesOn cloud trials) := by
  induction trials generalizing cloud with
  | nil => exact serves
  | cons trial rest inductionHypothesis =>
      apply inductionHypothesis
      exact cloudsOn_serve trial serves _
        (List.mem_map_of_mem (last_mem_stores trial.context _ _ _))

/-- An update that succeeds reconciles the users, and any other one leaves them on their way. -/
theorem updateOn_yields (trial : Trial)
    (reconciling : Reconciling blueprint.id blueprint.listedNames names cloud) :
    match blueprint.updateOn cloud trial with
    | (.ok _, after) => HasUsers blueprint.id (reconciled blueprint.listedNames names) after
    | (.error _, after) => Reconciling blueprint.id blueprint.listedNames names after := by
  obtain ⟨current, here, same⟩ := reconciling
  let world : World TroubledCloud := ⟨trial.timeline, cloud, trial.announcements⟩
  have yields : Yields trial.context TroubledCloud.remote blueprint.update world _ _ :=
    blueprint.update_troubled here
  unfold Yields at yields
  rw [updateOn]
  generalize blueprint.update.run.run trial.context TroubledCloud.remote _ = result at yields ⊢
  obtain ⟨outcome, after⟩ := result
  cases outcome with
  | ok result => exact same ▸ yields
  | error error =>
      obtain ⟨left, here, stopped⟩ := yields
      exact ⟨left, here, stopped.trans same⟩

/-- A trial of an update that succeeds leaves the reconciled users. -/
theorem updateOn_reconciles (trial : Trial) {result : BuildResult}
    (reconciling : Reconciling blueprint.id blueprint.listedNames names cloud)
    (succeeded : (blueprint.updateOn cloud trial).1 = .ok result) :
    HasUsers blueprint.id (reconciled blueprint.listedNames names)
      (blueprint.updateOn cloud trial).2 := by
  have yields := updateOn_yields trial reconciling
  split at yields
  next same =>
    rw [same]
    exact yields
  next same =>
    rw [same] at succeeded
    nomatch succeeded

/-- Trials that succeed or fail leave the users on their way. -/
theorem updatesOn_reconciling (trials : List Trial)
    (reconciling : Reconciling blueprint.id blueprint.listedNames names cloud) :
    Reconciling blueprint.id blueprint.listedNames names
      (blueprint.updatesOn cloud trials) := by
  induction trials generalizing cloud with
  | nil => exact reconciling
  | cons trial rest inductionHypothesis =>
      apply inductionHypothesis
      change Reconciling _ _ _ (blueprint.updateOn cloud trial).2
      have yields := updateOn_yields trial reconciling
      split at yields
      next same =>
        rw [same]
        exact ⟨_, yields, reconciled_reconciled _ _⟩
      next same =>
        rw [same]
        exact yields

end Trial

/-- An update that succeeds keeps the stored users that are listed, in their order, and appends the
listed users that were new, in listed order. The outcome is the same after any number of trials
before. In all trials, finished or not, a user that is stored and listed is present all the time. -/
theorem update_reconciles (blueprint : ContainerRegistryBlueprint) {cloud : Cloud}
    {names : List String} (stored : HasUsers blueprint.id names cloud) :
    (∀ trial result, (blueprint.updateOn cloud trial).1 = .ok result →
      HasUsers blueprint.id
        (names.filter (· ∈ blueprint.listedNames) ++ blueprint.listedNames.filter (· ∉ names))
        (blueprint.updateOn cloud trial).2) ∧
    (∀ earlier trial,
      ∀ passed ∈ blueprint.cloudsOn (blueprint.updatesOn cloud earlier) trial,
        ∃ current, HasUsers blueprint.id current passed ∧
          ∀ name ∈ names, name ∈ blueprint.listedNames → name ∈ current) ∧
    (∀ earlier trial result,
      (blueprint.updateOn (blueprint.updatesOn cloud earlier) trial).1 = .ok result →
      HasUsers blueprint.id
        (names.filter (· ∈ blueprint.listedNames) ++ blueprint.listedNames.filter (· ∉ names))
        (blueprint.updateOn (blueprint.updatesOn cloud earlier) trial).2) := by
  have reconciling : Reconciling blueprint.id blueprint.listedNames names cloud :=
    ⟨names, stored, rfl⟩
  have serves : Serves blueprint.id blueprint.listedNames names cloud :=
    ⟨names, stored, fun _ old _ => old⟩
  refine ⟨?_, ?_, ?_⟩
  · exact fun trial _ succeeded => updateOn_reconciles trial reconciling succeeded
  · exact fun earlier trial => cloudsOn_serve trial (updatesOn_serve earlier serves)
  · intro earlier trial _ succeeded
    exact updateOn_reconciles trial (updatesOn_reconciling earlier reconciling) succeeded

/-- The first trial adds one user and fails to add another one. The second trial succeeds. -/
theorem interrupted_update_reconciles :
    let user (name : String) : RegistryUser := { (default : RegistryUser) with
      userName := name
      password := "correct-horse" }
    let blueprint : ContainerRegistryBlueprint :=
      { (default : ContainerRegistryBlueprint) with
        id := ⟨7⟩
        name := "images"
        subdomainLabel := "acme"
        users := [user "audit", user "deploy", user "backup"] }
    let cloud := Cloud.empty.seedRegistry
      { (default : ContainerRegistry) with id := ⟨7⟩, userNames := ["ci", "deploy"] }
    let troubled : Trial :=
      ⟨default, default, [[], [], [(.addRegistryUser, .transport "connection reset")]]⟩
    let quiet : Trial := ⟨default, default, []⟩
    (blueprint.updateOn cloud troubled).1.isOk = false ∧
    HasUsers ⟨7⟩ ["ci", "deploy", "audit"] (blueprint.updateOn cloud troubled).2 ∧
    HasUsers ⟨7⟩ ["deploy", "audit", "backup"]
      (blueprint.updateOn (blueprint.updatesOn cloud [troubled]) quiet).2 := by
  intro user blueprint cloud troubled quiet
  have stored : HasUsers blueprint.id ["ci", "deploy"] cloud := ⟨_, rfl, rfl⟩
  refine ⟨by decide +kernel, hasUsers_iff.mpr (by decide +kernel), ?_⟩
  have succeeds :
      (blueprint.updateOn (blueprint.updatesOn cloud [troubled]) quiet).1.isOk = true := by
    decide +kernel
  cases outcome : (blueprint.updateOn (blueprint.updatesOn cloud [troubled]) quiet).1 with
  | error error =>
      rw [outcome] at succeeds
      nomatch succeeds
  | ok result => exact (blueprint.update_reconciles stored).2.2 [troubled] quiet result outcome

end ContainerRegistryBlueprint

end Provisioning
