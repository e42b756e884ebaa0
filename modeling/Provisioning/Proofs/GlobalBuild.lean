import Provisioning.Blueprint.ContainerRegistry
import Provisioning.Blueprint.LocalRouter
import Provisioning.Proofs.Waits

/-!
Builds of what has no zone: container registries and local routers. After its validation a build
does not fail in quiet circumstances.
-/

namespace Provisioning.ContainerRegistryBlueprint

open Program Cloud

variable {quiet : Prop} {context : Context} {world : World Cloud}
  {blueprint : ContainerRegistryBlueprint} {id : ResourceId} {names : List String}

/-- A registry that passes its validation declares no user twice. -/
theorem validate_distinct (accepted : blueprint.validate = .ok ()) :
    (blueprint.users.map RegistryUser.userName).Nodup := by
  obtain ⟨-, -, accepted⟩ := Check.of_bind accepted
  obtain ⟨-, -, accepted⟩ := Check.of_bind accepted
  obtain ⟨-, -, accepted⟩ := Check.of_bind accepted
  apply nodup_of_firstDuplicate
  cases duplicate : firstDuplicate (blueprint.users.map RegistryUser.userName) with
  | none => rfl
  | some name =>
      rw [duplicate] at accepted
      nomatch accepted

/-- A new registry has no users and needs as many reads as any other record before it settles. -/
theorem create_yields (calm : Calm quiet context world) :
    Yields context Cloud.remote
      (Build.call "create container registry"
        (.containerRegistry (.create blueprint.createRequest))) world
      (fun registry after => Calm quiet context after ∧ registry.availability = .migrating ∧
        registry.userNames = [] ∧ after.store.registries.get? registry.id = some registry ∧
        after.store.pending.get? registry.id = some world.store.settleReads)
      (fun error _ => error.Excused quiet) := by
  apply yields_calm_call calm
  intro calmAfter
  refine ⟨calmAfter, rfl, rfl, ?_, ?_⟩
  · exact SortedMap.get?_insert_self _ _ _
  · exact SortedMap.get?_insert_self _ _ _

/-- A registry is stored and has some users. -/
def HasUsers (id : ResourceId) (names : List String) (cloud : Cloud) : Prop :=
  ∃ registry, cloud.registries.get? id = some registry ∧ registry.userNames = names

/-- A user that the registry does not have yet is added after the others. -/
theorem addUser_yields (calm : Calm quiet context world) {user : RegistryUser}
    (here : HasUsers id names world.store) (new : user.userName ∉ names) :
    Yields context Cloud.remote (addUser id user) world
      (fun _ after => Calm quiet context after ∧
        HasUsers id (names ++ [user.userName]) after.store)
      (fun error _ => error.Excused quiet) := by
  obtain ⟨registry, stored, listed⟩ := here
  apply yields_calm_call calm
  rw [answerRequest, answerRegistry, addRegistryUser, CloudStep.yields_bind]
  apply CloudStep.Yields.find _ _ stored
  rw [if_neg (by rwa [listed, List.contains_iff_mem]), CloudStep.yields_bind]
  apply CloudStep.Yields.change _ _ stored
  intro calmAfter
  refine ⟨calmAfter, _, SortedMap.get?_insert_self _ _ _, ?_⟩
  rw [listed]

/-- Users that are listed once are added one after the other. -/
theorem forM_addUser_yields {users : List RegistryUser} (calm : Calm quiet context world)
    (here : HasUsers id names world.store)
    (distinct : (names ++ users.map RegistryUser.userName).Nodup) :
    Yields context Cloud.remote (users.forM (addUser id)) world
      (fun _ after => Calm quiet context after) (fun error _ => error.Excused quiet) := by
  induction users generalizing world names with
  | nil => exact calm
  | cons user rest inductionHypothesis =>
      rw [List.map_cons, List.append_cons] at distinct
      have new : user.userName ∉ names := by
        intro old
        have apart := (List.nodup_append.mp (List.nodup_append.mp distinct).1).2.2
        exact apart _ old _ List.mem_cons_self rfl
      rw [List.forM]
      apply (addUser_yields calm here new).bind
      rintro - after ⟨calmAfter, goesOn⟩
      exact inductionHypothesis calmAfter goesOn distinct

/-- A build of a registry goes on after its validation. -/
theorem build_goesOn (calm : Calm quiet context world)
    (covers : quiet → blueprint.timing.wait.Covers (world.store.settleReads - 1)) :
    GoesOn quiet context Cloud.remote (liftM blueprint.validate) blueprint.build world := by
  refine ⟨_, rfl, ?_⟩
  rw [yields_liftExcept]
  cases accepted : blueprint.validate with
  | error error => trivial
  | ok checked =>
      have distinct := validate_distinct accepted
      apply (create_yields calm).bind
      rintro created after ⟨calm, creating, bare, stored, counting⟩
      have settled : Lifecycle.availability (Reader.registries.settled created) = .available :=
        settledAvailability_of_migrating creating
      apply (Reader.registries.untilReady_yields calm stored (.of_counted counting)
        (congrArg _ creating) settled covers).bind
      rintro - ready ⟨calm, -, settles⟩
      exact (forM_addUser_yields calm ⟨_, settles.stored, bare⟩ distinct).bind fun _ _ _ => trivial

end Provisioning.ContainerRegistryBlueprint

namespace Provisioning.LocalRouterBlueprint

open Program Cloud

variable {quiet : Prop} {context : Context} {world : World Cloud}
  {blueprint : LocalRouterBlueprint} {id : ResourceId} {router : LocalRouter}

/-- A validation may settle the peers, and the next records will need as many reads as before. -/
theorem validatePeer_yields (calm : Calm quiet context world) (peer : LocalRouterPeer) :
    Yields context Cloud.remote (validatePeer peer) world
      (fun _ after => Calm quiet context after ∧
        after.store.settleReads = world.store.settleReads)
      (fun _ _ => True) := by
  have read : Yields context Cloud.remote
      (Build.call "read peer local router" (.localRouter (.read peer.peerId))) world
      (fun _ after => Calm quiet context after ∧
        after.store.settleReads = world.store.settleReads)
      (fun _ _ => True) := by
    apply yields_calm_look calm
    apply (answerRequest_footprint _).mono
    · exact fun _ after written calmAfter => ⟨calmAfter, written.settleReads⟩
    · exact fun _ _ _ => trivial
  apply read.bind
  intro router after goesOn
  rw [yields_liftExcept]
  split
  · exact goesOn
  · trivial

/-- The validation of a local router keeps the run calm, and a new record still needs as many reads
as before. -/
theorem validate_yields (calm : Calm quiet context world) :
    Yields context Cloud.remote blueprint.validate world
      (fun _ after => Calm quiet context after ∧
        after.store.settleReads = world.store.settleReads)
      (fun _ _ => True) := by
  rw [validate, yields_bind, yields_liftExcept]
  cases blueprint.checkFields with
  | error error => trivial
  | ok checked =>
      have all : Yields context Cloud.remote (blueprint.peers.forM validatePeer) world
          (fun _ after => (Calm quiet context after ∧
            after.store.settleReads = world.store.settleReads) ∧ ∀ peer ∈ blueprint.peers, True)
          (fun _ _ => True) := by
        apply Yields.forM _ _ _ ⟨calm, rfl⟩
        rintro peer - now ⟨calmNow, same⟩
        apply (validatePeer_yields calmNow peer).mono
        · exact fun _ after goesOn => ⟨⟨goesOn.1, goesOn.2.trans same⟩, trivial⟩
        · exact fun _ _ _ => trivial
      exact all.mono (fun _ _ goesOn => goesOn.1) fun _ _ _ => trivial

/-- A new router needs as many reads as any other record before it settles. -/
theorem create_yields (calm : Calm quiet context world) :
    Yields context Cloud.remote
      (Build.call "create local router" (.localRouter (.create blueprint.createRequest))) world
      (fun router after => Calm quiet context after ∧ router.availability = .migrating ∧
        after.store.localRouters.get? router.id = some router ∧
        after.store.pending.get? router.id = some world.store.settleReads)
      (fun error _ => error.Excused quiet) := by
  apply yields_calm_call calm
  intro calmAfter
  refine ⟨calmAfter, rfl, ?_, ?_⟩
  · exact SortedMap.get?_insert_self _ _ _
  · exact SortedMap.get?_insert_self _ _ _

/-- Settings are applied with the hash that is stored. -/
theorem applySettings_yields (calm : Calm quiet context world)
    (stored : world.store.localRouters.get? id = some router) :
    Yields context Cloud.remote (blueprint.applySettings id router.settingsHash) world
      (fun _ after => Calm quiet context after) (fun error _ => error.Excused quiet) := by
  rw [applySettings, yields_bind]
  apply yields_calm_call calm
  rw [answerRequest, answerLocalRouter, updateLocalRouterSettings, CloudStep.yields_bind,
    CloudStep.yields_freshHash, CloudStep.yields_bind]
  apply CloudStep.Yields.find _ _ stored
  rw [CloudStep.yields_bind, CloudStep.yields_checkHash, if_pos rfl]
  exact CloudStep.Yields.change _ _ stored fun calmAfter => calmAfter

/-- A build of a local router goes on after its validation. -/
theorem build_goesOn (calm : Calm quiet context world)
    (covers : quiet → blueprint.timing.wait.Covers (world.store.settleReads - 1)) :
    GoesOn quiet context Cloud.remote blueprint.validate blueprint.build world := by
  refine ⟨_, rfl, (validate_yields calm).mono ?_ fun _ _ _ => trivial⟩
  rintro - checked ⟨calm, reads⟩
  rw [← reads] at covers
  apply (create_yields calm).bind
  rintro created after ⟨calm, creating, stored, counting⟩
  have settled : Lifecycle.availability (Reader.localRouters.settled created) = .available :=
    settledAvailability_of_migrating creating
  apply (Reader.localRouters.untilReady_yields calm stored (.of_counted counting)
    (congrArg _ creating) settled covers).bind
  rintro - ready ⟨calm, rfl, settles⟩
  exact (applySettings_yields calm settles.stored).bind fun _ _ _ => trivial

end Provisioning.LocalRouterBlueprint
