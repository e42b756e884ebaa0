import Provisioning.Proofs.Blueprints
import Provisioning.Proofs.Journal

/-!
All plans stop at their first failure. The moments of a run are its calls, each with what is left of
the program. The main statement holds for validations, builds and updates against any remote: a call
that fails is the last one and is reported under the label of its step, unless its step passes over
the failure.
-/

namespace Provisioning

/-- This error reports a failure: a missing thing stays a missing thing, and any other failure is
passed on under the label of the operation. -/
structure ProvisionError.Reports (error : ProvisionError) (label : String) (failure : RemoteError) :
    Prop where
  missing : ∀ resource id, failure = .notFound resource id → error = .notFound resource id
  other : (∀ resource id, failure ≠ .notFound resource id) → error = .remote label failure

/-- The error that a failure becomes under a label reports the failure. -/
theorem ProvisionError.reports_ofRemote (label : String) (failure : RemoteError) :
    (ofRemote label failure).Reports label failure := by
  refine ⟨?_, ?_⟩
  · rintro resource id rfl
    rfl
  · intro other
    cases failure with
    | notFound resource id => exact absurd rfl (other resource id)
    | api status code message => rfl
    | transport message => rfl

/-- A moment of a run is a call with its answer and with the way in which the program goes on. -/
structure Moment (σ : Signature) (α : Type) where
  request : σ.Request
  answer : Except RemoteError (σ.Answer request)
  next : Except RemoteError (σ.Answer request) → Program σ α

/-- This is what is left of the program at the moment of the call. -/
def Moment.rest {σ : Signature} {α : Type} (moment : Moment σ α) : Program σ α :=
  .call moment.request moment.next

namespace Program

variable {σ : Signature} {α Store : Type}

/-- The moments of a run are its calls in order. -/
def moments (context : Context) (remote : Remote σ Store) :
    Program σ α → World Store → List (Moment σ α)
  | .done _, _ => []
  | .call request next, world =>
      let (answer, after) := remote context request world
      ⟨request, answer, next⟩ :: (next answer).moments context remote after
  | .clock next, world => (next world.timeline.now).moments context remote world
  | .check next, world => (next (context.check world.timeline)).moments context remote world
  | .sleep span next, world =>
      let (interruption, timeline) := context.sleep span world.timeline
      (next interruption).moments context remote { world with timeline }

/-- A plan is fail-stop when each failing call is the last one of its run and is reported, except
that the step of the call may pass over its failure. -/
def FailStop (program : Build α) : Prop :=
  ∀ {Store : Type} (context : Context) (remote : Remote CloudService Store) (world : World Store)
    (before later : List (Moment CloudService (Except ProvisionError α)))
    (moment : Moment CloudService (Except ProvisionError α)) (failure : RemoteError),
    program.run.moments context remote world = before ++ moment :: later →
    moment.answer = .error failure →
    ∃ label passes, Step (ExceptT.mk moment.rest : Build α) label passes ∧
      moment.request.Labelled label ∧
      (passes failure = true ∨ later = [] ∧
        ∃ error, (program.run.run context remote world).1 = .error error ∧
          error.Reports label failure)

/-- An orderly plan is fail-stop. -/
theorem Orderly.failStop {allowed : Request → Prop} {program : Build α}
    (orderly : Orderly allowed program.run) : FailStop program := by
  intro Store context remote world before later moment failure
  change Program.moments context remote program world = _ → _ → ∃ label passes,
    Step (ExceptT.mk moment.rest : Build α) label passes ∧ moment.request.Labelled label ∧
      (passes failure = true ∨ later = [] ∧ ∃ error,
        (Program.run context remote program world).1 = .error error ∧ error.Reports label failure)
  change Orderly allowed program at orderly
  induction program generalizing world before with
  | done outcome => exact fun divided => absurd divided.symm (by simp [moments])
  | call request next inductionHypothesis =>
      obtain ⟨-, ⟨label, passes, step, labelled⟩, goesOn⟩ := orderly
      intro divided failed
      -- The failing call is this one, or it belongs to what is left of the program.
      rcases before with _ | ⟨first, earlier⟩
      · obtain ⟨rfl, rfl⟩ := List.cons.inj divided
        refine ⟨label, passes, step, labelled, ?_⟩
        cases passed : passes failure with
        | true => exact .inl rfl
        | false =>
            have stops := step.stops passed
            rw [run]
            dsimp only at failed ⊢
            rw [failed, stops]
            exact .inr ⟨rfl, _, rfl, ProvisionError.reports_ofRemote label failure⟩
      · obtain ⟨-, divided⟩ := List.cons.inj divided
        exact inductionHypothesis _ _ _ (goesOn _) divided failed
  | clock next inductionHypothesis =>
      exact inductionHypothesis _ world before (orderly _)
  | check next inductionHypothesis =>
      exact inductionHypothesis _ world before (orderly _)
  | sleep span next inductionHypothesis =>
      exact inductionHypothesis _ _ before (orderly _)

end Program

open Program

namespace Blueprint

/-- All plans stop at their first failure, whatever the remote answers. A failing call is the last
one of its run, and the run ends with the report of this failure under the label of its step. A run
may go on only after a lookup that finds no disk in a lineage, after a power operation that is
refused because the resource is still being created, and after a re-issue that meets a conflict. -/
theorem plans_are_failStop (blueprint : Blueprint) :
    FailStop blueprint.validate ∧ FailStop blueprint.build ∧ FailStop blueprint.update :=
  ⟨blueprint.validate_orderly.failStop, blueprint.build_orderly.failStop,
    blueprint.update_orderly.failStop⟩

end Blueprint

end Provisioning
