import Provisioning.Proofs.WaitDiscipline

/-!
Waits for a deletion. A wait until a resource is deleted has a loop of its own, in which the failure
of a look is what it waits for. The main statement says that it is all the same a wait for a state:
its probe tells whether the resource is gone.
-/

namespace Provisioning.Wait

open Program

variable {σ : Signature} {ρ α Store : Type}

/-- A resource is gone when a look misses it, by name or by a bare 404, and it is there when a look
finds its record. Any other failure tells nothing. -/
def gone : Except RemoteError ρ → Except RemoteError Bool
  | .ok _ => .ok false
  | .error (.notFound _ _) => .ok true
  | .error (.api status code message) =>
      if status = 404 then .ok true else .error (.api status code message)
  | .error (.transport message) => .error (.transport message)

/-- This probe tells whether the resource is gone that another probe looks at. -/
def absence (probe : Attempt σ ρ) : Attempt σ Bool := ExceptT.mk (gone <$> probe.run)

/-- A failure that reports a missing resource says that the resource is gone, and any other failure
is passed on. -/
theorem gone_error (error : RemoteError) :
    gone (.error error : Except RemoteError ρ) =
      if error.isNotFound then .ok true else .error error := by
  cases error with
  | notFound resource id => rfl
  | api status code message =>
      simp only [gone, RemoteError.isNotFound, RemoteError.missingStatus, beq_iff_eq]
  | transport message => rfl

/-- A step that tells whether a resource is gone is a step that looks at the resource. -/
theorem during_absence (action : String) (probe : Attempt σ ρ)
    (rest : Bool × Unit → Provision σ α) :
    Provision.during action (do return (← absence probe, ())) >>= rest =
      probe.outcome >>= fun answer =>
        match gone answer with
        | .ok found => rest (found, ())
        | .error error => throw (.ofRemote action error) := by
  apply ExceptT.ext
  simp only [Provision.during, Attempt.outcome, absence, ExceptT.run_bind, ExceptT.run_lift,
    ExceptT.run_mk, ExceptT.run_pure, map_eq_pure_bind, bind_assoc, pure_bind]
  refine bind_congr fun answer => ?_
  cases gone answer <;> rfl

/-- The two loops make the same program, round by round. -/
theorem pollUntilDeleted_eq (action : String) (interval deadline : Nat) (probe : Attempt σ ρ)
    (rounds : Nat) :
    pollUntilDeleted action interval deadline probe rounds = do
      let _ ← pollUntil action interval deadline (fun _ => do return (← absence probe, ())) id
        rounds ()
      return := by
  induction rounds with
  | zero => rfl
  | succ rounds inductionHypothesis =>
      rw [pollUntilDeleted, pollUntil, bind_assoc]
      refine bind_congr fun _ => ?_
      rw [bind_assoc, during_absence]
      refine bind_congr fun answer => ?_
      cases answer with
      | ok record =>
          dsimp only [gone, id]
          rw [if_neg Bool.false_ne_true, bind_assoc]
          refine bind_congr fun now => ?_
          split
          next late => rfl
          next early =>
            rw [bind_assoc]
            exact bind_congr fun _ => inductionHypothesis
      | error error =>
          rw [gone_error]
          dsimp only
          by_cases missed : error.isNotFound
          · rw [if_pos missed, if_pos missed]
            rfl
          · rw [if_neg missed, if_neg missed]

/-- This wait for a deletion has a limit of its own for its rounds. -/
def untilDeletedWithin (action : String) (probe : Attempt σ ρ) (options : WaitOptions)
    (rounds : Nat) : Provision σ Unit := do
  let start ← Provision.now
  pollUntilDeleted action options.pollInterval (start + options.timeout) probe rounds

/-- For any number of rounds, a wait for a deletion is the wait for the absence of the resource
without its answer. -/
theorem untilDeletedWithin_eq (action : String) (probe : Attempt σ ρ) (options : WaitOptions)
    (rounds : Nat) :
    untilDeletedWithin action probe options rounds = do
      let _ ← forStateWithin action (absence probe) id options rounds
      return := by
  rw [untilDeletedWithin, forStateWithin, bind_assoc]
  exact bind_congr fun start => pollUntilDeleted_eq _ _ _ _ _

section Run

variable (context : Context) (remote : Remote σ Store) (world : World Store)

/-- A wait for a deletion agrees with a wait for a state when both make the same calls at the same
times, leave the same world behind, and end alike: with the same failure, or with a deletion that
the state confirms. -/
structure Agrees (deleted : Provision σ Unit) (found : Provision σ Bool) : Prop where
  journal : deleted.run.journal context remote world = found.run.journal context remote world
  after : (deleted.run.run context remote world).2 = (found.run.run context remote world).2
  outcome : (deleted.run.run context remote world).1 =
    match (found.run.run context remote world).1 with
    | .ok _ => .ok ()
    | .error error => .error error
  confirmed : ∀ state, (found.run.run context remote world).1 = .ok state → state = true

/-- A wait for a state is the wait for a deletion that forgets the state. -/
theorem Agrees.of_eq {deleted : Provision σ Unit} {found : Provision σ Bool}
    (same : deleted = do let _ ← found; return)
    (confirmed : Yields context remote found world (fun state _ => state = true)
      (fun _ _ => True)) :
    Agrees context remote world deleted found := by
  have forgets : ∀ {Store : Type} (remote : Remote σ Store) (world : World Store),
      deleted.run.run context remote world =
        (match (found.run.run context remote world).1 with
          | .ok _ => .ok ()
          | .error error => .error error, (found.run.run context remote world).2) := by
    intro Store remote world
    rw [same, ExceptT.run_bind, run_bind]
    rcases found.run.run context remote world with ⟨outcome, after⟩
    cases outcome <;> rfl
  refine ⟨?_, ?_, ?_, ?_⟩
  · rw [Program.journal, forgets, Program.journal]
  · rw [forgets]
  · rw [forgets]
  · intro state succeeded
    unfold Yields at confirmed
    generalize found.run.run context remote world = result at confirmed succeeded
    obtain ⟨outcome, after⟩ := result
    cases succeeded
    exact confirmed

/-- A wait for a truth succeeds only with it. -/
theorem forStateWithin_confirmed (action : String) (probe : Attempt σ Bool) (options : WaitOptions)
    (rounds : Nat) :
    Yields context remote (forStateWithin action probe id options rounds) world
      (fun state _ => state = true) (fun _ _ => True) := by
  rw [forStateWithin, yields_bind, yields_now]
  apply pollUntil_keeps (fun _ _ => True) (fun state _ => state = true) _
    (fun _ _ _ _ => trivial) (fun _ _ _ => trivial) rounds trivial
  intro _ world _
  apply Yields.of_forall
  · intro seen after
    split
    next truth => exact truth
    next => trivial
  · exact fun _ _ => trivial

end Run

/-- A wait for a deletion is a wait for the absence of the resource. Take any probe, any answers
that take any time, any interval and budget, and any context. The wait looks at the same instants
and ends at the same instant as the wait whose probe tells whether the resource is gone. It succeeds
when that wait finds it gone, and fails with the same error otherwise. The limits on the rounds of
the two waits do not matter as long as they are the same. -/
theorem untilDeleted_agrees (action : String) (probe : Attempt σ ρ) (options : WaitOptions)
    (context : Context) (remote : Remote σ Store) (world : World Store) :
    Agrees context remote world (untilDeleted action probe options)
      (forState action (absence probe) id options) ∧
    ∀ rounds, Agrees context remote world (untilDeletedWithin action probe options rounds)
      (forStateWithin action (absence probe) id options rounds) := by
  have agrees : ∀ rounds,
      Agrees context remote world (untilDeletedWithin action probe options rounds)
        (forStateWithin action (absence probe) id options rounds) := by
    intro rounds
    apply Agrees.of_eq context remote world (untilDeletedWithin_eq action probe options rounds)
    exact forStateWithin_confirmed context remote world action (absence probe) options rounds
  exact ⟨agrees options.pollLimit, agrees⟩

end Provisioning.Wait
