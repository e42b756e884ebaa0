import Provisioning.Blueprint.Disk
import Provisioning.Proofs.ProgramLogic

/-!
Programs that trust their input. A trusting program never fails with a validation error, whatever it
is answered and however it is interrupted. Calls, waits and power requests are trusting, and so is
all work for the edit of a disk once its validation is over.
-/

namespace Provisioning

namespace Program

variable {σ : Signature} {α β ι ρ μ : Type}

/-- Against any remote, a trusting program fails only with errors that are no validation errors. -/
def Trusting (program : Provision σ α) : Prop :=
  ∀ (Store : Type) (context : Context) (remote : Remote σ Store) (world : World Store),
    Yields context remote program world (fun _ _ => True) (fun error _ => ¬ error.IsValidation)

namespace Trusting

theorem pure (value : α) : Trusting (Pure.pure value : Provision σ α) := fun _ _ _ _ => trivial

theorem throw {error : ProvisionError} (other : ¬ error.IsValidation) :
    Trusting (MonadExcept.throw error : Provision σ α) := fun _ _ _ _ => other

theorem timeout (action : String) :
    Trusting (MonadExcept.throw (ProvisionError.timeout action) : Provision σ α) :=
  throw fun ⟨_, _, same⟩ => nomatch same

/-- Trusting programs are sequenced to a trusting program. -/
theorem bind {program : Provision σ α} {continuation : α → Provision σ β}
    (first : Trusting program) (rest : ∀ value, Trusting (continuation value)) :
    Trusting (program >>= continuation) :=
  fun Store context remote world =>
    (first Store context remote world).bind fun value after _ =>
      rest value Store context remote after

/-- An attempt whose failure is taken as a value never fails. -/
theorem outcome (attempt : Attempt σ α) : Trusting attempt.outcome := by
  intro Store context remote world
  rw [yields_outcome]
  exact .of_forall (fun _ _ => trivial) fun _ _ => trivial

/-- A step fails with the failure of its remote, which is no validation error. -/
theorem during (label : String) (attempt : Attempt σ α) :
    Trusting (Provision.during label attempt) := by
  intro Store context remote world
  rw [yields_during]
  exact .of_forall (fun _ _ => trivial) fun error _ =>
    ProvisionError.not_isValidation_ofRemote label error

theorem now : Trusting (Provision.now : Provision σ Nat) := fun _ _ _ _ => trivial

/-- A check fails only with an interruption. -/
theorem check (action : String) : Trusting (Provision.check action : Provision σ Unit) := by
  intro Store context remote world
  rw [yields_check]
  split
  · trivial
  · exact Interruption.not_isValidation _ _

/-- A pause fails only with an interruption. -/
theorem pause (span : Nat) (action : String) :
    Trusting (Provision.pause span action : Provision σ Unit) := by
  intro Store context remote world
  rw [yields_pause]
  split
  · trivial
  · exact Interruption.not_isValidation _ _

theorem forM {items : List ι} {step : ι → Provision σ PUnit} (each : ∀ item, Trusting (step item)) :
    Trusting (items.forM step) := by
  induction items with
  | nil => exact .pure _
  | cons item rest inductionHypothesis =>
      rw [List.forM]
      exact (each item).bind fun _ => inductionHypothesis

theorem mapM {items : List ι} {step : ι → Provision σ α} (each : ∀ item, Trusting (step item)) :
    Trusting (items.mapM step) := by
  induction items with
  | nil =>
      rw [List.mapM_nil]
      exact .pure _
  | cons item rest inductionHypothesis =>
      rw [List.mapM_cons]
      exact (each item).bind fun _ => inductionHypothesis.bind fun _ => .pure _

/-- A wait reports a timeout, an interruption or the failure of a look. -/
theorem forStateWith (action : String) (probe : μ → Attempt σ (ρ × μ)) (accepts : ρ → Bool)
    (options : WaitOptions) (memory : μ) :
    Trusting (Wait.forStateWith action probe accepts options memory) := by
  have polls (deadline rounds : Nat) (memory : μ) : Trusting
      (Wait.pollUntil action options.pollInterval deadline probe accepts rounds memory) := by
    induction rounds generalizing memory with
    | zero => exact .timeout _
    | succ rounds inductionHypothesis =>
        rw [Wait.pollUntil]
        apply (Trusting.check action).bind
        intro _
        apply (Trusting.during action _).bind
        intro seen
        dsimp only
        split
        · exact .pure _
        · apply Trusting.now.bind
          intro now
          split
          · exact .timeout _
          · exact (Trusting.pause _ _).bind fun _ => inductionHypothesis _
  exact Trusting.now.bind fun start => polls _ _ memory

/-- A wait until a resource is ready is trusting. -/
theorem untilReady [Lifecycle ρ] (resource : String) (id : ResourceId) (probe : Attempt σ ρ)
    (options : WaitOptions) : Trusting (Wait.untilReady resource id probe options) := by
  apply (forStateWith _ _ _ options ()).bind
  intro record
  split
  · exact .throw fun ⟨_, _, same⟩ => nomatch same
  · exact .pure _

section Power

variable (handler : PowerHandler σ) (operation : PowerOperation)

/-- The rounds of the first request are trusting. -/
theorem requestRounds (policy : RetryPolicy) (start rounds : Nat) :
    Trusting (handler.requestRounds operation policy start rounds) := by
  induction rounds with
  | zero => exact .timeout _
  | succ rounds inductionHypothesis =>
      apply (Trusting.check _).bind
      intro _
      apply (Trusting.outcome _).bind
      intro outcome
      split
      · exact .pure _
      next error =>
        split
        · apply (Trusting.pause _ _).bind
          intro _
          apply Trusting.now.bind
          intro now
          split
          · exact .timeout _
          · exact inductionHypothesis
        · exact .throw (ProvisionError.not_isValidation_ofRemote _ error)

/-- Power requests and the wait for their effect never blame the input. -/
theorem switch (timing : Timing) (noWait : Bool) :
    Trusting (handler.switch operation timing noWait) := by
  apply (Trusting.now.bind fun start => requestRounds handler operation _ start _).bind
  intro _
  split
  · exact .pure _
  · exact Trusting.now.bind fun accepted => (forStateWith _ _ _ _ _).bind fun _ => .pure _

end Power

/-- An error of a trusting program is no validation error. -/
theorem not_isValidation {program : Provision σ α} (trusting : Trusting program) {Store : Type}
    {context : Context} {remote : Remote σ Store} {world after : World Store}
    {error : ProvisionError}
    (failed : program.run.run context remote world = (.error error, after)) :
    ¬ error.IsValidation := by
  have yields := trusting Store context remote world
  unfold Yields at yields
  rw [failed] at yields
  exact yields

end Trusting

end Program

open Program

theorem Artifacts.dispose_trusting (artifacts : Artifacts) : Trusting artifacts.dispose := by
  have notes : Trusting (do
      if artifacts.deleteNotes then
        artifacts.noteIds.forM fun id => Build.call "delete note" (.credential (.deleteNote id))
      return artifacts.generatedKey.map GeneratedSshKey.privateKey : Build _) := by
    split
    · exact (Trusting.forM fun _ => .during _ _).bind fun _ => .pure _
    · exact .pure _
  rw [dispose]
  split
  · split
    · exact (Trusting.during _ _).bind fun _ => notes
    · exact notes
  · exact notes

theorem UnixEdit.prepare_trusting (edit : UnixEdit) : Trusting edit.prepare := by
  have key : Trusting edit.generateKey := by
    rw [generateKey]
    split
    · exact .pure _
    · exact (Trusting.during _ _).bind fun _ => .pure _
  apply key.bind
  intro key
  exact (Trusting.mapM fun _ => (Trusting.during _ _).bind fun _ => .pure _).bind fun _ => .pure _

/-- An edit that is written into a disk once more is not checked again. -/
theorem DiskBlueprint.reapply_trusting (zone : Zone) (id : ResourceId) (timing : Timing)
    (edit : UnixEdit) : Trusting (reapply zone id timing edit) := by
  apply edit.prepare_trusting.bind
  intro prepared
  apply (Trusting.during _ _).bind
  intro _
  apply ((Trusting.untilReady _ _ _ _).bind fun _ => .pure _).bind
  exact fun _ => prepared.2.dispose_trusting

end Provisioning
