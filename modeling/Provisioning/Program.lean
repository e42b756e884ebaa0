import Provisioning.Context

/-!
Programs that call a remote, look at the clock, check their context and sleep. A program is data, so
its behaviour can be stated for every remote. The main statements are the monad laws and the law
that running a sequence is running its parts in turn.
-/

namespace Provisioning

/-- A signature lists the requests that a remote understands and the type of each answer. -/
structure Signature where
  Request : Type
  Answer : Request → Type

/-- A program is finished, or it does one thing and goes on with what comes back. -/
inductive Program (σ : Signature) (α : Type) where
  | done (value : α)
  | call (request : σ.Request) (next : Except RemoteError (σ.Answer request) → Program σ α)
  | clock (next : Nat → Program σ α)
  | check (next : Option Interruption → Program σ α)
  | sleep (span : Nat) (next : Option Interruption → Program σ α)

namespace Program

variable {σ : Signature} {α β γ : Type}

def bind (program : Program σ α) (continuation : α → Program σ β) : Program σ β :=
  match program with
  | .done value => continuation value
  | .call request next => .call request fun answer => (next answer).bind continuation
  | .clock next => .clock fun now => (next now).bind continuation
  | .check next => .check fun interruption => (next interruption).bind continuation
  | .sleep span next => .sleep span fun interruption => (next interruption).bind continuation

instance : Monad (Program σ) where
  pure := .done
  bind := bind

theorem bind_done (program : Program σ α) : program.bind .done = program := by
  induction program with
  | done value => rfl
  | call request next inductionHypothesis => simp only [bind, inductionHypothesis]
  | clock next inductionHypothesis => simp only [bind, inductionHypothesis]
  | check next inductionHypothesis => simp only [bind, inductionHypothesis]
  | sleep span next inductionHypothesis => simp only [bind, inductionHypothesis]

theorem bind_bind (program : Program σ α) (first : α → Program σ β) (second : β → Program σ γ) :
    (program.bind first).bind second = program.bind fun value => (first value).bind second := by
  induction program with
  | done value => rfl
  | call request next inductionHypothesis => simp only [bind, inductionHypothesis]
  | clock next inductionHypothesis => simp only [bind, inductionHypothesis]
  | check next inductionHypothesis => simp only [bind, inductionHypothesis]
  | sleep span next inductionHypothesis => simp only [bind, inductionHypothesis]

instance : LawfulMonad (Program σ) :=
  LawfulMonad.mk' (Program σ) bind_done (fun _ _ => rfl) bind_bind

end Program

/-- A world is a timeline together with what a remote keeps. -/
structure World (Store : Type) where
  timeline : Timeline
  store : Store
  deriving Inhabited

/-- A remote answers requests. An answer may take time and may cancel the context. -/
def Remote (σ : Signature) (Store : Type) : Type :=
  Context → (request : σ.Request) → World Store →
    Except RemoteError (σ.Answer request) × World Store

namespace Program

variable {σ : Signature} {α β Store : Type}

/-- This function runs a program in a context against a remote. -/
def run (context : Context) (remote : Remote σ Store) :
    Program σ α → World Store → α × World Store
  | .done value, world => (value, world)
  | .call request next, world =>
      let (answer, world) := remote context request world
      (next answer).run context remote world
  | .clock next, world => (next world.timeline.now).run context remote world
  | .check next, world => (next (context.check world.timeline)).run context remote world
  | .sleep span next, world =>
      let (interruption, timeline) := context.sleep span world.timeline
      (next interruption).run context remote { world with timeline }

/-- A sequence runs its parts in turn. -/
theorem run_bind (context : Context) (remote : Remote σ Store) (program : Program σ α)
    (continuation : α → Program σ β) (world : World Store) :
    (program >>= continuation).run context remote world =
      (continuation (program.run context remote world).1).run context remote
        (program.run context remote world).2 := by
  change (program.bind continuation).run context remote world = _
  induction program generalizing world with
  | done value => rfl
  | call request next inductionHypothesis => exact inductionHypothesis _ _
  | clock next inductionHypothesis => exact inductionHypothesis _ _
  | check next inductionHypothesis => exact inductionHypothesis _ _
  | sleep span next inductionHypothesis => exact inductionHypothesis _ _

end Program

/-- An attempt is a program that may end with the failure of a remote call. -/
abbrev Attempt (σ : Signature) (α : Type) : Type := ExceptT RemoteError (Program σ) α

/-- A provisioning program may end with a provisioning error. -/
abbrev Provision (σ : Signature) (α : Type) : Type := ExceptT ProvisionError (Program σ) α

/-- One request is an attempt. -/
def Attempt.request {σ : Signature} (request : σ.Request) : Attempt σ (σ.Answer request) :=
  ExceptT.mk (.call request .done)

/-- This function makes the outcome of an attempt available instead of failing with it. -/
def Attempt.outcome {σ : Signature} {α : Type} (attempt : Attempt σ α) :
    Provision σ (Except RemoteError α) :=
  ExceptT.lift attempt.run

namespace Provision

variable {σ : Signature} {α : Type}

/-- An attempt is one step of a run, and its failure is reported under a label. -/
def during (label : String) (attempt : Attempt σ α) : Provision σ α := do
  match ← attempt.outcome with
  | .ok value => return value
  | .error error => throw (.ofRemote label error)

def now : Provision σ Nat := ExceptT.lift (.clock .done)

/-- An interruption ends the run. -/
def uninterrupted (action : String) : Option Interruption → Provision σ Unit
  | none => return
  | some interruption => throw (interruption.error action)

/-- The run ends here when its context is cancelled or expired. -/
def check (action : String) : Provision σ Unit := do
  uninterrupted action (← ExceptT.lift (.check .done))

/-- The run pauses, and ends when its context is cancelled or expires during the pause. -/
def pause (span : Nat) (action : String) : Provision σ Unit := do
  uninterrupted action (← ExceptT.lift (.sleep span .done))

end Provision

end Provisioning
