import Provisioning.Wait

/-!
Power control: a boot or shutdown is requested until the remote accepts it, and then the status is
polled until it is the wanted one. A request that seems lost is issued again.
-/

namespace Provisioning

/-- A power operation boots an instance or shuts it down, by force if need be. -/
inductive PowerOperation where
  | boot
  | shutdown (force : Bool)
  deriving DecidableEq, Repr

namespace PowerOperation

def verb : PowerOperation → String
  | boot => "boot"
  | shutdown _ => "shutdown"

def target : PowerOperation → RunStatus
  | boot => .up
  | shutdown _ => .down

/-- This status shows that the operation had no effect. -/
def opposite : PowerOperation → RunStatus
  | boot => .down
  | shutdown _ => .up

def reissueSpan (policy : RetryPolicy) : PowerOperation → Nat
  | boot => policy.bootRetrySpan
  | shutdown _ => policy.shutdownRetrySpan

end PowerOperation

/-- A power handler knows how to switch one resource and how to read its status. -/
structure PowerHandler (σ : Signature) where
  name : String
  request : PowerOperation → Attempt σ Unit
  status : Attempt σ RunStatus

namespace PowerHandler

variable {σ : Signature}

def action (handler : PowerHandler σ) (operation : PowerOperation) : String :=
  s!"{operation.verb} {handler.name}"

/-- A request is repeated only while the remote says that it is still creating the resource. -/
def requestRounds (handler : PowerHandler σ) (operation : PowerOperation) (policy : RetryPolicy)
    (start : Nat) : Nat → Provision σ Unit
  | 0 => throw (.timeout (handler.action operation))
  | rounds + 1 => do
      Provision.check (handler.action operation)
      match ← (handler.request operation).outcome with
      | .ok _ => return
      | .error error =>
          if error.isStillCreating then
            Provision.pause policy.initialRetrySpan (handler.action operation)
            if start + policy.initialRequestTimeout ≤ (← Provision.now) then
              throw (.timeout (handler.action operation))
            handler.requestRounds operation policy start rounds
          else throw (.ofRemote (handler.action operation) error)

def requestUntilAccepted (handler : PowerHandler σ) (operation : PowerOperation)
    (policy : RetryPolicy) : Provision σ Unit := do
  handler.requestRounds operation policy (← Provision.now) policy.requestLimit

/-- A request that the remote refuses as a conflict counts as issued. -/
def reissue (handler : PowerHandler σ) (operation : PowerOperation) : Attempt σ Unit :=
  ExceptT.mk do
    match ← (handler.request operation).run with
    | .error error => if error.isConflict then return .ok () else return .error error
    | .ok _ => return .ok ()

/-- A status read that shows no effect a while after the last request issues the request again. -/
def confirmation (handler : PowerHandler σ) (operation : PowerOperation) (span lastRequest : Nat) :
    Attempt σ (RunStatus × Nat) := do
  let status ← handler.status
  let now ← ExceptT.lift (Program.clock .done)
  if status = operation.opposite ∧ lastRequest + span ≤ now then
    handler.reissue operation
    return (status, ← ExceptT.lift (Program.clock .done))
  else
    return (status, lastRequest)

def confirm (handler : PowerHandler σ) (operation : PowerOperation) (timing : Timing) :
    Provision σ Unit := do
  let accepted ← Provision.now
  let _ ← Wait.forStateWith (handler.action operation)
    (handler.confirmation operation (operation.reissueSpan timing.power))
    (· == operation.target) timing.wait accepted

/-- Without waiting, the operation is over as soon as its request is accepted. -/
def switch (handler : PowerHandler σ) (operation : PowerOperation) (timing : Timing)
    (noWait : Bool) : Provision σ Unit := do
  handler.requestUntilAccepted operation timing.power
  if noWait then return
  handler.confirm operation timing

end PowerHandler

end Provisioning
