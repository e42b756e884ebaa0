import Provisioning.Model.Status
import Provisioning.Program
import Provisioning.Timing

/-!
Waits that look at a resource at a fixed interval until it is in the state they wait for.
-/

namespace Provisioning.Wait

variable {σ : Signature} {ρ μ : Type}

/-- A poll looks at the state once. The round limit is never reached before the deadline. -/
def pollUntil (action : String) (interval deadline : Nat) (probe : μ → Attempt σ (ρ × μ))
    (accepts : ρ → Bool) : Nat → μ → Provision σ ρ
  | 0, _ => throw (.timeout action)
  | rounds + 1, memory => do
      Provision.check action
      let (state, memory) ← Provision.during action (probe memory)
      if accepts state then return state
      if deadline ≤ (← Provision.now) then throw (.timeout action)
      Provision.pause interval action
      pollUntil action interval deadline probe accepts rounds memory

/-- This wait gives its probe a memory from poll to poll. -/
def forStateWith (action : String) (probe : μ → Attempt σ (ρ × μ)) (accepts : ρ → Bool)
    (options : WaitOptions) (memory : μ) : Provision σ ρ := do
  let start ← Provision.now
  pollUntil action options.pollInterval (start + options.timeout) probe accepts options.pollLimit
    memory

/-- A wait ends with the first state that is accepted, and a failed probe ends it at once. -/
def forState (action : String) (probe : Attempt σ ρ) (accepts : ρ → Bool)
    (options : WaitOptions) : Provision σ ρ :=
  forStateWith action (fun _ => do return (← probe, ())) accepts options ()

/-- A poll for a deletion is satisfied only by a probe that finds nothing. -/
def pollUntilDeleted (action : String) (interval deadline : Nat) (probe : Attempt σ ρ) :
    Nat → Provision σ Unit
  | 0 => throw (.timeout action)
  | rounds + 1 => do
      Provision.check action
      match ← probe.outcome with
      | .error error => if error.isNotFound then return else throw (.ofRemote action error)
      | .ok _ =>
          if deadline ≤ (← Provision.now) then throw (.timeout action)
          Provision.pause interval action
          pollUntilDeleted action interval deadline probe rounds

def untilDeleted (action : String) (probe : Attempt σ ρ) (options : WaitOptions) :
    Provision σ Unit := do
  let start ← Provision.now
  pollUntilDeleted action options.pollInterval (start + options.timeout) probe options.pollLimit

/-- A resource is ready when the remote has finished its creation without failing. -/
def untilReady [Lifecycle ρ] (resource : String) (id : ResourceId) (probe : Attempt σ ρ)
    (options : WaitOptions) : Provision σ ρ := do
  let record ← forState s!"{resource} {id.text} to become available" probe
    (fun record => !(Lifecycle.availability record).isTransitional) options
  if Lifecycle.availability record = .failed then
    throw (.invalidState resource id.text "remote reported a failed creation")
  return record

def untilStatus [Lifecycle ρ] (target : RunStatus) (resource : String) (id : ResourceId)
    (probe : Attempt σ ρ) (options : WaitOptions) : Provision σ ρ :=
  forState s!"{resource} {id.text} to reach {target.word}" probe
    (fun record => Lifecycle.runStatus record == some target) options

def untilUp [Lifecycle ρ] (resource : String) (id : ResourceId) (probe : Attempt σ ρ)
    (options : WaitOptions) : Provision σ ρ :=
  untilStatus .up resource id probe options

def untilDown [Lifecycle ρ] (resource : String) (id : ResourceId) (probe : Attempt σ ρ)
    (options : WaitOptions) : Provision σ ρ :=
  untilStatus .down resource id probe options

end Provisioning.Wait
