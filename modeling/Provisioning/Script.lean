import Provisioning.Power

/-!
Scripted remotes: each answer is fixed in advance together with the time that it takes. They show
how waits and power control behave against any course of events.
-/

namespace Provisioning

/-- A cue is one scripted answer, which may take time and may cancel the context at its end. -/
structure Cue (α : Type) where
  delay : Nat
  cancels : Bool
  answer : Except RemoteError α

namespace Cue

variable {α Store : Type}

def play (cue : Cue α) (context : Context) (world : World Store) :
    Except RemoteError α × World Store :=
  let timeline := world.timeline.elapse cue.delay
  (cue.answer, { world with timeline := if cue.cancels then context.cancel timeline else timeline })

/-- The last cue of a list repeats for ever. -/
def advance : List (Cue α) → List (Cue α)
  | _ :: next :: rest => next :: rest
  | cues => cues

end Cue

/-- A probed remote understands one request, which is to look. -/
abbrev Probe (ρ : Type) : Signature := ⟨Unit, fun _ => ρ⟩

/-- A scripted probe has its remaining cues and the times of the looks so far, latest first. -/
structure ProbeScript (ρ : Type) where
  cues : List (Cue ρ)
  looks : List Nat

/-- An empty script reports a failure in transport. -/
def ProbeScript.remote {ρ : Type} : Remote (Probe ρ) (ProbeScript ρ) := fun context _ world =>
  let script := world.store
  let looks := world.timeline.now :: script.looks
  match script.cues with
  | [] => (.error (.transport ""), { world with store := { script with looks } })
  | cue :: _ => cue.play context { world with store := ⟨Cue.advance script.cues, looks⟩ }

/-- A power switch understands the two operations and a question for the status. -/
inductive PowerRequest where
  | operate (operation : PowerOperation)
  | status
  deriving DecidableEq, Repr

abbrev PowerRequest.Answer : PowerRequest → Type
  | .operate _ => Unit
  | .status => RunStatus

abbrev PowerSwitch : Signature := ⟨PowerRequest, PowerRequest.Answer⟩

/-- This handler passes everything on to a power switch. -/
def PowerSwitch.handler (name : String) : PowerHandler PowerSwitch where
  name := name
  request operation := ExceptT.mk (.call (PowerRequest.operate operation) .done)
  status := ExceptT.mk (.call PowerRequest.status .done)

/-- A scripted switch has cues for requests and for statuses, and its calls so far, latest first. -/
structure PowerScript where
  requests : List (Cue Unit)
  statuses : List (Cue RunStatus)
  calls : List (Nat × PowerRequest)

/-- Requests after the end of the script are accepted, and the last status repeats. -/
def PowerScript.remote : Remote PowerSwitch PowerScript := fun context request world =>
  let script := world.store
  let calls := (world.timeline.now, request) :: script.calls
  match request with
  | .operate _ =>
      match script.requests with
      | [] => (.ok (), { world with store := { script with calls } })
      | cue :: rest =>
          cue.play context { world with store := { script with requests := rest, calls } }
  | .status =>
      match script.statuses with
      | [] => (.error (.transport ""), { world with store := { script with calls } })
      | cue :: _ =>
          let statuses := Cue.advance script.statuses
          cue.play context { world with store := { script with statuses, calls } }

end Provisioning
