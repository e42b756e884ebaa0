import Provisioning.Cloud.Answer
import Provisioning.Remote.Form

/-!
A recorder stands between a program and a cloud. It logs every call with its time and its arguments,
and it can delay a call, cancel the context, lose the call, fail it, or patch its answer.
-/

namespace Provisioning

/-- A fault changes the fate of one call. The blank fault changes nothing. -/
structure Fault where
  delay : Nat
  cancels : Bool
  lost : Bool
  error : Option RemoteError
  patch : Option Json
  deriving Inhabited

/-- The log has the time of each call, the call itself, and its failure if it failed. -/
structure LogEntry where
  time : Nat
  request : Request
  failure : Option RemoteError

/-- A recorder has a cloud, the faults of calls to come, and the log with the latest call first. -/
structure Recorder where
  cloud : Cloud
  faults : List (Endpoint × Fault)
  log : List LogEntry
  deriving Inhabited

namespace Recorder

/-- A patch that leaves no readable answer has no effect. -/
def patchAnswer {α : Type} (form : AnswerForm α) (patch : Option Json) (answer : α) : α :=
  match patch with
  | none => answer
  | some change => (form.decode ((form.encode answer).applyPatch change)).getD answer

/-- A lost call gets a blank answer, and neither it nor a failed one reaches the cloud. -/
def passOn (fault : Fault) (request : Request) (cloud : Cloud) :
    Except RemoteError request.Answer × Cloud :=
  if fault.lost then (.ok request.answerForm.blank, cloud)
  else
    match fault.error with
    | some error => (.error error, cloud)
    | none => cloud.call request

def failureOf {α : Type} : Except RemoteError α → Option RemoteError
  | .ok _ => none
  | .error error => some error

/-- The fault of a call acts in this order: delay, cancellation, fate of the call, patch. -/
def remote : Remote CloudService Recorder := fun context request world =>
  let (fault, faults) := (request.endpoint.takeFirst world.store.faults).getD
    (default, world.store.faults)
  let elapsed := world.timeline.elapse fault.delay
  let timeline := if fault.cancels then context.cancel elapsed else elapsed
  let (fate, cloud) := passOn fault request world.store.cloud
  let answer := fate.map (patchAnswer request.answerForm fault.patch)
  let entry := { time := world.timeline.now, request, failure := failureOf answer }
  (answer, ⟨timeline, { cloud, faults, log := entry :: world.store.log }⟩)

end Recorder

end Provisioning
