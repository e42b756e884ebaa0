import Provisioning.Proofs.ProgramLogic
import Provisioning.Blueprint.Switching
import Provisioning.Lineage

/-!
Programs that are made of steps. A step makes one call under a label, and its failure ends the
program with this label. Three kinds of steps pass over some failures: the lookup of a disk in a
lineage, the request of a power operation, and its re-issue. A program is orderly when each of its
calls belongs to a step, whatever the answers before were.
-/

namespace Provisioning

/-- Four kinds of resources can be switched on and off. -/
inductive Switchable where
  | server
  | database
  | vpcRouter
  | mobileGateway
  deriving DecidableEq, Repr

namespace Switchable

variable {zone : Zone} {id : ResourceId}

def resource : Switchable → String
  | server => "server"
  | database => "database"
  | vpcRouter => "VPC router"
  | mobileGateway => "mobile gateway"

def handler (zone : Zone) (id : ResourceId) : Switchable → PowerHandler CloudService
  | server => serverPower zone id
  | database => databasePower zone id
  | vpcRouter => vpcRouterPower zone id
  | mobileGateway => mobileGatewayPower zone id

/-- This is the request for an operation. -/
def operate (zone : Zone) (id : ResourceId) : Switchable → PowerOperation → Request
  | server, .boot => .server zone (.boot id)
  | server, .shutdown force => .server zone (.shutdown id force)
  | database, .boot => .database zone (.boot id)
  | database, .shutdown force => .database zone (.shutdown id force)
  | vpcRouter, .boot => .vpcRouter zone (.boot id)
  | vpcRouter, .shutdown force => .vpcRouter zone (.shutdown id force)
  | mobileGateway, .boot => .mobileGateway zone (.boot id)
  | mobileGateway, .shutdown force => .mobileGateway zone (.shutdown id force)

/-- This is the request that shows the status. -/
def look (zone : Zone) (id : ResourceId) : Switchable → Request
  | server => .server zone (.read id)
  | database => .database zone (.read id)
  | vpcRouter => .vpcRouter zone (.read id)
  | mobileGateway => .mobileGateway zone (.read id)

/-- A request of a switch is one call without its answer. -/
theorem handler_request (kind : Switchable) (operation : PowerOperation) :
    (kind.handler zone id).request operation =
      (do let _ ← Build.attempt (kind.operate zone id operation)) := by
  cases kind <;> cases operation <;> exact bind_pure_unit.symm

/-- A status read of a switch is one call whose answer shows the status. -/
theorem handler_status (zone : Zone) (id : ResourceId) (kind : Switchable) :
    ∃ status : (kind.look zone id).Answer → RunStatus, (kind.handler zone id).status = do
      return status (← Build.attempt (kind.look zone id)) := by
  cases kind with
  | server => exact ⟨Server.instanceStatus, rfl⟩
  | database => exact ⟨Database.instanceStatus, rfl⟩
  | vpcRouter => exact ⟨VpcRouter.instanceStatus, rfl⟩
  | mobileGateway => exact ⟨MobileGateway.instanceStatus, rfl⟩

/-- A failed power operation is reported under this label. -/
def label (id : ResourceId) (operation : PowerOperation) (kind : Switchable) : String :=
  let target := s!"{kind.resource} {id.text}"
  s!"{operation.verb} {target}"

end Switchable

/-- A failed look of a wait for availability is reported under this label. -/
def Wait.readyLabel (resource : String) (id : ResourceId) : String :=
  s!"{resource} {id.text} to become available"

/-- A failed look of a wait for a status is reported under this label. -/
def Wait.statusLabel (target : RunStatus) (resource : String) (id : ResourceId) : String :=
  s!"{resource} {id.text} to reach {target.word}"

/-- A label names what a request is made for. No step deletes a resource. -/
def Request.Labelled : Request → String → Prop
  | .disk _ call, label =>
      match call with
      | .create .. | .createWithConfig .. => label = "create disk"
      | .read id =>
          label = "read disk" ∨ label = "read source disk" ∨ label = Wait.readyLabel "disk" id
      | .update .. => label = "update disk"
      | .delete _ => False
      | .connectToServer .. => label = "connect disk to server"
      | .config .. => label = "edit disk"
  | .catalogue _ call, label =>
      match call with
      | .readArchive _ => label = "read archive" ∨ label = "read source archive"
      | .findArchives _ => label = "find archive"
      | .readDiskPlan _ => label = "read disk plan"
      | .findServerPlans => label = "find server plans"
      | .readSwitch _ => label = "read switch"
      | .readPacketFilter _ => label = "read packet filter"
      | .readCdrom _ => label = "read ISO image"
  | .credential call, label =>
      match call with
      | .generateSshKey _ => label = "generate SSH key"
      | .readSshKey _ => label = "read SSH key"
      | .deleteSshKey _ => label = "delete generated SSH key"
      | .createNote _ => label = "create note"
      | .readNote _ => label = "read note"
      | .deleteNote _ => label = "delete note"
  | .server _ call, label =>
      match call with
      | .create _ => label = "create server"
      | .read id =>
          label = "read server" ∨ ∃ operation, label = Switchable.server.label id operation
      | .update .. => label = "update server"
      | .delete _ => False
      | .boot id => label = Switchable.server.label id .boot
      | .shutdown id force => label = Switchable.server.label id (.shutdown force)
      | .changePlan .. => label = "change server plan"
      | .insertCdrom .. => label = "insert ISO image"
      | .ejectCdrom .. => label = "eject ISO image"
      | .connectToPacketFilter .. => label = "connect packet filter"
      | .updateInterface .. => label = "update interface"
  | .database _ call, label =>
      match call with
      | .create _ => label = "create database"
      | .read id =>
          label = "read database" ∨ label = Wait.readyLabel "database" id ∨
            label = Wait.statusLabel .up "database" id ∨
            ∃ operation, label = Switchable.database.label id operation
      | .update .. => label = "update database"
      | .delete _ => False
      | .boot id => label = Switchable.database.label id .boot
      | .shutdown id force => label = Switchable.database.label id (.shutdown force)
      | .config _ => label = "apply database settings"
      | .setParameters .. => label = "set database parameters"
      | .status _ => False
  | .vpcRouter _ call, label =>
      match call with
      | .create _ => label = "create VPC router"
      | .read id =>
          label = "read VPC router" ∨ label = Wait.readyLabel "VPC router" id ∨
            ∃ operation, label = Switchable.vpcRouter.label id operation
      | .update .. => label = "update VPC router"
      | .delete _ => False
      | .boot id => label = Switchable.vpcRouter.label id .boot
      | .shutdown id force => label = Switchable.vpcRouter.label id (.shutdown force)
      | .connectToSwitch .. => label = "connect VPC router to switch"
      | .config _ => label = "apply VPC router settings"
  | .mobileGateway _ call, label =>
      match call with
      | .create _ => label = "create mobile gateway"
      | .read id =>
          label = "read mobile gateway" ∨ label = Wait.readyLabel "mobile gateway" id ∨
            ∃ operation, label = Switchable.mobileGateway.label id operation
      | .update .. => label = "update mobile gateway"
      | .delete _ => False
      | .boot id => label = Switchable.mobileGateway.label id .boot
      | .shutdown id force => label = Switchable.mobileGateway.label id (.shutdown force)
      | .connectToSwitch .. => label = "connect mobile gateway to switch"
      | .config _ => label = "apply mobile gateway settings"
      | .setDns .. => label = "set mobile gateway DNS"
      | .addSim .. => label = "add SIM"
      | .setTrafficConfig .. => label = "set traffic config"
  | .sim call, label =>
      match call with
      | .read _ => label = "read SIM"
      | .assignIp .. => label = "assign SIM address"
  | .containerRegistry call, label =>
      match call with
      | .create _ => label = "create container registry"
      | .read id => label = Wait.readyLabel "container registry" id
      | .update .. => label = "update container registry"
      | .delete _ => False
      | .addUser .. => label = "add registry user"
      | .deleteUser .. => label = "delete registry user"
  | .localRouter call, label =>
      match call with
      | .create _ => label = "create local router"
      | .read id =>
          label = "read peer local router" ∨ label = "read local router" ∨
            label = Wait.readyLabel "local router" id
      | .updateSettings .. => label = "update local router settings"
      | .delete _ => False

namespace Switchable

variable {zone : Zone} {id : ResourceId}

/-- The label of a power operation fits its request. -/
theorem labelled_operate (zone : Zone) (id : ResourceId) (kind : Switchable)
    (operation : PowerOperation) :
    (kind.operate zone id operation).Labelled ((kind.handler zone id).action operation) := by
  cases kind <;> cases operation <;> rfl

/-- The label of a power operation fits its status reads. -/
theorem labelled_look (kind : Switchable) (operation : PowerOperation) :
    (kind.look zone id).Labelled ((kind.handler zone id).action operation) := by
  cases kind with
  | server => exact .inr ⟨operation, rfl⟩
  | database => exact .inr (.inr (.inr ⟨operation, rfl⟩))
  | vpcRouter => exact .inr (.inr ⟨operation, rfl⟩)
  | mobileGateway => exact .inr (.inr ⟨operation, rfl⟩)

end Switchable

/-- A round requests an operation and starts the next round when the resource is still being
created. -/
def PowerHandler.round {σ : Signature} (handler : PowerHandler σ) (operation : PowerOperation)
    (policy : RetryPolicy) (start rounds : Nat) : Provision σ Unit := do
  match ← (handler.request operation).outcome with
  | .ok _ => return
  | .error error =>
      if error.isStillCreating then
        Provision.pause policy.initialRetrySpan (handler.action operation)
        if start + policy.initialRequestTimeout ≤ (← Provision.now) then
          throw (.timeout (handler.action operation))
        handler.requestRounds operation policy start rounds
      else throw (.ofRemote (handler.action operation) error)

namespace Program

variable {α β : Type}

/-- A program begins with a step. The step has a label and passes over some failures. -/
inductive Step (program : Build α) : String → (RemoteError → Bool) → Prop where
  /-- A plain call passes over no failure. -/
  | call (label : String) (request : Request) (rest : request.Answer → Build α)
      (same : program = Build.call label request >>= rest) : Step program label fun _ => false
  /-- In a lineage an identifier that names no disk is taken for an archive. -/
  | lookup (zone : Zone) (id : ResourceId) (rest : Lineage.Verdict → Build α)
      (same : program = Lineage.inspect zone (.disk id) >>= rest) :
      Step program "read disk" RemoteError.isNotFound
  /-- A power operation is requested again while the resource is still being created. -/
  | power (kind : Switchable) (zone : Zone) (id : ResourceId) (operation : PowerOperation)
      (policy : RetryPolicy) (start rounds : Nat) (rest : Unit → Build α)
      (same : program =
        (kind.handler zone id).round operation policy start rounds >>= rest) :
      Step program ((kind.handler zone id).action operation) RemoteError.isStillCreating
  /-- A power operation that is issued again may meet a conflict. -/
  | reissue (kind : Switchable) (zone : Zone) (id : ResourceId) (operation : PowerOperation)
      (rest : Unit → Build α)
      (same : program = Provision.during ((kind.handler zone id).action operation)
        ((kind.handler zone id).reissue operation) >>= rest) :
      Step program ((kind.handler zone id).action operation) RemoteError.isConflict

namespace Step

variable {program : Build α} {label : String} {passes : RemoteError → Bool}

/-- A program that begins with a step still does when another one follows. -/
theorem bind (step : Step program label passes) (continuation : α → Build β) :
    Step (program >>= continuation) label passes := by
  cases step with
  | call label request rest same =>
      exact .call label request _ (by rw [same, bind_assoc])
  | lookup zone id rest same =>
      exact .lookup zone id _ (by rw [same, bind_assoc])
  | power kind zone id operation policy start rounds rest same =>
      exact .power kind zone id operation policy start rounds _ (by rw [same, bind_assoc])
  | reissue kind zone id operation rest same =>
      exact .reissue kind zone id operation _ (by rw [same, bind_assoc])

/-- Two programs that are the same call go on in the same way after a failure. -/
theorem next_error {first : Request} (second : Request)
    {next : Except RemoteError first.Answer → Program CloudService (Except ProvisionError α)}
    {other : Except RemoteError second.Answer → Program CloudService (Except ProvisionError α)}
    (same : (ExceptT.mk (.call first next) : Build α) = ExceptT.mk (.call second other))
    (error : RemoteError) : next (.error error) = other (.error error) := by
  cases same
  rfl

/-- A failure that a step does not pass over ends the program under the label of the step. -/
theorem stops {request : Request}
    {next : Except RemoteError request.Answer → Program CloudService (Except ProvisionError α)}
    (step : Step (ExceptT.mk (.call request next) : Build α) label passes) {error : RemoteError}
    (final : passes error = false) :
    next (.error error) = .done (.error (.ofRemote label error)) := by
  cases step with
  | call label asked rest same => exact next_error asked same error
  | lookup zone id rest same =>
      refine (next_error (.disk zone (.read id)) same error).trans ?_
      change Program.bind (if error.isNotFound then _ else _) _ = _
      rw [final]
      rfl
  | power kind zone id operation policy start rounds rest same =>
      rw [PowerHandler.round, kind.handler_request] at same
      refine (next_error (kind.operate zone id operation) same error).trans ?_
      change Program.bind (if error.isStillCreating then _ else _) _ = _
      rw [final]
      rfl
  | reissue kind zone id operation rest same =>
      rw [PowerHandler.reissue, kind.handler_request] at same
      refine (next_error (kind.operate zone id operation) same error).trans ?_
      change Program.bind (Program.bind (Program.bind (if error.isConflict then _ else _) _) _) _ =
        _
      rw [final]
      rfl

end Step

end Program

end Provisioning
