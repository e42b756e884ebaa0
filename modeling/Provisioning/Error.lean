import Provisioning.Identifier

/-!
What can go wrong: failures that a remote reports, and the failures of a provisioning run that they
turn into.
-/

namespace Provisioning

/-- A remote call fails because a thing is missing, because it is refused, or in transport. -/
inductive RemoteError where
  | notFound (resource id : String)
  | api (status : UInt16) (code message : String)
  | transport (message : String)
  deriving DecidableEq, Repr, Inhabited

namespace RemoteError

def conflictStatus : UInt16 := 409

def missingStatus : UInt16 := 404

/-- A conflict with this code says that a new resource is not ready for the request yet. -/
def stillCreatingCode : String := "still_creating"

def missing (resource : String) (id : ResourceId) : RemoteError := .notFound resource id.text

def conflict (code message : String) : RemoteError := .api conflictStatus code message

/-- This is the refusal of a resource that is still being created. -/
def stillCreating : RemoteError := conflict stillCreatingCode "resource is still being created"

/-- A thing is missing whether the remote says so by name or by status. -/
def isNotFound : RemoteError → Bool
  | .notFound .. => true
  | .api status .. => status == missingStatus
  | .transport _ => false

def isConflict : RemoteError → Bool
  | .api status .. => status == conflictStatus
  | _ => false

def isStillCreating : RemoteError → Bool
  | .api status code _ => status == conflictStatus && code == stillCreatingCode
  | _ => false

def message : RemoteError → String
  | .notFound resource id => s!"{resource} {id} not found"
  | .api status code message =>
      s!"API error (HTTP {status.toNat}, code {code}): {message}"
  | .transport message => s!"transport error: {message}"

end RemoteError

/-- A configuration is rejected for a value, or cannot be read at all. -/
inductive ConfigError where
  | invalid (message : String)
  | unreadable (message : String)
  deriving DecidableEq, Repr, Inhabited

def ConfigError.message : ConfigError → String
  | .invalid message => s!"invalid configuration value: {message}"
  | .unreadable message => s!"configuration parsing failed: {message}"

/-- A run ends early when it checks its input, meets a bad state, or runs out of time or luck. -/
inductive ProvisionError where
  | validation (resource message : String)
  | notFound (resource id : String)
  | invalidState (resource id message : String)
  | timeout (action : String)
  | deadlineExceeded (action : String)
  | cancelled (action : String)
  | remote (operation : String) (source : RemoteError)
  | config (source : ConfigError)
  deriving DecidableEq, Repr, Inhabited

namespace ProvisionError

/-- A missing thing stays a missing thing, and every other failure keeps its operation. -/
def ofRemote (operation : String) : RemoteError → ProvisionError
  | .notFound resource id => .notFound resource id
  | error => .remote operation error

def message : ProvisionError → String
  | .validation resource message => s!"invalid {resource} parameters: {message}"
  | .notFound resource id => s!"{resource} {id} not found"
  | .invalidState resource id message => s!"invalid state of {resource} {id}: {message}"
  | .timeout action => s!"timed out waiting for {action}: deadline exceeded"
  | .deadlineExceeded action => s!"context deadline exceeded during {action}"
  | .cancelled action => s!"cancelled during {action}"
  | .remote operation source => s!"{operation} failed: {source.message}"
  | .config source => source.message

def isNotFound : ProvisionError → Bool
  | .notFound .. => true
  | .remote _ source => source.isNotFound
  | _ => false

/-- Both the end of a budget and the end of a context count as a passed deadline. -/
def isDeadlineExceeded : ProvisionError → Bool
  | .timeout _ => true
  | .deadlineExceeded _ => true
  | _ => false

def isTimeout : ProvisionError → Bool
  | .timeout _ => true
  | _ => false

def isCancelled : ProvisionError → Bool
  | .cancelled _ => true
  | _ => false

end ProvisionError

end Provisioning
