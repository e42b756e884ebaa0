import Provisioning.Power
import Provisioning.Remote.Request
import Provisioning.Text.Blank

/-!
What all blueprints share: the metadata of a resource, the result of a build, the checks of a
declared field, and single calls to the cloud. A blueprint declares a resource. It can be validated,
which only looks; built, which validates first; and applied to an existing resource.
-/

namespace Provisioning

/-- A resource has a name, a description, tags and an icon. -/
structure Metadata where
  name : String
  description : String
  tags : List Tag
  iconId : ResourceId
  deriving DecidableEq, Repr, Inhabited

/-- A build answers the identifier of the resource, and the private key if one was generated. -/
structure BuildResult where
  id : ResourceId
  generatedSshPrivateKey : Option String
  deriving DecidableEq, Repr

def BuildResult.ofId (id : ResourceId) : BuildResult := ⟨id, none⟩

/-- A build is a provisioning program on the endpoints of a cloud. -/
abbrev Build (α : Type) : Type := Provision CloudService α

namespace Build

def attempt (request : Request) : Attempt CloudService request.Answer :=
  @Attempt.request CloudService request

/-- This step makes one call to the cloud, and its failure carries the label. -/
def call (label : String) (request : Request) : Build request.Answer :=
  Provision.during label (attempt request)

end Build

/-- A check fails with a validation error or says nothing. -/
abbrev Check : Type := Except ProvisionError Unit

namespace Check

def reject {α : Type} (resource message : String) : Except ProvisionError α :=
  .error (.validation resource message)

def require (resource : String) (condition : Bool) (message : String) : Check :=
  if condition then .ok () else reject resource message

def requireNonBlank (resource field value : String) : Check :=
  require resource (!Text.isBlank value) s!"{field} must not be empty"

def requireSet (resource field : String) (id : ResourceId) : Check :=
  require resource (!id.isUnset) s!"{field} must be set"

end Check

/-- The first duplicate is the first item that is equal to an earlier one. -/
def firstDuplicateAfter {α : Type} [DecidableEq α] : List α → List α → Option α
  | _, [] => none
  | seen, item :: rest => if item ∈ seen then some item else firstDuplicateAfter (item :: seen) rest

def firstDuplicate {α : Type} [DecidableEq α] (items : List α) : Option α :=
  firstDuplicateAfter [] items

/-- The mask of a subnet has between one and thirty-two bits. -/
def isMaskLength (length : UInt8) : Bool := 1 ≤ length.toNat && length.toNat ≤ 32

end Provisioning
