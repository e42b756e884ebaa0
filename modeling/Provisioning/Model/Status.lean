import Provisioning.Json.Form

/-!
The states that a remote reports for its resources.
-/

namespace Provisioning

/-- The availability of a resource tells whether its storage or configuration can be used. -/
inductive Availability where
  | available
  | uploading
  | migrating
  | transferring
  | failed
  | discontinued
  deriving DecidableEq, Repr, Inhabited

namespace Availability

def all : List Availability :=
  [available, uploading, migrating, transferring, failed, discontinued]

def name : Availability → String
  | available => "available"
  | uploading => "uploading"
  | migrating => "migrating"
  | transferring => "transferring"
  | failed => "failed"
  | discontinued => "discontinued"

instance : JsonForm Availability := .ofNames name all

/-- The remote is still at work on a resource in one of these states. -/
def isTransitional : Availability → Bool
  | uploading | migrating | transferring => true
  | _ => false

end Availability

/-- The run status tells whether an instance runs. -/
inductive RunStatus where
  | up
  | down
  | cleaning
  deriving DecidableEq, Repr

namespace RunStatus

instance : Inhabited RunStatus := ⟨down⟩

def all : List RunStatus := [up, down, cleaning]

def name : RunStatus → String
  | up => "up"
  | down => "down"
  | cleaning => "cleaning"

instance : JsonForm RunStatus := .ofNames name all

/-- This is the word for a status in messages. -/
def word : RunStatus → String
  | up => "Up"
  | down => "Down"
  | cleaning => "Cleaning"

end RunStatus

/-- A record with a life cycle has an availability, and a run status if it can be booted. -/
class Lifecycle (ρ : Type) where
  availability : ρ → Availability
  runStatus : ρ → Option RunStatus := fun _ => none

/-- A search names tags that a match must carry and fragments that its name must contain. -/
structure FindCondition where
  tags : List String
  names : List String
  deriving DecidableEq, Repr, Inhabited

def FindCondition.withTags (tags : List String) : FindCondition := ⟨tags, []⟩

def FindCondition.fields : FieldList FindCondition FindCondition :=
  FieldList.start FindCondition.mk
  |>.field "tags" FindCondition.tags
  |>.field "names" FindCondition.names

instance : JsonForm FindCondition := .ofFields FindCondition.fields

end Provisioning
