import Provisioning.Blueprint.Basic
import Provisioning.Text.GeneratedName

/-!
Settings that are written into a disk before its system boots, the keys and notes that come into
being for them, and their disposal afterwards.
-/

namespace Provisioning

/-- A key pair can be generated under a given name or under a generated one. -/
structure KeyGeneration where
  name : Option String
  description : String
  passPhrase : Option String
  deriving DecidableEq, Repr, Inhabited

def KeyGeneration.request (generation : KeyGeneration) : SshKeyGenerateRequest where
  name := generation.name.getD Text.generatedName
  description := generation.description
  passPhrase := generation.passPhrase

/-- The settings of a Unix system include a static address, keys, and scripts for the first boot. -/
structure UnixEdit where
  hostName : Option String
  password : Option String
  disablePwAuth : Bool
  enableDhcp : Bool
  changePartitionUuid : Bool
  ipAddress : Option Ipv4
  networkMaskLen : Option UInt8
  defaultRoute : Option Ipv4
  sshKeys : List String
  sshKeyIds : List ResourceId
  generateSshKey : Option KeyGeneration
  isSshKeysEphemeral : Bool
  notes : List DiskEditNote
  noteContents : List String
  isNotesEphemeral : Bool
  deriving DecidableEq, Inhabited

/-- The artifacts of an edit are the keys and notes made for it, with the fate of each kind. -/
structure Artifacts where
  generatedKey : Option GeneratedSshKey
  deleteKey : Bool
  noteIds : List ResourceId
  deleteNotes : Bool
  deriving DecidableEq, Repr

namespace Artifacts

def none : Artifacts := ⟨Option.none, false, [], false⟩

/-- Ephemeral artifacts are deleted, and the private key is handed over in any case. -/
def dispose (artifacts : Artifacts) : Build (Option String) := do
  if artifacts.deleteKey then
    if let some key := artifacts.generatedKey then
      Build.call "delete generated SSH key" (.credential (.deleteSshKey key.id))
  if artifacts.deleteNotes then
    artifacts.noteIds.forM fun id => Build.call "delete note" (.credential (.deleteNote id))
  return artifacts.generatedKey.map GeneratedSshKey.privateKey

end Artifacts

namespace UnixEdit

/-- These rules need no look at the remote. -/
def check (edit : UnixEdit) : Check := do
  Check.require "disk" (!(edit.isSshKeysEphemeral && edit.generateSshKey.isNone))
    "ephemeral SSH keys require a key to be generated"
  Check.require "disk" (edit.ipAddress.isSome == edit.networkMaskLen.isSome)
    "static address and network mask length must be set together"
  Check.require "disk" (!(edit.defaultRoute.isSome && edit.ipAddress.isNone))
    "default route requires a static address"

/-- Every key and note that the edit refers to has to exist. -/
def validate (edit : UnixEdit) : Build Unit := do
  edit.check
  edit.sshKeyIds.forM fun id => do
    let _ ← Build.call "read SSH key" (.credential (.readSshKey id))
  edit.notes.forM fun note => do
    let _ ← Build.call "read note" (.credential (.readNote note.id))

/-- A subnet is written only when both its route and its mask length are given. -/
def subnet (edit : UnixEdit) : Option EditUserSubnet :=
  match edit.defaultRoute, edit.networkMaskLen with
  | some defaultRoute, some networkMaskLen => some { defaultRoute, networkMaskLen }
  | _, _ => none

/-- This request has all settings that are known before keys and notes are made. -/
def declared (edit : UnixEdit) : DiskEditRequest where
  hostName := edit.hostName
  password := edit.password
  disablePwAuth := edit.disablePwAuth
  enableDhcp := edit.enableDhcp
  changePartitionUuid := edit.changePartitionUuid
  userIpAddress := edit.ipAddress
  userSubnet := edit.subnet
  sshKeys := edit.sshKeys
  sshKeyIds := edit.sshKeyIds
  notes := edit.notes

def generateKey (edit : UnixEdit) : Build (Option GeneratedSshKey) :=
  match edit.generateSshKey with
  | none => return none
  | some generation => do
      let key ← Build.call "generate SSH key" (.credential (.generateSshKey generation.request))
      return some key

def createNote (content : String) : Build ResourceId := do
  let note ← Build.call "create note"
    (.credential (.createNote { name := Text.generatedName, content, tags := [] }))
  return note.id

/-- New keys and notes come after those that the edit names. -/
def prepare (edit : UnixEdit) : Build (DiskEditRequest × Artifacts) := do
  let generatedKey ← edit.generateKey
  let noteIds ← edit.noteContents.mapM createNote
  let request : DiskEditRequest :=
    { edit.declared with
      sshKeyIds := edit.sshKeyIds ++ (generatedKey.map GeneratedSshKey.id).toList
      notes := edit.notes ++ noteIds.map fun id => { id, bindings := .empty } }
  return (request,
    { generatedKey
      deleteKey := edit.isSshKeysEphemeral
      noteIds
      deleteNotes := edit.isNotesEphemeral })

end UnixEdit

/-- The settings of a Windows system are those of its network. -/
structure WindowsEdit where
  ipAddress : Ipv4
  networkMaskLen : UInt8
  defaultRoute : Ipv4
  deriving DecidableEq, Repr, Inhabited

def WindowsEdit.request (edit : WindowsEdit) : DiskEditRequest :=
  { (default : DiskEditRequest) with
    userIpAddress := some edit.ipAddress
    userSubnet := some
      { defaultRoute := edit.defaultRoute, networkMaskLen := edit.networkMaskLen } }

end Provisioning
