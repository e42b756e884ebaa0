import Provisioning.Model.Status

/-!
Keys that open servers and notes that run when a server starts for the first time.
-/

namespace Provisioning

structure SshKey where
  id : ResourceId
  name : String
  publicKey : String
  deriving DecidableEq, Repr, Inhabited

def SshKey.fields : FieldList SshKey SshKey :=
  FieldList.start SshKey.mk
  |>.field "id" SshKey.id
  |>.field "name" SshKey.name
  |>.field "public_key" SshKey.publicKey

instance : JsonForm SshKey := .ofFields SshKey.fields

/-- A key pair can be generated with a phrase that protects its private half. -/
structure SshKeyGenerateRequest where
  name : String
  description : String
  passPhrase : Option String
  deriving DecidableEq, Repr, Inhabited

def SshKeyGenerateRequest.fields : FieldList SshKeyGenerateRequest SshKeyGenerateRequest :=
  FieldList.start SshKeyGenerateRequest.mk
  |>.field "name" SshKeyGenerateRequest.name
  |>.field "description" SshKeyGenerateRequest.description
  |>.field "pass_phrase" SshKeyGenerateRequest.passPhrase

instance : JsonForm SshKeyGenerateRequest := .ofFields SshKeyGenerateRequest.fields

/-- The private half of a generated pair is answered once and stored nowhere. -/
structure GeneratedSshKey where
  id : ResourceId
  publicKey : String
  privateKey : String
  deriving DecidableEq, Repr, Inhabited

def GeneratedSshKey.fields : FieldList GeneratedSshKey GeneratedSshKey :=
  FieldList.start GeneratedSshKey.mk
  |>.field "id" GeneratedSshKey.id
  |>.field "public_key" GeneratedSshKey.publicKey
  |>.field "private_key" GeneratedSshKey.privateKey

instance : JsonForm GeneratedSshKey := .ofFields GeneratedSshKey.fields

/-- A note is a startup script. -/
structure Note where
  id : ResourceId
  name : String
  content : String
  deriving DecidableEq, Repr, Inhabited

def Note.fields : FieldList Note Note :=
  FieldList.start Note.mk
  |>.field "id" Note.id
  |>.field "name" Note.name
  |>.field "content" Note.content

instance : JsonForm Note := .ofFields Note.fields

structure NoteCreateRequest where
  name : String
  content : String
  tags : List Tag
  deriving DecidableEq, Repr, Inhabited

def NoteCreateRequest.fields : FieldList NoteCreateRequest NoteCreateRequest :=
  FieldList.start NoteCreateRequest.mk
  |>.field "name" NoteCreateRequest.name
  |>.field "content" NoteCreateRequest.content
  |>.field "tags" NoteCreateRequest.tags

instance : JsonForm NoteCreateRequest := .ofFields NoteCreateRequest.fields

end Provisioning
