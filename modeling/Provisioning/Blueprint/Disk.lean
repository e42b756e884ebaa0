import Provisioning.Blueprint.Disk.Edit
import Provisioning.Blueprint.OperatingSystem
import Provisioning.Lineage

/-!
Blueprints of disks. A disk is copied from a public archive, copied from another disk or archive,
left blank, or exists already and is only connected.
-/

namespace Provisioning

/-- Every kind of disk has metadata, a plan and a size. -/
structure DiskSpec extends Metadata where
  id : ResourceId
  planId : ResourceId
  connection : DiskConnection
  sizeGb : UInt32
  distantFrom : List ResourceId
  deriving DecidableEq, Repr, Inhabited

namespace DiskSpec

/-- The size has to be one that the plan offers. -/
def validate (zone : Zone) (spec : DiskSpec) : Build Unit := do
  Check.requireNonBlank "disk" "name" spec.name
  Check.requireSet "disk" "plan" spec.planId
  let plan ← Build.call "read disk plan" (.catalogue zone (.readDiskPlan spec.planId))
  Check.require "disk" (plan.offers spec.sizeGb)
    s!"size {spec.sizeGb.toNat} GiB is not available for plan {plan.name}"

def createRequest (spec : DiskSpec) (serverId sourceDiskId sourceArchiveId : ResourceId) :
    DiskCreateRequest where
  planId := spec.planId
  connection := spec.connection
  sourceDiskId := sourceDiskId
  sourceArchiveId := sourceArchiveId
  serverId := serverId
  sizeGb := spec.sizeGb
  name := spec.name
  description := spec.description
  tags := spec.tags
  iconId := spec.iconId

def updateRequest (spec : DiskSpec) : DiskUpdateRequest where
  name := spec.name
  description := spec.description
  tags := spec.tags
  iconId := spec.iconId
  connection := spec.connection

end DiskSpec

/-- The kinds of disks differ in where their contents come from. -/
inductive DiskBlueprint where
  | unix (spec : DiskSpec) (system : OperatingSystem) (edit : UnixEdit)
  | windows (spec : DiskSpec) (system : OperatingSystem) (edit : Option WindowsEdit)
  | fixedArchive (spec : DiskSpec) (system : OperatingSystem)
  | copied (spec : DiskSpec) (sourceDiskId sourceArchiveId : ResourceId) (edit : Option UnixEdit)
  | blank (spec : DiskSpec)
  | connected (spec : DiskSpec) (diskId : ResourceId)
  deriving DecidableEq, Inhabited

namespace DiskBlueprint

def spec : DiskBlueprint → DiskSpec
  | unix spec .. => spec
  | windows spec .. => spec
  | fixedArchive spec _ => spec
  | copied spec .. => spec
  | blank spec => spec
  | connected spec _ => spec

/-- A copy has exactly one source. -/
def sourceOf (sourceDiskId sourceArchiveId : ResourceId) : Except ProvisionError Lineage.Node :=
  match sourceDiskId.isUnset, sourceArchiveId.isUnset with
  | false, true => .ok (.disk sourceDiskId)
  | true, false => .ok (.archive sourceArchiveId)
  | false, false =>
      Check.reject "disk" "source disk and source archive are mutually exclusive"
  | true, true => Check.reject "disk" "a source disk or source archive is required"

def readSource (zone : Zone) : Lineage.Node → Build Unit
  | .disk id => do
      let _ ← Build.call "read source disk" (.disk zone (.read id))
  | .archive id => do
      let _ ← Build.call "read source archive" (.catalogue zone (.readArchive id))

/-- An edited copy needs a source whose lineage supports edits. -/
def validateCopyEdit (zone : Zone) (source : ResourceId) (edit : UnixEdit) : Build Unit := do
  let supported ← Lineage.canEdit zone source
  Check.require "disk" supported s!"source {source.text} does not support disk edit"
  edit.validate

/-- A validation only looks. -/
def validate (zone : Zone) : DiskBlueprint → Build Unit
  | unix spec system edit => do
      spec.validate zone
      Check.require "disk" system.supportsDiskEdit
        s!"os type {system.name} does not support disk edit"
      let _ ← system.findArchive zone
      edit.validate
  | windows spec system _ => do
      spec.validate zone
      Check.require "disk" system.isWindows s!"os type {system.name} is not a Windows edition"
      let _ ← system.findArchive zone
  | fixedArchive spec system => do
      spec.validate zone
      let _ ← system.findArchive zone
  | copied spec sourceDiskId sourceArchiveId edit => do
      spec.validate zone
      let source ← sourceOf sourceDiskId sourceArchiveId
      readSource zone source
      match edit with
      | none => return
      | some edit => validateCopyEdit zone source.id edit
  | blank spec => spec.validate zone
  | connected _ diskId => do
      Check.requireSet "disk" "disk id" diskId
      let _ ← Build.call "read disk" (.disk zone (.read diskId))

/-- A creation has its request, its edit, and the artifacts of the edit. -/
structure Creation where
  request : DiskCreateRequest
  edit : Option DiskEditRequest
  artifacts : Artifacts

/-- Artifacts come into being here, before the disk does. An existing disk is not created. -/
def prepare (zone : Zone) (serverId : ResourceId) : DiskBlueprint → Build (Option Creation)
  | unix spec system edit => do
      let archive ← system.findArchive zone
      let (request, artifacts) ← edit.prepare
      return some ⟨spec.createRequest serverId .unset archive.id, some request, artifacts⟩
  | windows spec system edit => do
      let archive ← system.findArchive zone
      return some ⟨spec.createRequest serverId .unset archive.id, edit.map WindowsEdit.request,
        .none⟩
  | fixedArchive spec system => do
      let archive ← system.findArchive zone
      return some ⟨spec.createRequest serverId .unset archive.id, none, .none⟩
  | copied spec sourceDiskId sourceArchiveId none =>
      return some ⟨spec.createRequest serverId sourceDiskId sourceArchiveId, none, .none⟩
  | copied spec sourceDiskId sourceArchiveId (some edit) => do
      let (request, artifacts) ← edit.prepare
      return some ⟨spec.createRequest serverId sourceDiskId sourceArchiveId, some request,
        artifacts⟩
  | blank spec => return some ⟨spec.createRequest serverId .unset .unset, none, .none⟩
  | connected .. => return none

/-- A disk is ready when its copy is finished. -/
def awaitReady (zone : Zone) (id : ResourceId) (timing : Timing) : Build Unit := do
  let _ ← Wait.untilReady "disk" id (Build.attempt (.disk zone (.read id))) timing.wait

/-- A disk with an edit is created and edited in one call. -/
def create (zone : Zone) (spec : DiskSpec) (creation : Creation) : Build Disk :=
  match creation.edit with
  | some edit =>
      Build.call "create disk"
        (.disk zone (.createWithConfig creation.request edit false spec.distantFrom))
  | none => Build.call "create disk" (.disk zone (.create creation.request spec.distantFrom))

/-- An existing disk is connected only when there is a server to connect it to. -/
def connect (zone : Zone) (diskId serverId : ResourceId) : Build BuildResult := do
  if !serverId.isUnset then
    Build.call "connect disk to server" (.disk zone (.connectToServer diskId serverId))
  return .ofId diskId

/-- The existing disk is the connected one or the one that the blueprint names. -/
def targetId : DiskBlueprint → ResourceId
  | connected _ diskId => diskId
  | blueprint => blueprint.spec.id

/-- A build validates, creates the disk, waits for it, and disposes of its artifacts. -/
def build (zone : Zone) (serverId : ResourceId) (timing : Timing) (blueprint : DiskBlueprint) :
    Build BuildResult := do
  blueprint.validate zone
  match ← blueprint.prepare zone serverId with
  | none => connect zone blueprint.targetId serverId
  | some creation =>
      let created ← create zone blueprint.spec creation
      awaitReady zone created.id timing
      let generatedSshPrivateKey ← creation.artifacts.dispose
      return { id := created.id, generatedSshPrivateKey }

/-- The edit of a Unix disk is written into the existing disk once more. -/
def reapply (zone : Zone) (id : ResourceId) (timing : Timing) (edit : UnixEdit) :
    Build (Option String) := do
  let (request, artifacts) ← edit.prepare
  Build.call "edit disk" (.disk zone (.config id request))
  awaitReady zone id timing
  artifacts.dispose

def update (zone : Zone) (timing : Timing) (blueprint : DiskBlueprint) : Build BuildResult := do
  let id := blueprint.targetId
  Check.requireSet "disk" "id" id
  let _ ← Build.call "update disk" (.disk zone (.update id blueprint.spec.updateRequest))
  match blueprint with
  | unix _ _ edit => return { id, generatedSshPrivateKey := ← reapply zone id timing edit }
  | _ => return .ofId id

end DiskBlueprint

/-- A flat request leaves it to its fields which kind of disk is meant. -/
structure DiskRequest where
  spec : DiskSpec
  system : OperatingSystem
  diskId : ResourceId
  sourceDiskId : ResourceId
  sourceArchiveId : ResourceId
  unixEdit : Option UnixEdit
  windowsEdit : Option WindowsEdit
  deriving DecidableEq, Inhabited

/-- The names of the kinds are part of the interface. -/
inductive DiskKind where
  | unix
  | windows
  | fixedArchive
  | copied
  | blank
  | connected
  deriving DecidableEq, Repr

def DiskKind.name : DiskKind → String
  | unix => "FromUnix"
  | windows => "FromWindows"
  | fixedArchive => "FromFixedArchive"
  | copied => "FromDiskOrArchive"
  | blank => "Blank"
  | connected => "Connected"

def DiskBlueprint.kind : DiskBlueprint → DiskKind
  | unix .. => .unix
  | windows .. => .windows
  | fixedArchive .. => .fixedArchive
  | copied .. => .copied
  | blank _ => .blank
  | connected .. => .connected

namespace DiskRequest

/-- The operating system decides first, then an existing disk, then a source. -/
def kind (request : DiskRequest) : DiskKind :=
  if request.system = .custom then
    if !request.diskId.isUnset then .connected
    else if !request.sourceDiskId.isUnset || !request.sourceArchiveId.isUnset then .copied
    else .blank
  else if request.system.supportsDiskEdit then .unix
  else if request.system.isWindows then .windows
  else .fixedArchive

def blueprint (request : DiskRequest) : DiskBlueprint :=
  match request.kind with
  | .unix => .unix request.spec request.system (request.unixEdit.getD default)
  | .windows => .windows request.spec request.system request.windowsEdit
  | .fixedArchive => .fixedArchive request.spec request.system
  | .copied =>
      .copied request.spec request.sourceDiskId request.sourceArchiveId request.unixEdit
  | .blank => .blank request.spec
  | .connected => .connected request.spec request.diskId

end DiskRequest

end Provisioning
