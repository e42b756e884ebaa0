import Provisioning.Blueprint.Basic
import Provisioning.Text.Fragment

/-!
The lineage of a disk: the chain of disks and archives that it was copied from. The lineage decides
whether settings of the operating system can be written into the disk. The walk reads each disk and
each archive at most once.
-/

namespace Provisioning.Lineage

/-- The walk looks at an identifier as a disk or as an archive. -/
inductive Node where
  | disk (id : ResourceId)
  | archive (id : ResourceId)
  deriving DecidableEq, Repr

namespace Node

def resource : Node → String
  | disk _ => "disk"
  | archive _ => "archive"

def id : Node → ResourceId
  | disk id => id
  | archive id => id

end Node

/-- A record decides whether edits are supported, or leaves the decision to one of its sources. -/
inductive Verdict where
  | editable (supported : Bool)
  | follow (source : Node)
  deriving DecidableEq, Repr

def selfSourced (resource : String) (id : ResourceId) : ProvisionError :=
  .invalidState resource id.text s!"{resource} names itself as its source"

/-- A disk without a source was never copied from an image and cannot be edited. -/
def judgeDisk (disk : Disk) : Except ProvisionError Verdict :=
  if disk.id = disk.sourceDiskId ∨ disk.id = disk.sourceArchiveId then
    .error (selfSourced "disk" disk.id)
  else if !disk.sourceDiskId.isUnset then .ok (.follow (.disk disk.sourceDiskId))
  else if !disk.sourceArchiveId.isUnset then .ok (.follow (.archive disk.sourceArchiveId))
  else .ok (.editable false)

/-- A licence for one of these products excludes edits. -/
def isExcludedBundle (bundle : BundleInfo) : Bool :=
  bundle.hostClass == "ms_windows" ||
    Text.hasFragment (bundle.serviceClass.map Char.toLower) "sophosutm"

/-- These images are known to the remote as not editable. -/
def isExcluded (archive : Archive) : Bool :=
  archive.bundleInfo.any isExcludedBundle ||
    ["pkg-sophosutm", "distro-opnsense", "pkg-netwiserve"].any (hasTag archive.tags)

def hasEditableSystem (archive : Archive) : Bool :=
  ["os-unix", "os-linux"].any (hasTag archive.tags)

/-- A source that is discontinued is not followed. -/
def judgeArchive (archive : Archive) : Except ProvisionError Verdict :=
  if archive.id = archive.sourceDiskId ∨ archive.id = archive.sourceArchiveId then
    .error (selfSourced "archive" archive.id)
  else if isExcluded archive then .ok (.editable false)
  else if hasEditableSystem archive then .ok (.editable true)
  else if !archive.sourceDiskId.isUnset && archive.sourceDiskAvailability != .discontinued then
    .ok (.follow (.disk archive.sourceDiskId))
  else if !archive.sourceArchiveId.isUnset &&
      archive.sourceArchiveAvailability != .discontinued then
    .ok (.follow (.archive archive.sourceArchiveId))
  else .ok (.editable false)

/-- An identifier that names no disk is taken for an archive. -/
def inspect (zone : Zone) : Node → Build Verdict
  | .disk id => do
      match ← (Build.attempt (.disk zone (.read id))).outcome with
      | .ok disk => judgeDisk disk
      | .error error =>
          if error.isNotFound then return .follow (.archive id)
          else throw (.ofRemote "read disk" error)
  | .archive id => do
      let archive ← Build.call "read archive" (.catalogue zone (.readArchive id))
      judgeArchive archive

/-- A chain that comes back to a record is in an invalid state. -/
def loopError (start : ResourceId) (node : Node) : ProvisionError :=
  .invalidState node.resource node.id.text
    s!"source chain of {start.text} loops back to {node.resource} {node.id.text}"

/-- Each identifier names at most one disk and one archive. -/
def nodeCount : Nat := 2 * UInt64.size

/-- The number of steps left is never exhausted, because no record is inspected twice. -/
def walk (zone : Zone) (start : ResourceId) : Nat → List Node → Node → Build Bool
  | 0, _, node => throw (loopError start node)
  | steps + 1, visited, node => do
      Provision.check "resolve disk source"
      if node ∈ visited then throw (loopError start node)
      match ← inspect zone node with
      | .editable supported => return supported
      | .follow source => walk zone start steps (node :: visited) source

/-- This program tells whether the disk or archive derives from an image that can be edited. -/
def canEdit (zone : Zone) (id : ResourceId) : Build Bool :=
  walk zone id (nodeCount + 1) [] (.disk id)

end Provisioning.Lineage
