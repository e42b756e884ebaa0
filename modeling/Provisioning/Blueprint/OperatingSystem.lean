import Provisioning.Blueprint.Basic

/-!
The catalogue of operating systems that a disk can be built from, and the search for their archives.
-/

namespace Provisioning

/-- A custom disk has no public archive; every other system has one that its tags identify. -/
inductive OperatingSystem where
  | custom
  | centOs
  | rockyLinux
  | almaLinux
  | ubuntu
  | debian
  | miracleLinux
  | windows2019
  | windows2022
  | opnSense
  | netwiser
  | sophosUtm
  deriving DecidableEq, Repr, Inhabited

namespace OperatingSystem

def all : List OperatingSystem :=
  [custom, centOs, rockyLinux, almaLinux, ubuntu, debian, miracleLinux, windows2019, windows2022,
    opnSense, netwiser, sophosUtm]

def name : OperatingSystem → String
  | custom => "custom"
  | centOs => "centos"
  | rockyLinux => "rocky-linux"
  | almaLinux => "alma-linux"
  | ubuntu => "ubuntu"
  | debian => "debian"
  | miracleLinux => "miracle-linux"
  | windows2019 => "windows2019"
  | windows2022 => "windows2022"
  | opnSense => "opn-sense"
  | netwiser => "netwiser"
  | sophosUtm => "sophos-utm"

instance : JsonForm OperatingSystem := .ofNames name all

/-- The remote can write settings into the disks of these systems before they boot. -/
def supportsDiskEdit : OperatingSystem → Bool
  | centOs | rockyLinux | almaLinux | ubuntu | debian | miracleLinux => true
  | _ => false

def isWindows : OperatingSystem → Bool
  | windows2019 | windows2022 => true
  | _ => false

def archiveTags : OperatingSystem → List String
  | custom => []
  | centOs => ["current-stable", "distro-centos"]
  | rockyLinux => ["current-stable", "distro-rocky"]
  | almaLinux => ["current-stable", "distro-alma"]
  | ubuntu => ["current-stable", "distro-ubuntu"]
  | debian => ["current-stable", "distro-debian"]
  | miracleLinux => ["current-stable", "distro-miracle"]
  | windows2019 => ["os-windows", "distro-ver-2019"]
  | windows2022 => ["os-windows", "distro-ver-2022"]
  | opnSense => ["distro-opnsense"]
  | netwiser => ["pkg-netwiserve"]
  | sophosUtm => ["pkg-sophosutm"]

/-- The first archive with all tags that can be used is the public archive of the system. -/
def findArchive (zone : Zone) (system : OperatingSystem) : Build Archive := do
  if system.archiveTags.isEmpty then
    throw (.validation "disk" s!"os type {system.name} has no public archive")
  let archives ← Build.call "find archive"
    (.catalogue zone (.findArchives (.withTags system.archiveTags)))
  match archives.find? fun archive => archive.availability == .available with
  | some archive => return archive
  | none =>
      throw (.validation "disk"
        s!"no available archive for os type {system.name} in zone {zone.name}")

end OperatingSystem

end Provisioning
