import Provisioning.Model.Status

/-!
Disks, the archives they are copied from, their plans, and the requests about them.
-/

namespace Provisioning

/-- A disk is attached through a virtual or an emulated bus. -/
inductive DiskConnection where
  | virtio
  | ide
  deriving DecidableEq, Repr, Inhabited

def DiskConnection.name : DiskConnection → String
  | virtio => "virtio"
  | ide => "ide"

instance : JsonForm DiskConnection := .ofNames DiskConnection.name [.virtio, .ide]

/-- A disk may be a copy of another disk or of an archive and may belong to a server. -/
structure Disk where
  id : ResourceId
  name : String
  description : String
  tags : List Tag
  iconId : ResourceId
  availability : Availability
  planId : ResourceId
  sizeGb : UInt32
  connection : DiskConnection
  sourceDiskId : ResourceId
  sourceArchiveId : ResourceId
  serverId : ResourceId
  deriving DecidableEq, Repr, Inhabited

def Disk.fields : FieldList Disk Disk :=
  FieldList.start Disk.mk
  |>.field "id" Disk.id
  |>.field "name" Disk.name
  |>.field "description" Disk.description
  |>.field "tags" Disk.tags
  |>.field "icon_id" Disk.iconId
  |>.field "availability" Disk.availability
  |>.field "plan_id" Disk.planId
  |>.field "size_gb" Disk.sizeGb
  |>.field "connection" Disk.connection
  |>.field "source_disk_id" Disk.sourceDiskId
  |>.field "source_archive_id" Disk.sourceArchiveId
  |>.field "server_id" Disk.serverId

instance : JsonForm Disk := .ofFields Disk.fields

instance : Lifecycle Disk where
  availability := Disk.availability

/-- Licensed images name the host and the service that their licence covers. -/
structure BundleInfo where
  hostClass : String
  serviceClass : String
  deriving DecidableEq, Repr, Inhabited

def BundleInfo.fields : FieldList BundleInfo BundleInfo :=
  FieldList.start BundleInfo.mk
  |>.field "host_class" BundleInfo.hostClass
  |>.field "service_class" BundleInfo.serviceClass

instance : JsonForm BundleInfo := .ofFields BundleInfo.fields

/-- An archive is a disk image with the sources it was taken from. -/
structure Archive where
  id : ResourceId
  name : String
  tags : List Tag
  availability : Availability
  sizeGb : UInt32
  bundleInfo : Option BundleInfo
  sourceDiskId : ResourceId
  sourceDiskAvailability : Availability
  sourceArchiveId : ResourceId
  sourceArchiveAvailability : Availability
  deriving DecidableEq, Repr, Inhabited

def Archive.fields : FieldList Archive Archive :=
  FieldList.start Archive.mk
  |>.field "id" Archive.id
  |>.field "name" Archive.name
  |>.field "tags" Archive.tags
  |>.field "availability" Archive.availability
  |>.field "size_gb" Archive.sizeGb
  |>.field "bundle_info" Archive.bundleInfo
  |>.field "source_disk_id" Archive.sourceDiskId
  |>.field "source_disk_availability" Archive.sourceDiskAvailability
  |>.field "source_archive_id" Archive.sourceArchiveId
  |>.field "source_archive_availability" Archive.sourceArchiveAvailability

instance : JsonForm Archive := .ofFields Archive.fields

instance : Lifecycle Archive where
  availability := Archive.availability

/-- A plan lists sizes, each of which can be ordered or not. -/
structure DiskPlanSize where
  sizeGb : UInt32
  availability : Availability
  deriving DecidableEq, Repr, Inhabited

def DiskPlanSize.fields : FieldList DiskPlanSize DiskPlanSize :=
  FieldList.start DiskPlanSize.mk
  |>.field "size_gb" DiskPlanSize.sizeGb
  |>.field "availability" DiskPlanSize.availability

instance : JsonForm DiskPlanSize := .ofFields DiskPlanSize.fields

structure DiskPlan where
  id : ResourceId
  name : String
  sizes : List DiskPlanSize
  deriving DecidableEq, Repr, Inhabited

def DiskPlan.fields : FieldList DiskPlan DiskPlan :=
  FieldList.start DiskPlan.mk
  |>.field "id" DiskPlan.id
  |>.field "name" DiskPlan.name
  |>.field "sizes" DiskPlan.sizes

instance : JsonForm DiskPlan := .ofFields DiskPlan.fields

/-- A plan offers a size when the size is listed and can be ordered. -/
def DiskPlan.offers (plan : DiskPlan) (sizeGb : UInt32) : Bool :=
  plan.sizes.any fun size => size.sizeGb == sizeGb && size.availability == .available

structure DiskCreateRequest where
  planId : ResourceId
  connection : DiskConnection
  sourceDiskId : ResourceId
  sourceArchiveId : ResourceId
  serverId : ResourceId
  sizeGb : UInt32
  name : String
  description : String
  tags : List Tag
  iconId : ResourceId
  deriving DecidableEq, Repr, Inhabited

def DiskCreateRequest.fields : FieldList DiskCreateRequest DiskCreateRequest :=
  FieldList.start DiskCreateRequest.mk
  |>.field "plan_id" DiskCreateRequest.planId
  |>.field "connection" DiskCreateRequest.connection
  |>.field "source_disk_id" DiskCreateRequest.sourceDiskId
  |>.field "source_archive_id" DiskCreateRequest.sourceArchiveId
  |>.field "server_id" DiskCreateRequest.serverId
  |>.field "size_gb" DiskCreateRequest.sizeGb
  |>.field "name" DiskCreateRequest.name
  |>.field "description" DiskCreateRequest.description
  |>.field "tags" DiskCreateRequest.tags
  |>.field "icon_id" DiskCreateRequest.iconId

instance : JsonForm DiskCreateRequest := .ofFields DiskCreateRequest.fields

/-- The subnet of an edited disk has a gateway and a mask length. -/
structure EditUserSubnet where
  defaultRoute : Ipv4
  networkMaskLen : UInt8
  deriving DecidableEq, Repr, Inhabited

def EditUserSubnet.fields : FieldList EditUserSubnet EditUserSubnet :=
  FieldList.start EditUserSubnet.mk
  |>.field "default_route" EditUserSubnet.defaultRoute
  |>.field "network_mask_len" EditUserSubnet.networkMaskLen

instance : JsonForm EditUserSubnet := .ofFields EditUserSubnet.fields

/-- A startup script runs with the values of its variables. -/
structure DiskEditNote where
  id : ResourceId
  bindings : SortedMap String String
  deriving DecidableEq, Inhabited

def DiskEditNote.fields : FieldList DiskEditNote DiskEditNote :=
  FieldList.start DiskEditNote.mk
  |>.field "id" DiskEditNote.id
  |>.field "variables" DiskEditNote.bindings

instance : JsonForm DiskEditNote := .ofFields DiskEditNote.fields

/-- An edit writes settings of the operating system into a disk. -/
structure DiskEditRequest where
  hostName : Option String
  password : Option String
  disablePwAuth : Bool
  enableDhcp : Bool
  changePartitionUuid : Bool
  userIpAddress : Option Ipv4
  userSubnet : Option EditUserSubnet
  sshKeys : List String
  sshKeyIds : List ResourceId
  notes : List DiskEditNote
  deriving DecidableEq, Inhabited

def DiskEditRequest.fields : FieldList DiskEditRequest DiskEditRequest :=
  FieldList.start DiskEditRequest.mk
  |>.field "host_name" DiskEditRequest.hostName
  |>.field "password" DiskEditRequest.password
  |>.field "disable_pw_auth" DiskEditRequest.disablePwAuth
  |>.field "enable_dhcp" DiskEditRequest.enableDhcp
  |>.field "change_partition_uuid" DiskEditRequest.changePartitionUuid
  |>.field "user_ip_address" DiskEditRequest.userIpAddress
  |>.field "user_subnet" DiskEditRequest.userSubnet
  |>.field "ssh_keys" DiskEditRequest.sshKeys
  |>.field "ssh_key_ids" DiskEditRequest.sshKeyIds
  |>.field "notes" DiskEditRequest.notes

instance : JsonForm DiskEditRequest := .ofFields DiskEditRequest.fields

structure DiskUpdateRequest where
  name : String
  description : String
  tags : List Tag
  iconId : ResourceId
  connection : DiskConnection
  deriving DecidableEq, Repr, Inhabited

def DiskUpdateRequest.fields : FieldList DiskUpdateRequest DiskUpdateRequest :=
  FieldList.start DiskUpdateRequest.mk
  |>.field "name" DiskUpdateRequest.name
  |>.field "description" DiskUpdateRequest.description
  |>.field "tags" DiskUpdateRequest.tags
  |>.field "icon_id" DiskUpdateRequest.iconId
  |>.field "connection" DiskUpdateRequest.connection

instance : JsonForm DiskUpdateRequest := .ofFields DiskUpdateRequest.fields

end Provisioning
