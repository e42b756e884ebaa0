import Provisioning.Remote.Request

/-!
A cloud held in memory: its records, its counter for identifiers, the reads that new records still
need before they settle, the failures that were announced for its endpoints, and the log of its
calls.
-/

namespace Provisioning

/-- Records are kept by identifier and listed in the order of identifiers. -/
abbrev Records (ρ : Type) : Type := SortedMap ResourceId ρ

/-- The state of a cloud. -/
structure Cloud where
  lastId : UInt64
  settleReads : Nat
  pending : Records Nat
  failures : List (Endpoint × RemoteError)
  calls : List Endpoint
  disks : Records Disk
  diskEdits : Records DiskEditRequest
  archives : Records Archive
  diskPlans : Records DiskPlan
  sshKeys : Records SshKey
  notes : Records Note
  servers : Records Server
  serverPlans : List ServerPlan
  switches : Records Switch
  packetFilters : Records PacketFilter
  cdroms : Records Cdrom
  shutdownForces : List Bool
  databases : Records Database
  databaseParameters : Records (SortedMap String Json)
  vpcRouters : Records VpcRouter
  vpcRouterSwitches : Records (SortedMap UInt8 ResourceId)
  mobileGateways : Records MobileGateway
  mobileGatewaySwitches : Records ResourceId
  mobileGatewayDns : Records MobileGatewayDns
  trafficConfigs : Records TrafficConfig
  sims : Records Sim
  registries : Records ContainerRegistry
  localRouters : Records LocalRouter
  deriving Inhabited

/-- A step of the cloud may fail, and what it wrote before the failure stays. -/
abbrev CloudStep (α : Type) : Type := ExceptT RemoteError (StateM Cloud) α

namespace Cloud

/-- A new cloud is empty, numbers its records from 1001 and settles them on their second read. -/
def empty : Cloud := { (default : Cloud) with lastId := 1000, settleReads := 2 }

/-- At least one read is needed before a record settles. -/
def withSettleReads (cloud : Cloud) (reads : Nat) : Cloud :=
  { cloud with settleReads := max reads 1 }

/-- The cloud never gives an identifier twice. -/
def allocate : CloudStep ResourceId := do
  let cloud ← get
  let lastId := cloud.lastId + 1
  set { cloud with lastId }
  return ⟨lastId⟩

/-- A settings hash is a fresh number of the same counter. -/
def freshHash : CloudStep String := do
  let number ← allocate
  return s!"hash-{number.text}"

/-- A record that is tracked needs some reads before it settles. -/
def track (id : ResourceId) : CloudStep Unit :=
  modify fun cloud => { cloud with pending := cloud.pending.insert id cloud.settleReads }

/-- This step counts one read and tells whether the record has settled. -/
def settle (id : ResourceId) : CloudStep Bool := do
  let cloud ← get
  match cloud.pending.get? id with
  | none => return true
  | some left =>
      if 1 < left then
        set { cloud with pending := cloud.pending.insert id (left - 1) }
        return false
      else
        set { cloud with pending := cloud.pending.erase id }
        return true

/-- A table is one kind of record of the cloud. -/
structure Table (ρ : Type) where
  resource : String
  read : Cloud → Records ρ
  write : Cloud → Records ρ → Cloud

namespace Table

variable {ρ : Type}

/-- This step reads a record or fails because it is missing. -/
def find (table : Table ρ) (id : ResourceId) : CloudStep ρ := do
  match (table.read (← get)).get? id with
  | some record => return record
  | none => throw (.missing table.resource id)

def insert (table : Table ρ) (id : ResourceId) (record : ρ) : CloudStep Unit :=
  modify fun cloud => table.write cloud ((table.read cloud).insert id record)

/-- This step changes a stored record and returns the changed one. -/
def change (table : Table ρ) (id : ResourceId) (change : ρ → ρ) : CloudStep ρ := do
  let record := change (← table.find id)
  table.insert id record
  return record

def remove (table : Table ρ) (id : ResourceId) : CloudStep Unit := do
  let _ ← table.find id
  modify fun cloud => table.write cloud ((table.read cloud).erase id)

/-- This read settles a record whose time has come. -/
def readSettling (table : Table ρ) (id : ResourceId) (settled : ρ → ρ) : CloudStep ρ := do
  let _ ← table.find id
  if ← settle id then table.change id settled else table.find id

end Table

def diskTable : Table Disk :=
  ⟨"disk", Cloud.disks, fun cloud disks => { cloud with disks }⟩

def archiveTable : Table Archive :=
  ⟨"archive", Cloud.archives, fun cloud archives => { cloud with archives }⟩

def diskPlanTable : Table DiskPlan :=
  ⟨"disk plan", Cloud.diskPlans, fun cloud diskPlans => { cloud with diskPlans }⟩

def sshKeyTable : Table SshKey :=
  ⟨"SSH key", Cloud.sshKeys, fun cloud sshKeys => { cloud with sshKeys }⟩

def noteTable : Table Note :=
  ⟨"note", Cloud.notes, fun cloud notes => { cloud with notes }⟩

def serverTable : Table Server :=
  ⟨"server", Cloud.servers, fun cloud servers => { cloud with servers }⟩

def switchTable : Table Switch :=
  ⟨"switch", Cloud.switches, fun cloud switches => { cloud with switches }⟩

def packetFilterTable : Table PacketFilter :=
  ⟨"packet filter", Cloud.packetFilters, fun cloud packetFilters => { cloud with packetFilters }⟩

def cdromTable : Table Cdrom :=
  ⟨"ISO image", Cloud.cdroms, fun cloud cdroms => { cloud with cdroms }⟩

def databaseTable : Table Database :=
  ⟨"database", Cloud.databases, fun cloud databases => { cloud with databases }⟩

def vpcRouterTable : Table VpcRouter :=
  ⟨"VPC router", Cloud.vpcRouters, fun cloud vpcRouters => { cloud with vpcRouters }⟩

def mobileGatewayTable : Table MobileGateway :=
  ⟨"mobile gateway", Cloud.mobileGateways,
    fun cloud mobileGateways => { cloud with mobileGateways }⟩

def simTable : Table Sim :=
  ⟨"SIM", Cloud.sims, fun cloud sims => { cloud with sims }⟩

def registryTable : Table ContainerRegistry :=
  ⟨"container registry", Cloud.registries, fun cloud registries => { cloud with registries }⟩

def localRouterTable : Table LocalRouter :=
  ⟨"local router", Cloud.localRouters, fun cloud localRouters => { cloud with localRouters }⟩

/-- A record that was being prepared becomes available when it settles. -/
def settledAvailability (availability : Availability) : Availability :=
  if availability.isTransitional then .available else availability

/-- Two updates of the same settings cannot both succeed with one hash. -/
def checkHash (current given : String) : CloudStep Unit :=
  if current = given then return
  else throw (.conflict "settings_hash_mismatch" "settings were changed concurrently")

/-- This step records how an instance was shut down. -/
def recordShutdown (force : Bool) : CloudStep Unit :=
  modify fun cloud => { cloud with shutdownForces := cloud.shutdownForces ++ [force] }

end Cloud

end Provisioning
