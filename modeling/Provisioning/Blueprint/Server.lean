import Provisioning.Blueprint.Disk
import Provisioning.Blueprint.Switching

/-!
Blueprints of servers: a plan of a given shape, network interfaces, disks and an optical disc.
-/

namespace Provisioning

/-- A network interface may have a packet filter, and a displayed address if it is on a switch. -/
structure NicSpec where
  uplink : SwitchConnection
  packetFilterId : ResourceId
  displayIpAddress : Option Ipv4
  deriving DecidableEq, Repr, Inhabited

/-- The disks of a server are connected in order, and the first one is booted from. -/
structure ServerBlueprint extends Metadata where
  id : ResourceId
  plan : ServerPlanQuery
  nic : Option NicSpec
  additionalNics : List NicSpec
  interfaceDriver : InterfaceDriver
  privateHostId : ResourceId
  disks : List DiskBlueprint
  cdromId : ResourceId
  bootAfterCreate : Bool
  noWait : Bool
  forceShutdown : Bool
  timing : Timing
  deriving DecidableEq, Inhabited

namespace ServerBlueprint

def maxAdditionalNics : Nat := 9

/-- The primary interface comes first. -/
def nics (blueprint : ServerBlueprint) : List NicSpec :=
  blueprint.nic.toList ++ blueprint.additionalNics

/-- Further interfaces need a primary one, and there are at most nine of them. -/
def checkNicCount (blueprint : ServerBlueprint) : Check := do
  Check.require "server" (blueprint.nic.isSome || blueprint.additionalNics.isEmpty)
    "additional NICs require a primary NIC"
  Check.require "server" (blueprint.additionalNics.length ≤ maxAdditionalNics)
    s!"at most {maxAdditionalNics} additional NICs are supported"

/-- Exactly one plan has to answer the query. -/
def choosePlan (query : ServerPlanQuery) (plans : List ServerPlan) :
    Except ProvisionError ResourceId :=
  match plans.filter query.isAnsweredBy with
  | [plan] => .ok plan.id
  | [] =>
      Check.reject "server"
        s!"no available plan with {query.cpu.toNat} CPU and {query.memoryGb.toNat} GiB memory"
  | _ =>
      Check.reject "server"
        (s!"several plans match {query.cpu.toNat} CPU and {query.memoryGb.toNat} GiB memory; " ++
          "set a generation")

def resolvePlan (zone : Zone) (blueprint : ServerBlueprint) : Build ResourceId := do
  let plans ← Build.call "find server plans" (.catalogue zone .findServerPlans)
  choosePlan blueprint.plan plans

/-- A switch and a packet filter have to exist, and only a switch lets a display address be set. -/
def validateNic (zone : Zone) (nic : NicSpec) : Build Unit := do
  match nic.uplink with
  | .switch id => do
      let _ ← Build.call "read switch" (.catalogue zone (.readSwitch id))
  | _ =>
      Check.require "server" nic.displayIpAddress.isNone
        "a display IP address needs a NIC plugged into a switch"
  if let some id := nic.packetFilterId.set? then
    let _ ← Build.call "read packet filter" (.catalogue zone (.readPacketFilter id))

def readCdrom (zone : Zone) (cdromId : ResourceId) : Build Unit := do
  if let some id := cdromId.set? then
    let _ ← Build.call "read ISO image" (.catalogue zone (.readCdrom id))

/-- A validation only looks, and it finds the plan on the way. -/
def check (zone : Zone) (blueprint : ServerBlueprint) : Build ResourceId := do
  Check.requireNonBlank "server" "name" blueprint.name
  blueprint.checkNicCount
  let planId ← blueprint.resolvePlan zone
  blueprint.nics.forM (validateNic zone)
  readCdrom zone blueprint.cdromId
  blueprint.disks.forM (DiskBlueprint.validate zone)
  return planId

def validate (zone : Zone) (blueprint : ServerBlueprint) : Build Unit := do
  let _ ← blueprint.check zone

def createRequest (blueprint : ServerBlueprint) (planId : ResourceId) : ServerCreateRequest where
  name := blueprint.name
  description := blueprint.description
  tags := blueprint.tags
  iconId := blueprint.iconId
  planId := planId
  connectedSwitches := blueprint.nics.map NicSpec.uplink
  interfaceDriver := blueprint.interfaceDriver
  privateHostId := blueprint.privateHostId

def updateRequest (blueprint : ServerBlueprint) : ServerUpdateRequest where
  name := blueprint.name
  description := blueprint.description
  tags := blueprint.tags
  iconId := blueprint.iconId

/-- The disks are built in order, and the first private key that comes up is the one that counts. -/
def buildDisks (zone : Zone) (serverId : ResourceId) (timing : Timing) :
    List DiskBlueprint → Build (Option String)
  | [] => return none
  | disk :: rest => do
      let built ← disk.build zone serverId timing
      let later ← buildDisks zone serverId timing rest
      return built.generatedSshPrivateKey.or later

/-- The interfaces of a server are in the order in which they were declared. -/
def findInterface (server : Server) (index : Nat) : Except ProvisionError Interface :=
  match server.interfaces[index]? with
  | some interface => .ok interface
  | none => .error (.invalidState "server" server.id.text s!"NIC {index} was not created")

/-- An interface is touched only when something is declared for it. -/
def configureNic (zone : Zone) (server : Server) (index : Nat) (nic : NicSpec) : Build Unit := do
  if nic.packetFilterId.isUnset && nic.displayIpAddress.isNone then return
  let interface ← findInterface server index
  if let some filterId := nic.packetFilterId.set? then
    Build.call "connect packet filter" (.server zone (.connectToPacketFilter interface.id filterId))
  if let some address := nic.displayIpAddress then
    Build.call "update interface"
      (.server zone (.updateInterface interface.id { userIpAddress := some address }))

def configureNics (zone : Zone) (server : Server) : Nat → List NicSpec → Build Unit
  | _, [] => return
  | index, nic :: rest => do
      configureNic zone server index nic
      configureNics zone server (index + 1) rest

def insertCdrom (zone : Zone) (id cdromId : ResourceId) : Build Unit := do
  if let some cdromId := cdromId.set? then
    Build.call "insert ISO image" (.server zone (.insertCdrom id cdromId))

def boot (zone : Zone) (id : ResourceId) (blueprint : ServerBlueprint) : Build Unit :=
  (serverPower zone id).switch .boot blueprint.timing blueprint.noWait

/-- A build creates a stopped server, then its disks, its interfaces and its optical disc. -/
def build (zone : Zone) (blueprint : ServerBlueprint) : Build BuildResult := do
  let planId ← blueprint.check zone
  let server ← Build.call "create server" (.server zone (.create (blueprint.createRequest planId)))
  let id := server.id
  let generatedSshPrivateKey ← buildDisks zone id blueprint.timing blueprint.disks
  configureNics zone server 0 blueprint.nics
  insertCdrom zone id blueprint.cdromId
  if blueprint.bootAfterCreate then blueprint.boot zone id
  return { id, generatedSshPrivateKey }

/-- Another plan needs a stopped server and gives the server another identifier. -/
def changePlan (zone : Zone) (current : Server) (planId : ResourceId)
    (blueprint : ServerBlueprint) : Build ResourceId := do
  if current.instanceStatus = .up then
    (serverPower zone current.id).switch (.shutdown blueprint.forceShutdown) blueprint.timing false
  let changed ← Build.call "change server plan" (.server zone (.changePlan current.id planId))
  return changed.id

/-- Another optical disc takes the place of the one that is inserted. -/
def exchangeCdrom (zone : Zone) (id inserted wanted : ResourceId) : Build Unit := do
  if inserted = wanted then return
  if let some inserted := inserted.set? then
    Build.call "eject ISO image" (.server zone (.ejectCdrom id inserted))
  insertCdrom zone id wanted

/-- A server that was stopped for its plan runs again afterwards. -/
def update (zone : Zone) (blueprint : ServerBlueprint) : Build BuildResult := do
  Check.requireSet "server" "id" blueprint.id
  Check.requireNonBlank "server" "name" blueprint.name
  let planId ← blueprint.resolvePlan zone
  readCdrom zone blueprint.cdromId
  let current ← Build.call "read server" (.server zone (.read blueprint.id))
  let replans := current.planId != planId
  let id ← if replans then blueprint.changePlan zone current planId else pure current.id
  let _ ← Build.call "update server" (.server zone (.update id blueprint.updateRequest))
  exchangeCdrom zone id current.cdromId blueprint.cdromId
  let wasUp := current.instanceStatus == .up
  let isUp := wasUp && !replans
  if !isUp && (wasUp || blueprint.bootAfterCreate) then blueprint.boot zone id
  return .ofId id

end ServerBlueprint

end Provisioning
