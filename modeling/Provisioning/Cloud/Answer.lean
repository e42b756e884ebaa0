import Provisioning.Cloud.Appliance
import Provisioning.Cloud.Compute
import Provisioning.Cloud.Global
import Provisioning.Cloud.Storage

/-!
The cloud as a remote: it logs each call, reports an announced failure instead of an answer, and
otherwise answers from its records. This module also announces failures and seeds records.
-/

namespace Provisioning.Cloud

def answerRequest : (request : Request) → CloudStep request.Answer
  | .disk _ call => answerDisk call
  | .catalogue _ call => answerCatalogue call
  | .credential call => answerCredential call
  | .server _ call => answerServer call
  | .database _ call => answerDatabase call
  | .vpcRouter _ call => answerVpcRouter call
  | .mobileGateway _ call => answerMobileGateway call
  | .sim call => answerSim call
  | .containerRegistry call => answerRegistry call
  | .localRouter call => answerLocalRouter call

/-- A call is logged, and an announced failure of its endpoint goes first. -/
def call (request : Request) (cloud : Cloud) : Except RemoteError request.Answer × Cloud :=
  let logged := { cloud with calls := cloud.calls ++ [request.endpoint] }
  match request.endpoint.takeFirst cloud.failures with
  | some (error, failures) => (.error error, { logged with failures })
  | none => (answerRequest request).run.run logged

/-- A cloud answers at once. -/
def remote : Remote CloudService Cloud := fun _ request world =>
  let (answer, store) := call request world.store
  (answer, { world with store })

/-- The next calls of an endpoint will fail. -/
def failTimes (cloud : Cloud) (endpoint : Endpoint) (times : Nat) (error : RemoteError) : Cloud :=
  { cloud with failures := cloud.failures ++ List.replicate times (endpoint, error) }

def mutatingCalls (cloud : Cloud) : List Endpoint :=
  cloud.calls.filter fun endpoint => !endpoint.isReadOnly

def callCount (cloud : Cloud) (endpoint : Endpoint) : Nat := cloud.calls.count endpoint

def clearCalls (cloud : Cloud) : Cloud := { cloud with calls := [] }

/-- A seeded disk plan offers its sizes. -/
def seedDiskPlan (cloud : Cloud) (id : ResourceId) (name : String) (sizes : List UInt32) : Cloud :=
  let sizes := sizes.map fun sizeGb => { sizeGb, availability := .available }
  { cloud with diskPlans := cloud.diskPlans.insert id { id, name, sizes } }

def seedSwitch (cloud : Cloud) (id : ResourceId) : Cloud :=
  { cloud with switches := cloud.switches.insert id { id, name := s!"switch-{id.text}" } }

def seedPacketFilter (cloud : Cloud) (id : ResourceId) : Cloud :=
  { cloud with
    packetFilters := cloud.packetFilters.insert id { id, name := s!"filter-{id.text}" } }

def seedCdrom (cloud : Cloud) (id : ResourceId) : Cloud :=
  { cloud with cdroms := cloud.cdroms.insert id { id, name := s!"iso-{id.text}" } }

def seedSim (cloud : Cloud) (id : ResourceId) : Cloud :=
  { cloud with sims := cloud.sims.insert id { id, name := s!"sim-{id.text}", ipAddress := none } }

/-- A record is seeded under its own identifier. -/
def seedDisk (cloud : Cloud) (disk : Disk) : Cloud :=
  { cloud with disks := cloud.disks.insert disk.id disk }

def seedArchive (cloud : Cloud) (archive : Archive) : Cloud :=
  { cloud with archives := cloud.archives.insert archive.id archive }

def seedSshKey (cloud : Cloud) (key : SshKey) : Cloud :=
  { cloud with sshKeys := cloud.sshKeys.insert key.id key }

def seedNote (cloud : Cloud) (note : Note) : Cloud :=
  { cloud with notes := cloud.notes.insert note.id note }

def seedServer (cloud : Cloud) (server : Server) : Cloud :=
  { cloud with servers := cloud.servers.insert server.id server }

def seedServerPlan (cloud : Cloud) (plan : ServerPlan) : Cloud :=
  { cloud with serverPlans := cloud.serverPlans ++ [plan] }

def seedRegistry (cloud : Cloud) (registry : ContainerRegistry) : Cloud :=
  { cloud with registries := cloud.registries.insert registry.id registry }

def seedLocalRouter (cloud : Cloud) (router : LocalRouter) : Cloud :=
  { cloud with localRouters := cloud.localRouters.insert router.id router }

end Provisioning.Cloud
