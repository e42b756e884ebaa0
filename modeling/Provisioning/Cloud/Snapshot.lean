import Provisioning.Cloud.State

/-!
Snapshots: what a cloud holds, as a document. The records of a kind are listed in the order of their
identifiers, and a kind without records is left out.
-/

namespace Provisioning.Cloud

/-- An empty list is left out. -/
def listField (name : String) : List Json → List (String × Json)
  | [] => []
  | items => [(name, .arr items)]

def recordField {ρ : Type} [JsonForm ρ] (name : String) (records : Records ρ) :
    List (String × Json) :=
  listField name (records.values.map encode)

/-- What belongs to a record is listed beside its identifier. -/
def pairField {ρ : Type} [JsonForm ρ] (name : String) (records : Records ρ) :
    List (String × Json) :=
  listField name (records.entries.map encode)

/-- A map that has become empty is left out. -/
def mapField {κ ν : Type} [LT κ] [DecidableLT κ] [KeyOrder κ] (name : String)
    (records : Records (SortedMap κ ν)) (document : SortedMap κ ν → Json) :
    List (String × Json) :=
  listField name ((records.entries.filter fun entry => !entry.2.isEmpty).map fun entry =>
    .arr [encode entry.1, document entry.2])

/-- The switches of a router are listed by the index of the interface. -/
def switchesDocument (switches : SortedMap UInt8 ResourceId) : Json :=
  .obj (switches.entries.map fun entry => (toString entry.1.toNat, encode entry.2))

/-- Keys and notes are counted, and the contents of notes are not shown. -/
def snapshot (cloud : Cloud) : Json :=
  .obj (recordField "servers" cloud.servers ++ recordField "databases" cloud.databases ++
    recordField "vpc_routers" cloud.vpcRouters ++
    recordField "mobile_gateways" cloud.mobileGateways ++
    recordField "registries" cloud.registries ++
    recordField "local_routers" cloud.localRouters ++ recordField "sims" cloud.sims ++
    recordField "disks" cloud.disks ++ pairField "disk_edits" cloud.diskEdits ++
    mapField "database_parameters" cloud.databaseParameters encode ++
    mapField "vpc_router_switches" cloud.vpcRouterSwitches switchesDocument ++
    pairField "mobile_gateway_switches" cloud.mobileGatewaySwitches ++
    pairField "mobile_gateway_dns" cloud.mobileGatewayDns ++
    pairField "traffic_configs" cloud.trafficConfigs ++
    listField "ssh_keys" (cloud.sshKeys.keys.map encode) ++
    [("ssh_key_count", .ofNat cloud.sshKeys.keys.length),
      ("note_count", .ofNat cloud.notes.keys.length),
      ("shutdown_forces", encode cloud.shutdownForces)])

end Provisioning.Cloud
