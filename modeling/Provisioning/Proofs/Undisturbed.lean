import Provisioning.Blueprint.MobileGateway
import Provisioning.Proofs.ServerBuild

/-!
What a request leaves as it was. Everything that a cloud stores is numbered by its counter, so what
a request creates lies beyond it. A request is harmless for a base when it changes nothing that the
base has numbered, apart from what it is permitted to change. The main statement says that the
answer to a harmless request leaves the records of the base undisturbed.
-/

namespace Provisioning

/-- A build may connect these disks to its new server, and it may give these cards their
addresses. -/
structure Permit where
  disks : List ResourceId
  host : ResourceId
  sims : List SimSpec

namespace Permit

variable (permit : Permit)

/-- A disk may settle, and a disk of the permit may come to the new server. -/
def DiskKept (id : ResourceId) (before after : Disk) : Prop :=
  ∃ availability serverId, after = { before with availability, serverId } ∧
    (availability = before.availability ∨
      availability = Cloud.settledAvailability before.availability) ∧
    (serverId = before.serverId ∨ id ∈ permit.disks ∧ serverId = permit.host)

/-- A card of the permit may get its address. -/
def SimKept (id : ResourceId) (before after : Sim) : Prop :=
  after = before ∨ ∃ sim ∈ permit.sims, sim.simId = id ∧
    after = { before with ipAddress := some sim.ipAddress }

/-- A local router may settle. -/
def RouterKept (_ : ResourceId) (before after : LocalRouter) : Prop :=
  after = before ∨
    after = { before with availability := Cloud.settledAvailability before.availability }

variable {permit} {id : ResourceId}

/-- What has settled does not settle again. -/
theorem settledAvailability_idem (availability : Availability) :
    Cloud.settledAvailability (Cloud.settledAvailability availability) =
      Cloud.settledAvailability availability := by
  cases availability <;> rfl

theorem DiskKept.refl (disk : Disk) : permit.DiskKept id disk disk :=
  ⟨_, _, rfl, .inl rfl, .inl rfl⟩

/-- A disk that was kept may settle once more. -/
theorem DiskKept.settled {before after : Disk} (changed : permit.DiskKept id before after) :
    permit.DiskKept id before
      { after with availability := Cloud.settledAvailability after.availability } := by
  obtain ⟨availability, serverId, rfl, same | settled, connected⟩ := changed
  · exact ⟨_, _, rfl, .inr (congrArg _ same), connected⟩
  · refine ⟨_, _, rfl, .inr ?_, connected⟩
    dsimp only
    rw [settled, settledAvailability_idem]

/-- A disk of the permit that was kept may come to the new server. -/
theorem DiskKept.connected {before after : Disk} (changed : permit.DiskKept id before after)
    (permitted : id ∈ permit.disks) :
    permit.DiskKept id before { after with serverId := permit.host } := by
  obtain ⟨availability, serverId, rfl, settled, -⟩ := changed
  exact ⟨_, _, rfl, settled, .inr ⟨permitted, rfl⟩⟩

/-- A card of the permit that was kept may get its address. -/
theorem SimKept.assigned {before after : Sim} (changed : permit.SimKept id before after)
    {sim : SimSpec} (permitted : sim ∈ permit.sims) (same : sim.simId = id) :
    permit.SimKept id before { after with ipAddress := some sim.ipAddress } := by
  rcases changed with rfl | ⟨_, _, _, rfl⟩
  · exact .inr ⟨sim, permitted, same, rfl⟩
  · exact .inr ⟨sim, permitted, same, rfl⟩

/-- A local router that was kept may settle once more. -/
theorem RouterKept.settled {before after : LocalRouter}
    (changed : RouterKept id before after) :
    RouterKept id before
      { after with availability := Cloud.settledAvailability after.availability } := by
  rcases changed with rfl | rfl
  · exact .inr rfl
  · refine .inr ?_
    dsimp only
    rw [settledAvailability_idem]

end Permit

namespace Cloud

variable {ρ : Type}

/-- The counter of a cloud has reached all identifiers of these records. -/
def Numbers (cloud : Cloud) (records : Records ρ) : Prop :=
  ∀ id record, records.get? id = some record → cloud.Reached id

instance (cloud : Cloud) (id : ResourceId) : Decidable (cloud.Reached id) :=
  inferInstanceAs (Decidable (_ ≤ _))

/-- A counter numbers records when it has reached the identifier of each entry. -/
theorem numbers_of_entries {cloud : Cloud} {records : Records ρ}
    (numbered : ∀ entry ∈ records.entries, cloud.Reached entry.1) : cloud.Numbers records :=
  fun _ _ stored => numbered _ (SortedMap.mem_of_find? stored)

/-- The counter of a counted cloud has reached everything that builds create, also interfaces and
what is kept beside the records. -/
structure Counted (cloud : Cloud) : Prop extends cloud.Numbered where
  interfaces : ∀ id server, cloud.servers.get? id = some server →
    ∀ interface ∈ server.interfaceIds, cloud.Reached interface
  diskEdits : cloud.Numbers cloud.diskEdits
  databases : cloud.Numbers cloud.databases
  databaseParameters : cloud.Numbers cloud.databaseParameters
  vpcRouters : cloud.Numbers cloud.vpcRouters
  vpcRouterSwitches : cloud.Numbers cloud.vpcRouterSwitches
  mobileGateways : cloud.Numbers cloud.mobileGateways
  mobileGatewaySwitches : cloud.Numbers cloud.mobileGatewaySwitches
  mobileGatewayDns : cloud.Numbers cloud.mobileGatewayDns
  trafficConfigs : cloud.Numbers cloud.trafficConfigs
  registries : cloud.Numbers cloud.registries
  localRouters : cloud.Numbers cloud.localRouters

/-- A new cloud has nothing to number. -/
theorem counted_empty : Cloud.empty.Counted := by
  have none : ∀ {ρ : Type}, Cloud.empty.Numbers (SortedMap.empty : Records ρ) :=
    numbers_of_entries (List.forall_mem_nil _)
  exact {
    disks := none
    archives := none
    sshKeys := none
    notes := none
    servers := none
    interfaces := fun _ _ stored => nomatch stored
    diskEdits := none
    databases := none
    databaseParameters := none
    vpcRouters := none
    vpcRouterSwitches := none
    mobileGateways := none
    mobileGatewaySwitches := none
    mobileGatewayDns := none
    trafficConfigs := none
    registries := none
    localRouters := none }

/-- A counter that has reached all identifiers counts every cloud. -/
theorem Counted.of_reached {cloud : Cloud} (reached : ∀ id, cloud.Reached id) : cloud.Counted where
  disks id _ _ := reached id
  archives id _ _ := reached id
  sshKeys id _ _ := reached id
  notes id _ _ := reached id
  servers id _ _ := reached id
  interfaces _ _ _ interface _ := reached interface
  diskEdits id _ _ := reached id
  databases id _ _ := reached id
  databaseParameters id _ _ := reached id
  vpcRouters id _ _ := reached id
  vpcRouterSwitches id _ _ := reached id
  mobileGateways id _ _ := reached id
  mobileGatewaySwitches id _ _ := reached id
  mobileGatewayDns id _ _ := reached id
  trafficConfigs id _ _ := reached id
  registries id _ _ := reached id
  localRouters id _ _ := reached id

/-- Every record is still stored, and it has changed only in a certain way. -/
def KeepsUpTo (changes : ResourceId → ρ → ρ → Prop) (before after : Records ρ) : Prop :=
  ∀ id record, before.get? id = some record →
    ∃ now, after.get? id = some now ∧ changes id record now

/-- Every record is still stored as it was. -/
abbrev Keeps (before after : Records ρ) : Prop :=
  KeepsUpTo (fun _ record now => now = record) before after

namespace KeepsUpTo

variable {changes : ResourceId → ρ → ρ → Prop} {before after : Records ρ} {id : ResourceId}
  {base : Cloud}

/-- Records are kept when nothing happens to them. -/
theorem refl (same : ∀ id record, changes id record record) (records : Records ρ) :
    KeepsUpTo changes records records :=
  fun id record stored => ⟨record, stored, same id record⟩

/-- A record may be written when the change of what was stored is allowed. -/
theorem insert (kept : KeepsUpTo changes before after) {value : ρ}
    (allowed : ∀ record, before.get? id = some record → changes id record value) :
    KeepsUpTo changes before (after.insert id value) := by
  intro other record stored
  rw [SortedMap.get?_insert]
  split
  next here => exact ⟨value, rfl, here ▸ allowed record (here ▸ stored)⟩
  next => exact kept other record stored

/-- A stored record may take a further step. -/
theorem change (kept : KeepsUpTo changes before after) {now next : ρ}
    (stored : after.get? id = some now) (step : ∀ record, changes id record now →
      changes id record next) : KeepsUpTo changes before (after.insert id next) := by
  apply kept.insert
  intro record found
  obtain ⟨same, storedToo, changed⟩ := kept id record found
  cases stored.symm.trans storedToo
  exact step record changed

/-- A record may be stored under an identifier that the base has not numbered. -/
theorem insert_new (kept : KeepsUpTo changes before after) (numbered : base.Numbers before)
    (new : ¬ base.Reached id) (value : ρ) : KeepsUpTo changes before (after.insert id value) :=
  kept.insert fun record stored => absurd (numbered id record stored) new

/-- A record may be erased that the base has not numbered. -/
theorem erase_new (kept : KeepsUpTo changes before after) (numbered : base.Numbers before)
    (new : ¬ base.Reached id) : KeepsUpTo changes before (after.erase id) := by
  intro other record stored
  have apart : other ≠ id := fun same => new (same ▸ numbered other record stored)
  rw [SortedMap.get?_erase, if_neg apart]
  exact kept other record stored

/-- A record may change in any way when the base does not store it. -/
theorem modify_absent (kept : KeepsUpTo changes before after) (absent : before.get? id = none)
    (change : ρ → ρ) : KeepsUpTo changes before (after.modify id change) := by
  intro other record stored
  have apart : other ≠ id := by
    rintro rfl
    nomatch absent.symm.trans stored
  rw [SortedMap.get?_modify, if_neg apart]
  exact kept other record stored

end KeepsUpTo

theorem keeps_refl (records : Records ρ) : Keeps records records :=
  fun _ record stored => ⟨record, stored, rfl⟩

/-- Every record of the base is still stored, and only what is permitted has changed. -/
structure Undisturbed (permit : Permit) (base after : Cloud) : Prop where
  disks : KeepsUpTo permit.DiskKept base.disks after.disks
  diskEdits : Keeps base.diskEdits after.diskEdits
  archives : after.archives = base.archives
  diskPlans : after.diskPlans = base.diskPlans
  sshKeys : Keeps base.sshKeys after.sshKeys
  notes : Keeps base.notes after.notes
  servers : Keeps base.servers after.servers
  serverPlans : after.serverPlans = base.serverPlans
  switches : after.switches = base.switches
  packetFilters : after.packetFilters = base.packetFilters
  cdroms : after.cdroms = base.cdroms
  databases : Keeps base.databases after.databases
  databaseParameters : Keeps base.databaseParameters after.databaseParameters
  vpcRouters : Keeps base.vpcRouters after.vpcRouters
  vpcRouterSwitches : Keeps base.vpcRouterSwitches after.vpcRouterSwitches
  mobileGateways : Keeps base.mobileGateways after.mobileGateways
  mobileGatewaySwitches : Keeps base.mobileGatewaySwitches after.mobileGatewaySwitches
  mobileGatewayDns : Keeps base.mobileGatewayDns after.mobileGatewayDns
  trafficConfigs : Keeps base.trafficConfigs after.trafficConfigs
  sims : KeepsUpTo permit.SimKept base.sims after.sims
  registries : Keeps base.registries after.registries
  localRouters : KeepsUpTo Permit.RouterKept base.localRouters after.localRouters

/-- Records that the base has not numbered are stored under their own identifiers. -/
def Own (base : Cloud) (idOf : ρ → ResourceId) (records : Records ρ) : Prop :=
  ∀ id record, records.get? id = some record → base.Reached id ∨ idOf record = id

namespace Own

variable {base : Cloud} {idOf : ρ → ResourceId} {records : Records ρ} {id : ResourceId}

/-- A record that is stored under its own identifier, or under a numbered one, keeps the others
under theirs. -/
theorem insert (own : Own base idOf records) {record : ρ}
    (named : base.Reached id ∨ idOf record = id) :
    Own base idOf (records.insert id record) := by
  intro other found stored
  rw [SortedMap.get?_insert] at stored
  split at stored
  next here =>
    cases stored
    exact here ▸ named
  next => exact own other found stored

/-- A removal keeps the other records under their own identifiers. -/
theorem erase (own : Own base idOf records) : Own base idOf (records.erase id) := by
  intro other found stored
  rw [SortedMap.get?_erase] at stored
  split at stored
  · cases stored
  · exact own other found stored

end Own

/-- The records of the base are undisturbed, and some numbers have been drawn since. -/
structure Kept (permit : Permit) (base : Cloud) (drawn : Nat) (cloud : Cloud) : Prop
    extends Undisturbed permit base cloud where
  counted : cloud.lastId.toNat = base.lastId.toNat + drawn
  vpcRouterIds : Own base VpcRouter.id cloud.vpcRouters
  mobileGatewayIds : Own base MobileGateway.id cloud.mobileGateways

end Cloud

/-- This is how many numbers a request draws when it succeeds. -/
def Request.draws : Request → Nat
  | .disk _ (.create ..) | .disk _ (.createWithConfig ..) => 1
  | .credential (.generateSshKey _) | .credential (.createNote _) => 1
  | .server _ (.create request) => 1 + request.connectedSwitches.length
  | .server _ (.changePlan ..) => 1
  | .database _ (.create _) | .vpcRouter _ (.create _) | .mobileGateway _ (.create _) => 2
  | .database _ (.update ..) | .vpcRouter _ (.update ..) | .mobileGateway _ (.update ..) => 1
  | .containerRegistry (.create _) => 1
  | .localRouter (.create _) => 2
  | .localRouter (.updateSettings ..) => 1
  | _ => 0

/-- A harmless request changes nothing that the base has numbered, apart from what is permitted. A
disk that is created for a server of the base would change that server, and the disks of a server
would follow it to a new plan. -/
def Request.Harmless (permit : Permit) (base : Cloud) : Request → Prop
  | .disk _ (.create request _) | .disk _ (.createWithConfig request ..) =>
      base.servers.get? request.serverId = none
  | .disk _ (.read _) => True
  | .disk _ (.connectToServer id serverId) =>
      id ∈ permit.disks ∧ serverId = permit.host ∧ ¬ base.Reached serverId
  | .disk _ (.update id _) | .disk _ (.delete id) | .disk _ (.config id _) => ¬ base.Reached id
  | .catalogue .. => True
  | .credential (.deleteSshKey id) | .credential (.deleteNote id) => ¬ base.Reached id
  | .credential _ => True
  | .server _ (.create _) | .server _ (.read _) => True
  | .server _ (.changePlan ..) => False
  | .server _ (.update id _) | .server _ (.delete id) | .server _ (.boot id)
  | .server _ (.shutdown id _) | .server _ (.insertCdrom id _) | .server _ (.ejectCdrom id _)
  | .server _ (.connectToPacketFilter id _) | .server _ (.updateInterface id _) => ¬ base.Reached id
  | .database _ (.create _) => True
  | .database _ (.read id) | .database _ (.update id _) | .database _ (.delete id)
  | .database _ (.boot id) | .database _ (.shutdown id _) | .database _ (.config id)
  | .database _ (.setParameters id _) | .database _ (.status id) => ¬ base.Reached id
  | .vpcRouter _ (.create _) => True
  | .vpcRouter _ (.read id) | .vpcRouter _ (.update id _) | .vpcRouter _ (.delete id)
  | .vpcRouter _ (.boot id) | .vpcRouter _ (.shutdown id _) | .vpcRouter _ (.connectToSwitch id ..)
  | .vpcRouter _ (.config id) => ¬ base.Reached id
  | .mobileGateway _ (.create _) => True
  | .mobileGateway _ (.read id) | .mobileGateway _ (.update id _) | .mobileGateway _ (.delete id)
  | .mobileGateway _ (.boot id) | .mobileGateway _ (.shutdown id _)
  | .mobileGateway _ (.connectToSwitch id _) | .mobileGateway _ (.config id)
  | .mobileGateway _ (.setDns id _) | .mobileGateway _ (.addSim id _)
  | .mobileGateway _ (.setTrafficConfig id _) => ¬ base.Reached id
  | .sim (.read _) => True
  | .sim (.assignIp id ipAddress) => ⟨id, ipAddress⟩ ∈ permit.sims
  | .containerRegistry (.create _) => True
  | .containerRegistry (.read id) | .containerRegistry (.update id _)
  | .containerRegistry (.delete id) | .containerRegistry (.addUser id _)
  | .containerRegistry (.deleteUser id _) => ¬ base.Reached id
  | .localRouter (.create _) | .localRouter (.read _) => True
  | .localRouter (.updateSettings id ..) | .localRouter (.delete id) => ¬ base.Reached id

namespace Cloud

open CloudStep

variable {permit : Permit} {base cloud : Cloud} {drawn : Nat}

theorem Undisturbed.refl (base : Cloud) : Undisturbed permit base base where
  disks := .refl (fun _ => .refl) _
  diskEdits := keeps_refl _
  archives := rfl
  diskPlans := rfl
  sshKeys := keeps_refl _
  notes := keeps_refl _
  servers := keeps_refl _
  serverPlans := rfl
  switches := rfl
  packetFilters := rfl
  cdroms := rfl
  databases := keeps_refl _
  databaseParameters := keeps_refl _
  vpcRouters := keeps_refl _
  vpcRouterSwitches := keeps_refl _
  mobileGateways := keeps_refl _
  mobileGatewaySwitches := keeps_refl _
  mobileGatewayDns := keeps_refl _
  trafficConfigs := keeps_refl _
  sims := .refl (fun _ _ => .inl rfl) _
  registries := keeps_refl _
  localRouters := .refl (fun _ _ => .inl rfl) _

namespace Kept

/-- A counted base keeps itself before any number is drawn. -/
theorem refl (counted : base.Counted) : Kept permit base 0 base :=
  { Undisturbed.refl base with
    counted := rfl
    vpcRouterIds := fun id router stored => .inl (counted.vpcRouters id router stored)
    mobileGatewayIds := fun id gateway stored => .inl (counted.mobileGateways id gateway stored) }

/-- Where nothing changes, at most as many numbers are drawn as are allowed. -/
theorem unchanged (kept : Kept permit base drawn cloud) (most : Nat) :
    ∃ some ≤ most, Kept permit base (drawn + some) cloud := ⟨0, Nat.zero_le most, kept⟩

/-- The next number is new to the base as long as the counter does not overflow. -/
theorem new (kept : Kept permit base drawn cloud)
    (room : base.lastId.toNat + (drawn + 1) < UInt64.size) :
    ¬ base.Reached ⟨cloud.lastId + 1⟩ := by
  have counted := kept.counted
  rw [Reached, next_toNat (by omega)]
  omega

/-- Any numbers may be drawn as long as the counter does not overflow. -/
theorem drawMany (kept : Kept permit base drawn cloud) (more : Nat)
    (room : base.lastId.toNat + (drawn + more) < UInt64.size) :
    Kept permit base (drawn + more) { cloud with lastId := cloud.lastId + UInt64.ofNat more } :=
  { kept with
    counted := by
      dsimp only
      rw [UInt64.toNat_add, UInt64.toNat_ofNat_of_lt' (by omega), kept.counted, Nat.add_assoc]
      exact Nat.mod_eq_of_lt room }

/-- The next number may be drawn as long as the counter does not overflow. -/
theorem draw (kept : Kept permit base drawn cloud)
    (room : base.lastId.toNat + (drawn + 1) < UInt64.size) :
    Kept permit base (drawn + 1) { cloud with lastId := cloud.lastId + 1 } := kept.drawMany 1 room

theorem counting (kept : Kept permit base drawn cloud) (pending : Records Nat) :
    Kept permit base drawn { cloud with pending } := { kept with }

theorem recording (kept : Kept permit base drawn cloud) (shutdownForces : List Bool) :
    Kept permit base drawn { cloud with shutdownForces } := { kept with }

theorem logging (kept : Kept permit base drawn cloud) (request : Request)
    (failures : List (Endpoint × RemoteError)) :
    Kept permit base drawn (cloud.logging request failures) := { kept with }

end Kept

/-- The answer to a request leaves the records of the base undisturbed. When it succeeds it has
drawn all numbers of the request. -/
def Leaves (permit : Permit) (base : Cloud) (drawn : Nat) (request : Request) (cloud : Cloud) :
    Prop :=
  (answerRequest request).Yields cloud
    (fun _ after => Kept permit base (drawn + request.draws) after)
    (fun _ after => ∃ some ≤ request.draws, Kept permit base (drawn + some) after)

/-- A read that may settle its record keeps what the settled record keeps. -/
theorem readSettling_kept {ρ : Type} {table : Table ρ} (lawful : table.Lawful) {id : ResourceId}
    {settled : ρ → ρ} (kept : Kept permit base drawn cloud)
    (settles : ∀ pending record, (table.read cloud).get? id = some record →
      Kept permit base drawn
        (table.write { cloud with pending } ((table.read cloud).insert id (settled record)))) :
    (table.readSettling id settled).Yields cloud (fun _ after => Kept permit base drawn after)
      (fun _ after => ∃ some ≤ 0, Kept permit base (drawn + some) after) := by
  have read : ∀ pending, table.read { cloud with pending } = table.read cloud :=
    fun pending => lawful.read_counters cloud cloud.lastId pending cloud.calls cloud.failures
  rw [yields_readSettling]
  cases stored : (table.read cloud).get? id with
  | none => exact kept.unchanged 0
  | some record =>
      dsimp only
      cases cloud.pending.get? id with
      | none => exact .change table id stored (settles cloud.pending record stored)
      | some left =>
          dsimp only
          -- The record settles with the last of its pending reads.
          split
          · apply CloudStep.Yields.find
            · rw [read]
              exact stored
            · exact kept.counting _
          · apply CloudStep.Yields.change table id
            · rw [read]
              exact stored
            · rw [read]
              exact settles _ record stored

section Families

variable {zone : Zone} {id : ResourceId}

/-- A database may be written that the base has not numbered. -/
theorem Kept.writeDatabase (kept : Kept permit base drawn cloud) (counted : base.Counted)
    (new : ¬ base.Reached id) (database : Database) :
    Kept permit base drawn { cloud with databases := cloud.databases.insert id database } :=
  { kept with databases := kept.databases.insert_new counted.databases new database }

theorem answerDatabase_kept (call : DatabaseCall) (counted : base.Counted)
    (kept : Kept permit base drawn cloud)
    (room : base.lastId.toNat + (drawn + (Request.database zone call).draws) < UInt64.size)
    (harmless : (Request.database zone call).Harmless permit base) :
    Leaves permit base drawn (.database zone call) cloud := by
  rw [Leaves, answerRequest]
  cases call with
  | create request =>
      have room : base.lastId.toNat + (drawn + 2) < UInt64.size := room
      have drew := (kept.draw (by omega)).draw (by omega)
      simp only [answerDatabase, createDatabase, yields_bind, yields_find, yields_allocate,
        yields_freshHash, yields_insert, yields_track, yields_pure]
      split
      · exact (drew.writeDatabase counted (kept.new (by omega)) _).counting _
      · exact kept.unchanged _
  | read id =>
      rw [answerDatabase]
      exact readSettling_kept databaseTable_lawful kept fun pending record stored =>
        (kept.counting pending).writeDatabase counted harmless _
  | update id request =>
      have drew := kept.draw room
      simp only [answerDatabase, updateDatabase, yields_bind, yields_freshHash, yields_find,
        yields_checkHash, yields_change]
      repeat' split
      · exact drew.writeDatabase counted harmless _
      all_goals exact ⟨1, Nat.le_refl 1, drew⟩
  | delete id =>
      simp only [answerDatabase, yields_remove]
      split
      · exact { kept with databases := kept.databases.erase_new counted.databases harmless }
      · exact kept.unchanged _
  | boot id =>
      simp only [answerDatabase, yields_bind, yields_change, yields_pure]
      split
      · exact kept.writeDatabase counted harmless _
      · exact kept.unchanged _
  | shutdown id force =>
      simp only [answerDatabase, yields_bind, yields_change, yields_recordShutdown]
      split
      · exact (kept.writeDatabase counted harmless _).recording _
      · exact kept.unchanged _
  | config id | status id =>
      simp only [answerDatabase, yields_bind, yields_find, yields_pure]
      split
      · exact kept
      · exact kept.unchanged _
  | setParameters id parameters =>
      simp only [answerDatabase, setDatabaseParameters, yields_bind, yields_find, yields_modify]
      split
      · exact { kept with databaseParameters :=
          kept.databaseParameters.insert_new counted.databaseParameters harmless _ }
      · exact kept.unchanged _

/-- A router may be written under its own identifier when the base has not numbered it. -/
theorem Kept.writeVpcRouter (kept : Kept permit base drawn cloud) (counted : base.Counted)
    (new : ¬ base.Reached id) {router : VpcRouter} (named : router.id = id) :
    Kept permit base drawn { cloud with vpcRouters := cloud.vpcRouters.insert id router } :=
  { kept with
    vpcRouters := kept.vpcRouters.insert_new counted.vpcRouters new router
    vpcRouterIds := kept.vpcRouterIds.insert (.inr named) }

/-- A stored router may change when the base has not numbered it and it keeps its identifier. -/
theorem Kept.changeVpcRouter (kept : Kept permit base drawn cloud) (counted : base.Counted)
    (new : ¬ base.Reached id) {now next : VpcRouter} (stored : cloud.vpcRouters.get? id = some now)
    (same : next.id = now.id) :
    Kept permit base drawn { cloud with vpcRouters := cloud.vpcRouters.insert id next } :=
  kept.writeVpcRouter counted new (same.trans ((kept.vpcRouterIds id now stored).resolve_left new))

theorem answerVpcRouter_kept (call : VpcRouterCall) (counted : base.Counted)
    (kept : Kept permit base drawn cloud)
    (room : base.lastId.toNat + (drawn + (Request.vpcRouter zone call).draws) < UInt64.size)
    (harmless : (Request.vpcRouter zone call).Harmless permit base) :
    Leaves permit base drawn (.vpcRouter zone call) cloud := by
  rw [Leaves, answerRequest]
  cases call with
  | create request =>
      have room : base.lastId.toNat + (drawn + 2) < UInt64.size := room
      have drew := (kept.draw (by omega)).draw (by omega)
      exact (drew.writeVpcRouter counted (kept.new (by omega)) rfl).counting _
  | read id =>
      rw [answerVpcRouter]
      exact readSettling_kept vpcRouterTable_lawful kept fun pending record stored =>
        (kept.counting pending).changeVpcRouter counted harmless stored rfl
  | update id request =>
      have drew := kept.draw room
      simp only [answerVpcRouter, updateVpcRouter, yields_bind, yields_freshHash, yields_find,
        yields_checkHash, yields_change]
      repeat' split
      next stored => exact drew.changeVpcRouter counted harmless stored rfl
      all_goals exact ⟨1, Nat.le_refl 1, drew⟩
  | delete id =>
      simp only [answerVpcRouter, yields_remove]
      split
      · exact { kept with
          vpcRouters := kept.vpcRouters.erase_new counted.vpcRouters harmless
          vpcRouterIds := kept.vpcRouterIds.erase }
      · exact kept.unchanged _
  | boot id =>
      simp only [answerVpcRouter, yields_bind, yields_change, yields_pure]
      split
      next stored => exact kept.changeVpcRouter counted harmless stored rfl
      next => exact kept.unchanged _
  | shutdown id force =>
      simp only [answerVpcRouter, yields_bind, yields_change, yields_recordShutdown]
      split
      next stored =>
        exact (kept.changeVpcRouter counted harmless stored (by rfl)).recording _
      next => exact kept.unchanged _
  | connectToSwitch id index switchId =>
      simp only [answerVpcRouter, connectVpcRouter, yields_bind, yields_find, yields_modify]
      repeat' split
      · exact { kept with vpcRouterSwitches :=
          kept.vpcRouterSwitches.insert_new counted.vpcRouterSwitches harmless _ }
      all_goals exact kept.unchanged _
  | config id =>
      simp only [answerVpcRouter, yields_bind, yields_find, yields_pure]
      split
      · exact kept
      · exact kept.unchanged _

/-- A gateway may be written under its own identifier when the base has not numbered it. -/
theorem Kept.writeMobileGateway (kept : Kept permit base drawn cloud) (counted : base.Counted)
    (new : ¬ base.Reached id) {gateway : MobileGateway} (named : gateway.id = id) :
    Kept permit base drawn
      { cloud with mobileGateways := cloud.mobileGateways.insert id gateway } :=
  { kept with
    mobileGateways := kept.mobileGateways.insert_new counted.mobileGateways new gateway
    mobileGatewayIds := kept.mobileGatewayIds.insert (.inr named) }

/-- A stored gateway may change when the base has not numbered it and it keeps its identifier. -/
theorem Kept.changeMobileGateway (kept : Kept permit base drawn cloud) (counted : base.Counted)
    (new : ¬ base.Reached id) {now next : MobileGateway}
    (stored : cloud.mobileGateways.get? id = some now) (same : next.id = now.id) :
    Kept permit base drawn { cloud with mobileGateways := cloud.mobileGateways.insert id next } :=
  kept.writeMobileGateway counted new
    (same.trans ((kept.mobileGatewayIds id now stored).resolve_left new))

theorem answerMobileGateway_kept (call : MobileGatewayCall) (counted : base.Counted)
    (kept : Kept permit base drawn cloud)
    (room : base.lastId.toNat + (drawn + (Request.mobileGateway zone call).draws) < UInt64.size)
    (harmless : (Request.mobileGateway zone call).Harmless permit base) :
    Leaves permit base drawn (.mobileGateway zone call) cloud := by
  rw [Leaves, answerRequest]
  cases call with
  | create request =>
      have room : base.lastId.toNat + (drawn + 2) < UInt64.size := room
      have drew := (kept.draw (by omega)).draw (by omega)
      exact (drew.writeMobileGateway counted (kept.new (by omega)) rfl).counting _
  | read id =>
      rw [answerMobileGateway]
      exact readSettling_kept mobileGatewayTable_lawful kept fun pending record stored =>
        (kept.counting pending).changeMobileGateway counted harmless stored rfl
  | update id request =>
      have drew := kept.draw room
      simp only [answerMobileGateway, updateMobileGateway, yields_bind, yields_freshHash,
        yields_find, yields_checkHash, yields_change]
      repeat' split
      next stored =>
        exact drew.changeMobileGateway counted harmless stored rfl
      all_goals exact ⟨1, Nat.le_refl 1, drew⟩
  | delete id =>
      simp only [answerMobileGateway, yields_remove]
      split
      · exact { kept with
          mobileGateways := kept.mobileGateways.erase_new counted.mobileGateways harmless
          mobileGatewayIds := kept.mobileGatewayIds.erase }
      · exact kept.unchanged _
  | boot id =>
      simp only [answerMobileGateway, yields_bind, yields_change, yields_pure]
      split
      next stored =>
        exact kept.changeMobileGateway counted harmless stored rfl
      next => exact kept.unchanged _
  | shutdown id force =>
      simp only [answerMobileGateway, yields_bind, yields_change, yields_recordShutdown]
      split
      next stored =>
        exact (kept.changeMobileGateway counted harmless stored (by rfl)).recording _
      next => exact kept.unchanged _
  | connectToSwitch id switchId =>
      simp only [answerMobileGateway, yields_bind, yields_find, yields_modify]
      repeat' split
      · exact { kept with mobileGatewaySwitches :=
          kept.mobileGatewaySwitches.insert_new counted.mobileGatewaySwitches harmless _ }
      all_goals exact kept.unchanged _
  | config id =>
      simp only [answerMobileGateway, yields_bind, yields_find, yields_pure]
      split
      · exact kept
      · exact kept.unchanged _
  | setDns id dns =>
      simp only [answerMobileGateway, yields_bind, yields_find, yields_modify]
      split
      · exact { kept with mobileGatewayDns :=
          kept.mobileGatewayDns.insert_new counted.mobileGatewayDns harmless _ }
      · exact kept.unchanged _
  | setTrafficConfig id traffic =>
      simp only [answerMobileGateway, yields_bind, yields_find, yields_modify]
      split
      · exact { kept with trafficConfigs :=
          kept.trafficConfigs.insert_new counted.trafficConfigs harmless _ }
      · exact kept.unchanged _
  | addSim id simId =>
      simp only [answerMobileGateway, addSim, yields_bind, yields_find, yields_ite, yields_throw,
        yields_change, yields_pure]
      split
      · split
        next stored =>
          split
          · exact kept.unchanged _
          · exact kept.changeMobileGateway counted harmless stored rfl
        next => exact kept.unchanged _
      · exact kept.unchanged _

theorem answerSim_kept (call : SimCall) (kept : Kept permit base drawn cloud)
    (harmless : (Request.sim call).Harmless permit base) :
    Leaves permit base drawn (.sim call) cloud := by
  rw [Leaves, answerRequest]
  cases call with
  | read id =>
      simp only [answerSim, yields_find]
      split
      · exact kept
      · exact kept.unchanged _
  | assignIp id ipAddress =>
      simp only [answerSim, yields_bind, yields_change, yields_pure]
      split
      next stored =>
        exact { kept with sims := kept.sims.change stored fun _ changed =>
          changed.assigned harmless rfl }
      next => exact kept.unchanged _

/-- A registry may be written that the base has not numbered. -/
theorem Kept.writeRegistry (kept : Kept permit base drawn cloud) (counted : base.Counted)
    (new : ¬ base.Reached id) (registry : ContainerRegistry) :
    Kept permit base drawn { cloud with registries := cloud.registries.insert id registry } :=
  { kept with registries := kept.registries.insert_new counted.registries new registry }

theorem answerRegistry_kept (call : ContainerRegistryCall) (counted : base.Counted)
    (kept : Kept permit base drawn cloud)
    (room : base.lastId.toNat + (drawn + (Request.containerRegistry call).draws) < UInt64.size)
    (harmless : (Request.containerRegistry call).Harmless permit base) :
    Leaves permit base drawn (.containerRegistry call) cloud := by
  rw [Leaves, answerRequest]
  cases call with
  | create request =>
      exact ((kept.draw room).writeRegistry counted (kept.new room) _).counting _
  | read id =>
      rw [answerRegistry]
      exact readSettling_kept registryTable_lawful kept fun pending record stored =>
        (kept.counting pending).writeRegistry counted harmless _
  | update id request =>
      simp only [answerRegistry, yields_change]
      split
      · exact kept.writeRegistry counted harmless _
      · exact kept.unchanged _
  | delete id =>
      simp only [answerRegistry, yields_remove]
      split
      · exact { kept with registries := kept.registries.erase_new counted.registries harmless }
      · exact kept.unchanged _
  | addUser id user =>
      simp only [answerRegistry, addRegistryUser, yields_bind, yields_find, yields_ite,
        yields_throw, yields_change, yields_pure]
      split
      · split
        · exact kept.unchanged _
        · exact kept.writeRegistry counted harmless _
      · exact kept.unchanged _
  | deleteUser id userName =>
      simp only [answerRegistry, deleteRegistryUser, yields_bind, yields_find, yields_ite,
        yields_throw, yields_change, yields_pure]
      split
      · split
        · exact kept.unchanged _
        · exact kept.writeRegistry counted harmless _
      · exact kept.unchanged _

theorem answerLocalRouter_kept (call : LocalRouterCall) (counted : base.Counted)
    (kept : Kept permit base drawn cloud)
    (room : base.lastId.toNat + (drawn + (Request.localRouter call).draws) < UInt64.size)
    (harmless : (Request.localRouter call).Harmless permit base) :
    Leaves permit base drawn (.localRouter call) cloud := by
  rw [Leaves, answerRequest]
  cases call with
  | create request =>
      have room : base.lastId.toNat + (drawn + 2) < UInt64.size := room
      have drew := (kept.draw (by omega)).draw (by omega)
      exact { drew with localRouters :=
        drew.localRouters.insert_new counted.localRouters (kept.new (by omega)) _ }
  | read id =>
      rw [answerLocalRouter]
      exact readSettling_kept localRouterTable_lawful kept fun pending record stored =>
        { kept with localRouters := kept.localRouters.change stored fun _ => .settled }
  | updateSettings id settings settingsHash =>
      have drew := kept.draw room
      simp only [answerLocalRouter, updateLocalRouterSettings, yields_bind, yields_freshHash,
        yields_find, yields_checkHash, yields_change]
      repeat' split
      · exact { drew with
          localRouters := drew.localRouters.insert_new counted.localRouters harmless _ }
      all_goals exact ⟨1, Nat.le_refl 1, drew⟩
  | delete id =>
      simp only [answerLocalRouter, yields_remove]
      split
      · exact { kept with
          localRouters := kept.localRouters.erase_new counted.localRouters harmless }
      · exact kept.unchanged _

theorem answerCatalogue_kept (call : CatalogueCall) (kept : Kept permit base drawn cloud) :
    Leaves permit base drawn (.catalogue zone call) cloud := by
  rw [Leaves, answerRequest]
  cases call with
  | findArchives condition => exact kept
  | findServerPlans => exact kept
  | readArchive id | readDiskPlan id | readSwitch id | readPacketFilter id | readCdrom id =>
      simp only [answerCatalogue, yields_find]
      split
      · exact kept
      · exact kept.unchanged _

theorem answerCredential_kept (call : CredentialCall) (counted : base.Counted)
    (kept : Kept permit base drawn cloud)
    (room : base.lastId.toNat + (drawn + (Request.credential call).draws) < UInt64.size)
    (harmless : (Request.credential call).Harmless permit base) :
    Leaves permit base drawn (.credential call) cloud := by
  rw [Leaves, answerRequest]
  cases call with
  | generateSshKey request =>
      exact { kept.draw room with
        sshKeys := kept.sshKeys.insert_new counted.sshKeys (kept.new room) _ }
  | createNote request =>
      exact { kept.draw room with
        notes := kept.notes.insert_new counted.notes (kept.new room) _ }
  | readSshKey id | readNote id =>
      simp only [answerCredential, yields_find]
      split
      · exact kept
      · exact kept.unchanged _
  | deleteSshKey id =>
      simp only [answerCredential, yields_remove]
      split
      · exact { kept with sshKeys := kept.sshKeys.erase_new counted.sshKeys harmless }
      · exact kept.unchanged _
  | deleteNote id =>
      simp only [answerCredential, yields_remove]
      split
      · exact { kept with notes := kept.notes.erase_new counted.notes harmless }
      · exact kept.unchanged _

/-- A server may be written that the base has not numbered. -/
theorem Kept.writeServer (kept : Kept permit base drawn cloud) (counted : base.Counted)
    (new : ¬ base.Reached id) (server : Server) :
    Kept permit base drawn { cloud with servers := cloud.servers.insert id server } :=
  { kept with servers := kept.servers.insert_new counted.servers new server }

/-- A disk may be created for a server that the base does not store. -/
theorem Kept.createDisk (kept : Kept permit base drawn cloud) (counted : base.Counted)
    (room : base.lastId.toNat + (drawn + 1) < UInt64.size) (request : DiskCreateRequest)
    (edit : Option DiskEditRequest) (unlisted : base.servers.get? request.serverId = none) :
    (createDisk request edit).Yields cloud (fun _ after => Kept permit base (drawn + 1) after)
      (fun _ after => ∃ some ≤ 1, Kept permit base (drawn + some) after) := by
  have new := kept.new room
  have created : Kept permit base (drawn + 1) (cloud.withDisk request edit) :=
    { kept.draw room with
      disks := kept.disks.insert_new counted.disks new _
      servers := kept.servers.modify_absent unlisted _
      diskEdits := by
        cases edit with
        | none => exact kept.diskEdits
        | some edit => exact kept.diskEdits.insert_new counted.diskEdits new edit }
  rw [yields_createDisk]
  split
  · exact created
  · split
    · exact kept.unchanged 1
    · exact created

theorem answerDisk_kept (call : DiskCall) (counted : base.Counted)
    (kept : Kept permit base drawn cloud)
    (room : base.lastId.toNat + (drawn + (Request.disk zone call).draws) < UInt64.size)
    (harmless : (Request.disk zone call).Harmless permit base) :
    Leaves permit base drawn (.disk zone call) cloud := by
  rw [Leaves, answerRequest]
  cases call with
  | create request distantFrom => exact kept.createDisk counted room request none harmless
  | createWithConfig request edit bootAtAvailable distantFrom =>
      exact kept.createDisk counted room request (some edit) harmless
  | read id =>
      rw [answerDisk]
      exact readSettling_kept diskTable_lawful kept fun pending record stored =>
        { kept with disks := kept.disks.change stored fun _ => .settled }
  | update id request =>
      simp only [answerDisk, yields_change]
      split
      · exact { kept with disks := kept.disks.insert_new counted.disks harmless _ }
      · exact kept.unchanged _
  | delete id =>
      simp only [answerDisk, yields_remove]
      split
      · exact { kept with disks := kept.disks.erase_new counted.disks harmless }
      · exact kept.unchanged _
  | connectToServer id serverId =>
      obtain ⟨permitted, rfl, new⟩ := harmless
      simp only [answerDisk, connectDisk, yields_bind, yields_change, yields_pure]
      split
      · have listed := kept.writeServer counted new
        split
        next stored =>
          exact { listed _ with
            disks := kept.disks.change stored fun _ changed => changed.connected permitted }
        next => exact (listed _).unchanged _
      · exact kept.unchanged _
  | config id edit =>
      simp only [answerDisk, configureDisk, yields_bind, yields_change, yields_track,
        yields_modify]
      split
      · exact { kept with
          disks := kept.disks.insert_new counted.disks harmless _
          diskEdits := kept.diskEdits.insert_new counted.diskEdits harmless _ }
      · exact kept.unchanged _

/-- No server of the base has a new interface. -/
theorem Kept.changeInterface (kept : Kept permit base drawn cloud) (counted : base.Counted)
    (new : ¬ base.Reached id) (change : Interface → Interface) :
    (changeInterface id change).Yields cloud (fun _ after => Kept permit base drawn after)
      (fun _ after => ∃ some ≤ 0, Kept permit base (drawn + some) after) := by
  rw [yields_changeInterface]
  split
  next owner interfaces found =>
    obtain ⟨server, inside, changes⟩ := findInterfaceOwner_sound found
    have listed : id ∈ server.interfaceIds := changeInterfaceIn_lists changes
    have stored : cloud.servers.get? owner = some server :=
      SortedMap.find?_of_mem cloud.servers.ascending inside
    apply CloudStep.Yields.change _ _ stored
    -- If the owner were in the base, the counter would have reached the interface.
    refine { kept with servers := kept.servers.insert fun record inBase => ?_ }
    obtain ⟨same, storedToo, rfl⟩ := kept.servers owner record inBase
    cases stored.symm.trans storedToo
    exact absurd (counted.interfaces owner _ inBase id listed) new
  next => exact kept.unchanged 0

/-- A server that is created draws a number for itself and one for each interface. -/
theorem Kept.createServer (kept : Kept permit base drawn cloud) (counted : base.Counted)
    (request : ServerCreateRequest)
    (room : base.lastId.toNat + (drawn + (1 + request.connectedSwitches.length)) < UInt64.size) :
    (createServer request).Yields cloud
      (fun _ after => Kept permit base (drawn + (1 + request.connectedSwitches.length)) after)
      (fun _ after => ∃ some ≤ 1 + request.connectedSwitches.length,
        Kept permit base (drawn + some) after) := by
  have drew := (kept.draw (by omega)).drawMany request.connectedSwitches.length (by omega)
  rw [Nat.add_assoc] at drew
  simp only [Cloud.createServer, yields_bind, yields_findServerPlan, yields_allocate,
    yields_createInterfaces, yields_insert, yields_pure]
  split
  · exact drew.writeServer counted (kept.new (by omega)) _
  · exact kept.unchanged _

theorem answerServer_kept (call : ServerCall) (counted : base.Counted)
    (kept : Kept permit base drawn cloud)
    (room : base.lastId.toNat + (drawn + (Request.server zone call).draws) < UInt64.size)
    (harmless : (Request.server zone call).Harmless permit base) :
    Leaves permit base drawn (.server zone call) cloud := by
  rw [Leaves, answerRequest]
  cases call with
  | create request => exact kept.createServer counted request room
  | read id =>
      simp only [answerServer, yields_find]
      split
      · exact kept
      · exact kept.unchanged _
  | update id request =>
      simp only [answerServer, yields_change]
      split
      · exact kept.writeServer counted harmless _
      · exact kept.unchanged _
  | delete id =>
      simp only [answerServer, yields_remove]
      split
      · exact { kept with servers := kept.servers.erase_new counted.servers harmless }
      · exact kept.unchanged _
  | boot id | ejectCdrom id cdromId =>
      simp only [answerServer, yields_bind, yields_change, yields_pure]
      split
      · exact kept.writeServer counted harmless _
      · exact kept.unchanged _
  | shutdown id force =>
      simp only [answerServer, yields_bind, yields_change, yields_recordShutdown]
      split
      · exact (kept.writeServer counted harmless _).recording _
      · exact kept.unchanged _
  | changePlan id planId => exact False.elim harmless
  | insertCdrom id cdromId =>
      simp only [answerServer, yields_bind, yields_find, yields_change, yields_pure]
      split
      · split
        · exact kept.writeServer counted harmless _
        · exact kept.unchanged _
      · exact kept.unchanged _
  | connectToPacketFilter interfaceId packetFilterId =>
      simp only [answerServer, yields_bind, yields_find]
      split
      · exact kept.changeInterface counted harmless _
      · exact kept.unchanged _
  | updateInterface interfaceId request => exact kept.changeInterface counted harmless _

end Families

/-- The answer to a harmless request leaves the records of the base undisturbed. -/
theorem answerRequest_kept (request : Request) (counted : base.Counted)
    (kept : Kept permit base drawn cloud)
    (room : base.lastId.toNat + (drawn + request.draws) < UInt64.size)
    (harmless : request.Harmless permit base) : Leaves permit base drawn request cloud := by
  cases request with
  | disk zone call => exact answerDisk_kept call counted kept room harmless
  | catalogue zone call => exact answerCatalogue_kept call kept
  | credential call => exact answerCredential_kept call counted kept room harmless
  | server zone call => exact answerServer_kept call counted kept room harmless
  | database zone call => exact answerDatabase_kept call counted kept room harmless
  | vpcRouter zone call => exact answerVpcRouter_kept call counted kept room harmless
  | mobileGateway zone call => exact answerMobileGateway_kept call counted kept room harmless
  | sim call => exact answerSim_kept call kept harmless
  | containerRegistry call => exact answerRegistry_kept call counted kept room harmless
  | localRouter call => exact answerLocalRouter_kept call counted kept room harmless

end Cloud

end Provisioning
