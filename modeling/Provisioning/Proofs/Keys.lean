import Provisioning.Proofs.Arising
import Provisioning.Proofs.Ledger
import Provisioning.Proofs.ServerUpdate

/-!
Keys of records. Each record is kept under its own identifier. Every family of calls maintains this
for its records, and a record that is new bears a number that its request has drawn.
-/

namespace Provisioning

open Cloud CloudStep

variable {α β ρ : Type}

/-- A record has its own key when it is kept under its identifier, which is allowed. -/
def Cloud.OwnKey (allowed : ResourceId → Prop) (idOf : ρ → ResourceId) (id : ResourceId)
    (record : ρ) : Prop :=
  idOf record = id ∧ allowed id

namespace CloudStep

/-- A step maintains an invariant when it holds after the step as well, whether the step succeeds or
fails. -/
def Maintains (invariant : Cloud → Prop) (step : CloudStep α) : Prop :=
  ∀ cloud, invariant cloud → step.Yields cloud (fun _ => invariant) (fun _ => invariant)

section Rules

variable {invariant : Cloud → Prop} {step : CloudStep α} {continuation : α → CloudStep β}

/-- Steps that maintain an invariant are sequenced to one that maintains it. -/
theorem Maintains.bind (first : Maintains invariant step)
    (rest : ∀ value, Maintains invariant (continuation value)) :
    Maintains invariant (step >>= continuation) := by
  intro cloud holds
  rw [yields_bind]
  exact (first cloud holds).mono (fun value middle => rest value middle) fun _ _ kept => kept

theorem maintains_pure (value : α) : Maintains invariant (pure value) := fun _ holds => holds

theorem maintains_modify {change : Cloud → Cloud}
    (kept : ∀ cloud, invariant cloud → invariant (change cloud)) :
    Maintains invariant (modify change : CloudStep PUnit) := kept

end Rules

section Tables

variable {table : Table ρ} {holds : ResourceId → ρ → Prop}

/-- A preparation writes no record. -/
theorem Prepares.maintains {step : CloudStep α} (prepares : Prepares step) (lawful : table.Lawful) :
    Maintains (fun cloud => Each holds (table.read cloud)) step := by
  intro cloud each
  have same (after : Cloud) (prepared : cloud.SameButCounter after) :
      Each holds (table.read after) := by
    have read := lawful.read_counters cloud after.lastId cloud.pending cloud.calls cloud.failures
    rw [prepared]
    exact read.symm ▸ each
  exact (prepares cloud).mono (fun _ => same) fun _ => same

/-- A change maintains what holds of each record when the edited record has it as well. -/
theorem maintains_change (lawful : table.Lawful) (id : ResourceId) {edit : ρ → ρ}
    (kept : ∀ id record, holds id record → holds id (edit record)) :
    Maintains (fun cloud => Each holds (table.read cloud)) (table.change id edit) := by
  intro cloud each
  rw [yields_change]
  split
  next record stored =>
    rw [lawful.read_write]
    exact each.insert (kept id record (each id record stored))
  next => exact each

/-- A removal maintains what holds of each record. -/
theorem maintains_remove (lawful : table.Lawful) (id : ResourceId) :
    Maintains (fun cloud => Each holds (table.read cloud)) (table.remove id) := by
  intro cloud each
  rw [yields_remove]
  split
  · rw [lawful.read_write]
    exact each.erase
  · exact each

/-- A read that settles a record maintains what holds of each record when the settled record has it
as well. -/
theorem maintains_readSettling (lawful : table.Lawful) (id : ResourceId) {settled : ρ → ρ}
    (kept : ∀ id record, holds id record → holds id (settled record)) :
    Maintains (fun cloud => Each holds (table.read cloud)) (table.readSettling id settled) := by
  intro cloud each
  have counted (pending : Records Nat) :
      Each holds (table.read { cloud with pending := pending }) := by
    rw [lawful.read_counters cloud cloud.lastId pending cloud.calls cloud.failures]
    exact each
  rw [yields_readSettling]
  split
  · exact each
  · split
    · exact maintains_change lawful id kept cloud each
    · split
      · exact (prepares_find table id).maintains lawful _ (counted _)
      · exact maintains_change lawful id kept _ (counted _)

end Tables

end CloudStep

namespace Cloud

variable {allowed : ResourceId → Prop} {cloud : Cloud}

/-- The numbers that a request draws when it succeeds are allowed. -/
def Allots (allowed : ResourceId → Prop) (cloud : Cloud) (request : Request) : Prop :=
  ∀ number ∈ numbersAfter cloud.lastId request.draws, allowed ⟨number⟩

/-- What an answer maintains anyway, it maintains with the numbers that are allotted to it. -/
theorem maintained {invariant : Cloud → Prop} {step : CloudStep α} {allots : Prop}
    (maintains : Maintains invariant step) (holds : invariant cloud) :
    step.Yields cloud (fun _ after => allots → invariant after) (fun _ after => invariant after) :=
  (maintains cloud holds).mono (fun _ _ kept _ => kept) fun _ _ kept => kept

/-- Records that go on showing their identifiers keep their own keys. -/
theorem maintains_of_showsSame {table : Table ρ} {idOf : ρ → ResourceId} {step : CloudStep α}
    (shows : ∀ cloud, step.Yields cloud (fun _ after => table.ShowsSame idOf cloud after)
      (fun _ after => table.ShowsSame idOf cloud after)) :
    Maintains (fun cloud => Each (OwnKey allowed idOf) (table.read cloud)) step := by
  intro cloud keyed
  have each {after : Cloud} (same : table.ShowsSame idOf cloud after) :
      Each (OwnKey allowed idOf) (table.read after) :=
    same.each (fun id shown => shown = id ∧ allowed id) keyed
  exact (shows cloud).mono (fun _ _ => each) fun _ _ => each

theorem settledDatabase_id (database : Database) : (settledDatabase database).id = database.id := by
  unfold settledDatabase
  split <;> rfl

theorem answerDisk_keyed (zone : Zone) (call : DiskCall)
    (keyed : Each (OwnKey allowed Disk.id) cloud.disks) :
    (answerDisk call).Yields cloud
      (fun _ after => cloud.Allots allowed (.disk zone call) →
        Each (OwnKey allowed Disk.id) after.disks)
      (fun _ after => Each (OwnKey allowed Disk.id) after.disks) := by
  have creates (request : DiskCreateRequest) (edit : Option DiskEditRequest) :
      (createDisk request edit).Yields cloud
        (fun _ after => (∀ number ∈ numbersAfter cloud.lastId 1, allowed ⟨number⟩) →
          Each (OwnKey allowed Disk.id) after.disks)
        (fun _ after => Each (OwnKey allowed Disk.id) after.disks) := by
    have stores : (∀ number ∈ numbersAfter cloud.lastId 1, allowed ⟨number⟩) →
        Each (OwnKey allowed Disk.id) (cloud.withDisk request edit).disks :=
      fun allots => keyed.insert ⟨rfl, allots _ List.mem_cons_self⟩
    rw [yields_createDisk]
    repeat' split
    · exact stores
    · exact keyed
    · exact stores
  have lawful := diskTable_lawful
  have listsDisk (serverId id : ResourceId) :
      Maintains (fun cloud => Each (OwnKey allowed Disk.id) (diskTable.read cloud))
        (serverTable.change serverId fun server =>
          { server with diskIds := server.diskIds ++ [id] }) := by
    intro cloud each
    rw [yields_change]
    split <;> exact each
  cases call with
  | create request distantFrom => exact creates request none
  | createWithConfig request edit bootAtAvailable distantFrom => exact creates request (some edit)
  | read id => exact maintained (maintains_readSettling lawful id fun _ _ named => named) keyed
  | update id request => exact maintained (maintains_change lawful id fun _ _ named => named) keyed
  | delete id => exact maintained (maintains_remove lawful id) keyed
  | connectToServer id serverId =>
      exact maintained ((listsDisk serverId id).bind fun _ =>
        (maintains_change lawful id fun _ _ named => by exact named).bind fun _ =>
        maintains_pure _) keyed
  | config id edit =>
      exact maintained ((maintains_change lawful id fun _ _ named => by exact named).bind fun _ =>
        (maintains_modify fun _ each => by exact each).bind fun _ =>
        maintains_modify fun _ each => by exact each) keyed

theorem answerDatabase_keyed (zone : Zone) (call : DatabaseCall)
    (keyed : Each (OwnKey allowed Database.id) cloud.databases) :
    (answerDatabase call).Yields cloud
      (fun _ after => cloud.Allots allowed (.database zone call) →
        Each (OwnKey allowed Database.id) after.databases)
      (fun _ after => Each (OwnKey allowed Database.id) after.databases) := by
  have lawful := databaseTable_lawful
  cases call with
  | create request =>
      simp only [answerDatabase, createDatabase, yields_bind, yields_find, yields_allocate,
        yields_freshHash, yields_insert, yields_track, yields_pure]
      split
      · exact fun allots => keyed.insert ⟨rfl, allots _ List.mem_cons_self⟩
      · exact keyed
  | read id =>
      refine maintained (maintains_readSettling lawful id fun key database named => ?_) keyed
      exact ⟨(settledDatabase_id database).trans named.1, named.2⟩
  | update id request =>
      exact maintained ((prepares_freshHash.maintains lawful).bind fun _ =>
        ((prepares_find _ _).maintains lawful).bind fun _ =>
        ((prepares_checkHash _ _).maintains lawful).bind fun _ =>
        maintains_change lawful id fun _ _ named => named) keyed
  | delete id => exact maintained (maintains_remove lawful id) keyed
  | boot id =>
      exact maintained ((maintains_change lawful id fun _ _ named => by exact named).bind fun _ =>
        maintains_pure _) keyed
  | shutdown id force =>
      exact maintained ((maintains_change lawful id fun _ _ named => by exact named).bind fun _ =>
        maintains_modify fun _ each => by exact each) keyed
  | config id | status id =>
      exact maintained (((prepares_find _ _).maintains lawful).bind fun _ => maintains_pure _) keyed
  | setParameters id parameters =>
      exact maintained (((prepares_find _ _).maintains lawful).bind fun _ =>
        maintains_modify fun _ each => by exact each) keyed

theorem answerVpcRouter_keyed (zone : Zone) (call : VpcRouterCall)
    (keyed : Each (OwnKey allowed VpcRouter.id) cloud.vpcRouters) :
    (answerVpcRouter call).Yields cloud
      (fun _ after => cloud.Allots allowed (.vpcRouter zone call) →
        Each (OwnKey allowed VpcRouter.id) after.vpcRouters)
      (fun _ after => Each (OwnKey allowed VpcRouter.id) after.vpcRouters) := by
  have shown (keeps : call.Keeps VpcRouter.id) :
      Maintains (fun cloud => Each (OwnKey allowed VpcRouter.id) cloud.vpcRouters)
        (answerVpcRouter call) :=
    maintains_of_showsSame fun _ => answerVpcRouter_showsSame call keeps
  cases call with
  | create request => exact fun allots => keyed.insert ⟨rfl, allots _ List.mem_cons_self⟩
  | delete id => exact maintained (maintains_remove vpcRouterTable_lawful id) keyed
  | connectToSwitch | config => exact maintained (shown trivial) keyed
  | _ => exact maintained (shown fun _ _ => rfl) keyed

theorem answerMobileGateway_keyed (zone : Zone) (call : MobileGatewayCall)
    (keyed : Each (OwnKey allowed MobileGateway.id) cloud.mobileGateways) :
    (answerMobileGateway call).Yields cloud
      (fun _ after => cloud.Allots allowed (.mobileGateway zone call) →
        Each (OwnKey allowed MobileGateway.id) after.mobileGateways)
      (fun _ after => Each (OwnKey allowed MobileGateway.id) after.mobileGateways) := by
  have shown (keeps : call.Keeps MobileGateway.id) :
      Maintains (fun cloud => Each (OwnKey allowed MobileGateway.id) cloud.mobileGateways)
        (answerMobileGateway call) :=
    maintains_of_showsSame fun _ => answerMobileGateway_showsSame call keeps
  cases call with
  | create request => exact fun allots => keyed.insert ⟨rfl, allots _ List.mem_cons_self⟩
  | delete id => exact maintained (maintains_remove mobileGatewayTable_lawful id) keyed
  | connectToSwitch | config | setDns | setTrafficConfig => exact maintained (shown trivial) keyed
  | _ => exact maintained (shown fun _ _ => rfl) keyed

theorem answerCredential_keyed (call : CredentialCall)
    (keys : Each (OwnKey allowed SshKey.id) cloud.sshKeys)
    (notes : Each (OwnKey allowed Note.id) cloud.notes) :
    (answerCredential call).Yields cloud
      (fun _ after => cloud.Allots allowed (.credential call) →
        Each (OwnKey allowed SshKey.id) after.sshKeys ∧ Each (OwnKey allowed Note.id) after.notes)
      (fun _ after => Each (OwnKey allowed SshKey.id) after.sshKeys ∧
        Each (OwnKey allowed Note.id) after.notes) := by
  cases call with
  | generateSshKey request =>
      exact fun allots => ⟨keys.insert ⟨rfl, allots _ List.mem_cons_self⟩, notes⟩
  | createNote request =>
      exact fun allots => ⟨keys, notes.insert ⟨rfl, allots _ List.mem_cons_self⟩⟩
  | readSshKey id | readNote id =>
      rw [answerCredential, yields_find]
      split
      · exact fun _ => ⟨keys, notes⟩
      · exact ⟨keys, notes⟩
  | deleteSshKey id =>
      rw [answerCredential, yields_remove]
      split
      · exact fun _ => ⟨keys.erase, notes⟩
      · exact ⟨keys, notes⟩
  | deleteNote id =>
      rw [answerCredential, yields_remove]
      split
      · exact fun _ => ⟨keys, notes.erase⟩
      · exact ⟨keys, notes⟩

theorem answerSim_maintains_sims (call : SimCall) :
    Maintains (fun cloud => Each (OwnKey allowed Sim.id) cloud.sims) (answerSim call) := by
  have lawful := simTable_lawful
  cases call with
  | read id => exact (prepares_find _ _).maintains lawful
  | assignIp id ipAddress =>
      exact (maintains_change lawful id fun _ _ named => by exact named).bind fun _ =>
        maintains_pure _

/-- A rule for the key, the identifier and the users of a registry lasts while users come and go. -/
structure UserRule (holds : ResourceId → ResourceId → List String → Prop) : Prop where
  add : ∀ key id names name, holds key id names → name ∉ names → holds key id (names ++ [name])
  delete : ∀ key id names name, holds key id names → holds key id (names.filter (· != name))

/-- A call about a registry obeys a rule for keys, identifiers and users that new registries obey.
-/
theorem answerRegistry_obeys {holds : ResourceId → ResourceId → List String → Prop}
    (rule : UserRule holds) (call : ContainerRegistryCall)
    (obeys : Each (fun key registry => holds key registry.id registry.userNames) cloud.registries) :
    (answerRegistry call).Yields cloud
      (fun _ after => (∀ number ∈ numbersAfter cloud.lastId (Request.containerRegistry call).draws,
          holds ⟨number⟩ ⟨number⟩ []) →
        Each (fun key registry => holds key registry.id registry.userNames) after.registries)
      (fun _ after =>
        Each (fun key registry => holds key registry.id registry.userNames) after.registries) := by
  have lawful := registryTable_lawful
  cases call with
  | create request => exact fun new => obeys.insert (new _ List.mem_cons_self)
  | read id => exact maintained (maintains_readSettling lawful id fun _ _ same => same) obeys
  | update id request => exact maintained (maintains_change lawful id fun _ _ same => same) obeys
  | delete id => exact maintained (maintains_remove lawful id) obeys
  | addUser id user =>
      rw [answerRegistry, addRegistryUser, yields_bind, yields_find]
      split
      next registry stored =>
        dsimp only
        split
        · exact obeys
        next new =>
          rw [yields_bind]
          apply Yields.change _ _ stored
          rw [List.contains_iff_mem] at new
          exact fun _ => obeys.insert (rule.add _ _ _ _ (obeys id registry stored) new)
      · exact obeys
  | deleteUser id userName =>
      rw [answerRegistry, deleteRegistryUser, yields_bind, yields_find]
      split
      next registry stored =>
        dsimp only
        split
        · exact obeys
        · rw [yields_bind]
          apply Yields.change _ _ stored
          exact fun _ => obeys.insert (rule.delete _ _ _ _ (obeys id registry stored))
      · exact obeys

theorem answerRegistry_keyed (call : ContainerRegistryCall)
    (keyed : Each (OwnKey allowed ContainerRegistry.id) cloud.registries) :
    (answerRegistry call).Yields cloud
      (fun _ after => cloud.Allots allowed (.containerRegistry call) →
        Each (OwnKey allowed ContainerRegistry.id) after.registries)
      (fun _ after => Each (OwnKey allowed ContainerRegistry.id) after.registries) := by
  let named (key id : ResourceId) (_ : List String) : Prop := id = key ∧ allowed key
  have rule : UserRule named := ⟨fun _ _ _ _ own _ => own, fun _ _ _ _ own => own⟩
  apply (answerRegistry_obeys rule call keyed).mono
  · exact fun _ _ kept allots => kept fun number drawn => ⟨rfl, allots number drawn⟩
  · exact fun _ _ kept => kept

theorem answerLocalRouter_keyed (call : LocalRouterCall)
    (keyed : Each (OwnKey allowed LocalRouter.id) cloud.localRouters) :
    (answerLocalRouter call).Yields cloud
      (fun _ after => cloud.Allots allowed (.localRouter call) →
        Each (OwnKey allowed LocalRouter.id) after.localRouters)
      (fun _ after => Each (OwnKey allowed LocalRouter.id) after.localRouters) := by
  have lawful := localRouterTable_lawful
  cases call with
  | create request => exact fun allots => keyed.insert ⟨rfl, allots _ List.mem_cons_self⟩
  | read id => exact maintained (maintains_readSettling lawful id fun _ _ named => named) keyed
  | updateSettings id settings settingsHash =>
      exact maintained ((prepares_freshHash.maintains lawful).bind fun _ =>
        ((prepares_find _ _).maintains lawful).bind fun _ =>
        ((prepares_checkHash _ _).maintains lawful).bind fun _ =>
        maintains_change lawful id fun _ _ named => named) keyed
  | delete id => exact maintained (maintains_remove lawful id) keyed

/-- Calls about servers leave all disks under their identifiers, even those that follow a server. -/
theorem answerServer_maintains_disks (call : ServerCall) :
    Maintains (fun cloud => Each (OwnKey allowed Disk.id) cloud.disks) (answerServer call) :=
  maintains_of_showsSame fun _ => answerServer_showsSame_disks call fun _ _ => rfl

/-- What an answer maintains when its numbers are allowed, the call maintains when they are. -/
theorem maintained_call (invariant : Cloud → Prop) (request : Request)
    (logged : ∀ failures, invariant (cloud.logging request failures))
    (answered : (answerRequest request).Yields (cloud.logging request cloud.failures)
      (fun _ after => cloud.Allots allowed request → invariant after)
      (fun _ after => invariant after))
    (allots : ∀ number ∈ numbersAfter cloud.lastId (cloud.drawn request), allowed ⟨number⟩) :
    invariant (call request cloud).2 := by
  unfold drawn at allots
  revert allots
  refine call_elim (motive := fun outcome after =>
    (∀ number ∈ numbersAfter cloud.lastId
      (if (request.endpoint.takeFirst cloud.failures).isSome then 0
        else if outcome.isOk then request.draws else request.drawsInVain), allowed ⟨number⟩) →
      invariant after) ?_ ?_
  · exact fun _ failures _ _ => logged failures
  · intro quiet
    rw [quiet]
    exact answered.mono (fun _ _ kept allots => kept allots) fun _ _ kept _ => kept

end Cloud

end Provisioning
