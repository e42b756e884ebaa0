import Provisioning.Cloud.Answer

/-!
Rules for steps of the cloud. A step yields a condition on its value and on the cloud that it leaves
behind, or a condition on its failure. The rules follow a step from its first read to its last
write.
-/

namespace Provisioning

variable {α β ρ : Type}

/-- A step yields one condition when it succeeds and another one when it fails. -/
def CloudStep.Yields (step : CloudStep α) (cloud : Cloud) (succeeds : α → Cloud → Prop)
    (fails : RemoteError → Cloud → Prop) : Prop :=
  match step.run.run cloud with
  | (.ok value, after) => succeeds value after
  | (.error error, after) => fails error after

/-- This is the text of the settings hash that a number of the counter becomes. -/
def Cloud.hashText (number : UInt64) : String := s!"hash-{(ResourceId.mk number).text}"

/-- A lawful table reads what was written to it, and keeps its records apart from the counters, the
log and the announced failures. -/
structure Cloud.Table.Lawful (table : Cloud.Table ρ) : Prop where
  read_write : ∀ cloud records, table.read (table.write cloud records) = records
  read_counters : ∀ cloud lastId pending calls failures,
    table.read { cloud with
      lastId := lastId
      pending := pending
      calls := calls
      failures := failures } = table.read cloud
  lastId_write : ∀ cloud records, (table.write cloud records).lastId = cloud.lastId
  pending_write : ∀ cloud records, (table.write cloud records).pending = cloud.pending

namespace Cloud

theorem diskTable_lawful : diskTable.Lawful :=
  ⟨fun _ _ => rfl, fun _ _ _ _ _ => rfl, fun _ _ => rfl, fun _ _ => rfl⟩

theorem databaseTable_lawful : databaseTable.Lawful :=
  ⟨fun _ _ => rfl, fun _ _ _ _ _ => rfl, fun _ _ => rfl, fun _ _ => rfl⟩

theorem vpcRouterTable_lawful : vpcRouterTable.Lawful :=
  ⟨fun _ _ => rfl, fun _ _ _ _ _ => rfl, fun _ _ => rfl, fun _ _ => rfl⟩

theorem mobileGatewayTable_lawful : mobileGatewayTable.Lawful :=
  ⟨fun _ _ => rfl, fun _ _ _ _ _ => rfl, fun _ _ => rfl, fun _ _ => rfl⟩

theorem registryTable_lawful : registryTable.Lawful :=
  ⟨fun _ _ => rfl, fun _ _ _ _ _ => rfl, fun _ _ => rfl, fun _ _ => rfl⟩

theorem localRouterTable_lawful : localRouterTable.Lawful :=
  ⟨fun _ _ => rfl, fun _ _ _ _ _ => rfl, fun _ _ => rfl, fun _ _ => rfl⟩

end Cloud

namespace CloudStep

variable {cloud : Cloud} {succeeds : α → Cloud → Prop} {fails : RemoteError → Cloud → Prop}

/-- What always holds is yielded. -/
theorem Yields.of_forall {step : CloudStep α} (onSuccess : ∀ value after, succeeds value after)
    (onFailure : ∀ error after, fails error after) : Yields step cloud succeeds fails := by
  unfold Yields
  split
  · exact onSuccess _ _
  · exact onFailure _ _

/-- Conditions that a step yields may be weakened. -/
theorem Yields.mono {step : CloudStep α} {weaker : α → Cloud → Prop}
    {weakerFailure : RemoteError → Cloud → Prop} (yields : Yields step cloud succeeds fails)
    (onSuccess : ∀ value after, succeeds value after → weaker value after)
    (onFailure : ∀ error after, fails error after → weakerFailure error after) :
    Yields step cloud weaker weakerFailure := by
  unfold Yields at yields ⊢
  split
  next value after same =>
    rw [same] at yields
    exact onSuccess value after yields
  next error after same =>
    rw [same] at yields
    exact onFailure error after yields

/-- Conditions that a step yields may be joined. -/
theorem Yields.and {step : CloudStep α} {succeedsToo : α → Cloud → Prop}
    {failsToo : RemoteError → Cloud → Prop} (first : Yields step cloud succeeds fails)
    (second : Yields step cloud succeedsToo failsToo) :
    Yields step cloud (fun value after => succeeds value after ∧ succeedsToo value after)
      (fun error after => fails error after ∧ failsToo error after) := by
  unfold Yields at first second ⊢
  split
  next value after same =>
    rw [same] at first second
    exact ⟨first, second⟩
  next error after same =>
    rw [same] at first second
    exact ⟨first, second⟩

@[simp] theorem yields_pure (value : α) :
    Yields (pure value) cloud succeeds fails ↔ succeeds value cloud := Iff.rfl

@[simp] theorem yields_throw (error : RemoteError) :
    Yields (throw error : CloudStep α) cloud succeeds fails ↔ fails error cloud := Iff.rfl

@[simp] theorem yields_get {succeeds : Cloud → Cloud → Prop} :
    Yields (get : CloudStep Cloud) cloud succeeds fails ↔ succeeds cloud cloud := Iff.rfl

@[simp] theorem yields_modify {succeeds : PUnit → Cloud → Prop} (change : Cloud → Cloud) :
    Yields (modify change : CloudStep PUnit) cloud succeeds fails ↔ succeeds ⟨⟩ (change cloud) :=
  Iff.rfl

/-- A sequence yields what its second part yields after its first part. -/
@[simp] theorem yields_bind (step : CloudStep α) (continuation : α → CloudStep β)
    {succeeds : β → Cloud → Prop} :
    Yields (step >>= continuation) cloud succeeds fails ↔
      Yields step cloud (fun value after => Yields (continuation value) after succeeds fails)
        fails := by
  simp only [Yields]
  change (match (ExceptT.bindCont continuation (step.run.run cloud).1).run
      (step.run.run cloud).2 with
    | (.ok value, after) => succeeds value after
    | (.error error, after) => fails error after) ↔ _
  rcases step.run.run cloud with ⟨outcome, after⟩
  cases outcome <;> rfl

/-- A choice yields what the step yields that it chooses. -/
@[simp] theorem yields_ite (condition : Prop) [Decidable condition] (first second : CloudStep α) :
    Yields (if condition then first else second) cloud succeeds fails ↔
      if condition then Yields first cloud succeeds fails
      else Yields second cloud succeeds fails := by
  split <;> rfl

/-- A new identifier is the next number of the counter. -/
@[simp] theorem yields_allocate {succeeds : ResourceId → Cloud → Prop} :
    Yields Cloud.allocate cloud succeeds fails ↔
      succeeds ⟨cloud.lastId + 1⟩ { cloud with lastId := cloud.lastId + 1 } := Iff.rfl

/-- A new settings hash is the text of the next number of the counter. -/
@[simp] theorem yields_freshHash {succeeds : String → Cloud → Prop} :
    Yields Cloud.freshHash cloud succeeds fails ↔
      succeeds (Cloud.hashText (cloud.lastId + 1)) { cloud with lastId := cloud.lastId + 1 } :=
  Iff.rfl

@[simp] theorem yields_track {succeeds : Unit → Cloud → Prop} (id : ResourceId) :
    Yields (Cloud.track id) cloud succeeds fails ↔
      succeeds () { cloud with pending := cloud.pending.insert id cloud.settleReads } := Iff.rfl

@[simp] theorem yields_recordShutdown {succeeds : Unit → Cloud → Prop} (force : Bool) :
    Yields (Cloud.recordShutdown force) cloud succeeds fails ↔
      succeeds () { cloud with shutdownForces := cloud.shutdownForces ++ [force] } := Iff.rfl

/-- A comparison succeeds when the hash is current, and any other hash is a conflict. -/
@[simp] theorem yields_checkHash {succeeds : Unit → Cloud → Prop} (current given : String) :
    Yields (Cloud.checkHash current given) cloud succeeds fails ↔
      if current = given then succeeds () cloud
      else fails (.conflict "settings_hash_mismatch" "settings were changed concurrently")
        cloud := by
  unfold Cloud.checkHash
  split <;> rfl

/-- Only a count that is still above one keeps a record from settling. -/
@[simp] theorem yields_settle {succeeds : Bool → Cloud → Prop} (id : ResourceId) :
    Yields (Cloud.settle id) cloud succeeds fails ↔
      match cloud.pending.get? id with
      | none => succeeds true cloud
      | some left =>
          if 1 < left then
            succeeds false { cloud with pending := cloud.pending.insert id (left - 1) }
          else succeeds true { cloud with pending := cloud.pending.erase id } := by
  unfold Cloud.settle
  rw [yields_bind, yields_get]
  cases cloud.pending.get? id with
  | none => exact Iff.rfl
  | some left =>
      dsimp only
      split <;> rfl

section Table

variable (table : Cloud.Table ρ) (id : ResourceId)

/-- A lookup succeeds with the record that is stored, and fails when none is stored. -/
@[simp] theorem yields_find {succeeds : ρ → Cloud → Prop} :
    Yields (table.find id) cloud succeeds fails ↔
      match (table.read cloud).get? id with
      | some record => succeeds record cloud
      | none => fails (.missing table.resource id) cloud := by
  unfold Cloud.Table.find
  rw [yields_bind, yields_get]
  cases (table.read cloud).get? id <;> rfl

@[simp] theorem yields_insert {succeeds : Unit → Cloud → Prop} (record : ρ) :
    Yields (table.insert id record) cloud succeeds fails ↔
      succeeds () (table.write cloud ((table.read cloud).insert id record)) := Iff.rfl

/-- A change writes the changed record in the place of the stored one, and fails when none is
stored. -/
@[simp] theorem yields_change {succeeds : ρ → Cloud → Prop} (change : ρ → ρ) :
    Yields (table.change id change) cloud succeeds fails ↔
      match (table.read cloud).get? id with
      | some record =>
          succeeds (change record)
            (table.write cloud ((table.read cloud).insert id (change record)))
      | none => fails (.missing table.resource id) cloud := by
  simp only [Cloud.Table.change, yields_bind, yields_find, yields_insert, yields_pure]

/-- A stored record is found. -/
theorem Yields.find {record : ρ} {succeeds : ρ → Cloud → Prop}
    (stored : (table.read cloud).get? id = some record) (holds : succeeds record cloud) :
    Yields (table.find id) cloud succeeds fails := by
  rw [yields_find, stored]
  exact holds

/-- A stored record is changed. -/
theorem Yields.change {record : ρ} {succeeds : ρ → Cloud → Prop} {change : ρ → ρ}
    (stored : (table.read cloud).get? id = some record)
    (holds : succeeds (change record)
      (table.write cloud ((table.read cloud).insert id (change record)))) :
    Yields (table.change id change) cloud succeeds fails := by
  rw [yields_change, stored]
  exact holds

/-- A removal erases the stored record, and fails when none is stored. -/
@[simp] theorem yields_remove {succeeds : Unit → Cloud → Prop} :
    Yields (table.remove id) cloud succeeds fails ↔
      match (table.read cloud).get? id with
      | some _ => succeeds () (table.write cloud ((table.read cloud).erase id))
      | none => fails (.missing table.resource id) cloud := by
  simp only [Cloud.Table.remove, yields_bind, yields_find, yields_modify]

/-- A stored record is removed. -/
theorem Yields.remove {record : ρ} {succeeds : Unit → Cloud → Prop}
    (stored : (table.read cloud).get? id = some record)
    (holds : succeeds () (table.write cloud ((table.read cloud).erase id))) :
    Yields (table.remove id) cloud succeeds fails := by
  rw [yields_remove, stored]
  exact holds

/-- A read counts itself first, and settles the record when the count is over. -/
theorem yields_readSettling {succeeds : ρ → Cloud → Prop} (settled : ρ → ρ) :
    Yields (table.readSettling id settled) cloud succeeds fails ↔
      match (table.read cloud).get? id with
      | none => fails (.missing table.resource id) cloud
      | some _ =>
          match cloud.pending.get? id with
          | none => Yields (table.change id settled) cloud succeeds fails
          | some left =>
              if 1 < left then
                Yields (table.find id) { cloud with pending := cloud.pending.insert id (left - 1) }
                  succeeds fails
              else
                Yields (table.change id settled) { cloud with pending := cloud.pending.erase id }
                  succeeds fails := by
  unfold Cloud.Table.readSettling
  rw [yields_bind, yields_find]
  cases (table.read cloud).get? id with
  | none => exact Iff.rfl
  | some record =>
      dsimp only
      rw [yields_bind, yields_settle]
      cases cloud.pending.get? id with
      | none => exact Iff.rfl
      | some left =>
          dsimp only
          split <;> rfl

end Table

end CloudStep

/-- This is the record of a disk that has just been created. -/
def DiskCreateRequest.record (request : DiskCreateRequest) (id : ResourceId) : Disk where
  id := id
  name := request.name
  description := request.description
  tags := request.tags
  iconId := request.iconId
  availability := .migrating
  planId := request.planId
  sizeGb := request.sizeGb
  connection := request.connection
  sourceDiskId := request.sourceDiskId
  sourceArchiveId := request.sourceArchiveId
  serverId := request.serverId

namespace Cloud

/-- A new disk is numbered, listed by its server, kept with its edit, and tracked. -/
def withDisk (cloud : Cloud) (request : DiskCreateRequest) (edit : Option DiskEditRequest) :
    Cloud :=
  let id : ResourceId := ⟨cloud.lastId + 1⟩
  { cloud with
    lastId := cloud.lastId + 1
    servers := cloud.servers.modify request.serverId fun server =>
      { server with diskIds := server.diskIds ++ [id] }
    diskEdits := edit.elim cloud.diskEdits (cloud.diskEdits.insert id)
    disks := cloud.disks.insert id (request.record id)
    pending := cloud.pending.insert id cloud.settleReads }

/-- New interfaces are numbered one after the other from the counter on. -/
def numberedInterfaces (last : UInt64) : List SwitchConnection → List Interface
  | [] => []
  | uplink :: rest =>
      { id := ⟨last + 1⟩, uplink, packetFilterId := .unset, userIpAddress := none } ::
        numberedInterfaces (last + 1) rest

end Cloud

namespace CloudStep

variable {cloud : Cloud} {fails : RemoteError → Cloud → Prop}

/-- A disk is created unless the server that it is meant for is missing. -/
theorem yields_createDisk {succeeds : Disk → Cloud → Prop} (request : DiskCreateRequest)
    (edit : Option DiskEditRequest) :
    Yields (Cloud.createDisk request edit) cloud succeeds fails ↔
      match request.serverId.set? with
      | none => succeeds (request.record ⟨cloud.lastId + 1⟩) (cloud.withDisk request edit)
      | some serverId =>
          match cloud.servers.get? serverId with
          | none => fails (.missing "server" serverId) cloud
          | some _ =>
              succeeds (request.record ⟨cloud.lastId + 1⟩) (cloud.withDisk request edit) := by
  unfold Cloud.createDisk
  cases request.serverId.set? with
  | none => cases edit <;> exact Iff.rfl
  | some serverId =>
      dsimp only
      rw [yields_bind, yields_find]
      simp only [Cloud.serverTable]
      cases cloud.servers.get? serverId with
      | none => exact Iff.rfl
      | some server => cases edit <;> exact Iff.rfl

/-- The first plan of an identifier is found without a change to the cloud. -/
theorem yields_findServerPlan {succeeds : ServerPlan → Cloud → Prop} (planId : ResourceId) :
    Yields (Cloud.findServerPlan planId) cloud succeeds fails ↔
      match cloud.serverPlans.find? fun plan => plan.id == planId with
      | some plan => succeeds plan cloud
      | none => fails (.missing "server plan" planId) cloud := by
  unfold Cloud.findServerPlan
  rw [yields_bind, yields_get]
  cases cloud.serverPlans.find? fun plan => plan.id == planId <;> rfl

/-- Interfaces are created without fail, and each one draws one number. -/
theorem yields_createInterfaces (uplinks : List SwitchConnection)
    {succeeds : List Interface → Cloud → Prop} :
    Yields (Cloud.createInterfaces uplinks) cloud succeeds fails ↔
      succeeds (Cloud.numberedInterfaces cloud.lastId uplinks)
        { cloud with lastId := cloud.lastId + UInt64.ofNat uplinks.length } := by
  induction uplinks generalizing cloud succeeds with
  | nil =>
      have same : { cloud with lastId := cloud.lastId + 0 } = cloud := by
        rw [UInt64.add_zero]
      change succeeds [] cloud ↔ succeeds [] { cloud with lastId := cloud.lastId + 0 }
      rw [same]
  | cons uplink rest inductionHypothesis =>
      have counted : cloud.lastId + 1 + UInt64.ofNat rest.length =
          cloud.lastId + UInt64.ofNat (rest.length + 1) := by
        rw [UInt64.ofNat_add, UInt64.add_assoc, UInt64.add_comm 1]
        rfl
      rw [Cloud.createInterfaces, yields_bind, yields_allocate, yields_bind, inductionHypothesis]
      simp only [yields_pure, counted, Cloud.numberedInterfaces, List.length_cons]

/-- An interface is changed with the first server that has it. -/
theorem yields_changeInterface {succeeds : Unit → Cloud → Prop} (id : ResourceId)
    (change : Interface → Interface) :
    Yields (Cloud.changeInterface id change) cloud succeeds fails ↔
      match Cloud.findInterfaceOwner id change cloud.servers.entries with
      | some (serverId, interfaces) =>
          Yields (Cloud.serverTable.change serverId fun server => { server with interfaces }) cloud
            (fun _ => succeeds ()) fails
      | none => fails (.missing "interface" id) cloud := by
  unfold Cloud.changeInterface
  rw [yields_bind, yields_get]
  cases Cloud.findInterfaceOwner id change cloud.servers.entries with
  | none => exact Iff.rfl
  | some owner =>
      obtain ⟨serverId, interfaces⟩ := owner
      dsimp only
      rw [yields_bind]
      rfl

end CloudStep

/-- A call is logged, and the announced failures that are left stay announced. -/
def Cloud.logging (cloud : Cloud) (request : Request) (failures : List (Endpoint × RemoteError)) :
    Cloud :=
  { cloud with calls := cloud.calls ++ [request.endpoint], failures }

/-- What holds of an announced failure and of every answer to a logged call holds of the call. -/
theorem Cloud.call_elim {request : Request} {cloud : Cloud}
    {motive : Except RemoteError request.Answer → Cloud → Prop}
    (announced : ∀ error failures,
      request.endpoint.takeFirst cloud.failures = some (error, failures) →
        motive (.error error) (cloud.logging request failures))
    (answered : request.endpoint.takeFirst cloud.failures = none →
      (answerRequest request).Yields (cloud.logging request cloud.failures)
        (fun value => motive (.ok value)) (fun error => motive (.error error))) :
    motive (call request cloud).1 (call request cloud).2 := by
  unfold call
  cases found : request.endpoint.takeFirst cloud.failures with
  | some announcement =>
      obtain ⟨error, failures⟩ := announcement
      exact announced error failures found
  | none =>
      have result := answered found
      unfold CloudStep.Yields Cloud.logging at result
      dsimp only
      split at result
      next value after same => rw [same]; exact result
      next error after same => rw [same]; exact result

end Provisioning
