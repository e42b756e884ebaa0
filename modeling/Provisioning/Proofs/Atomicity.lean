import Provisioning.Proofs.CloudStep

/-!
Calls that fail. In every call but one each step that can fail comes before the first step that
writes, so a refused call has written nothing but the counter. The exception is the connection of a
disk, which lists the disk in its server before it looks for it. The main statement tells exactly
when a call that fails leaves its mark.
-/

namespace Provisioning

variable {α β ρ : Type}

/-- One cloud is the other one with another counter. -/
def Cloud.SameButCounter (before after : Cloud) : Prop :=
  after = { before with lastId := after.lastId }

namespace CloudStep

/-- A step that prepares another one writes nothing but the counter, and it may fail. -/
def Prepares (step : CloudStep α) : Prop :=
  ∀ cloud, step.Yields cloud (fun _ after => cloud.SameButCounter after)
    (fun _ after => cloud.SameButCounter after)

/-- A step completes when it never fails. -/
def Completes (step : CloudStep α) : Prop :=
  ∀ cloud, step.Yields cloud (fun _ _ => True) (fun _ _ => False)

/-- A step is atomic when it has written nothing but the counter whenever it fails. -/
def Atomic (step : CloudStep α) : Prop :=
  ∀ cloud, step.Yields cloud (fun _ _ => True) (fun _ after => cloud.SameButCounter after)

section Rules

variable {step : CloudStep α} {continuation : α → CloudStep β}

/-- A step that writes nothing but the counter is atomic. -/
theorem Prepares.atomic (prepares : Prepares step) : Atomic step :=
  fun cloud => (prepares cloud).mono (fun _ _ _ => trivial) fun _ _ same => same

/-- A step that never fails is atomic. -/
theorem Completes.atomic (completes : Completes step) : Atomic step :=
  fun cloud => (completes cloud).mono (fun _ _ _ => trivial) fun _ _ never => never.elim

/-- Steps that never fail are sequenced to one that never fails. -/
theorem Completes.bind (first : Completes step) (rest : ∀ value, Completes (continuation value)) :
    Completes (step >>= continuation) := by
  intro cloud
  rw [yields_bind]
  exact (first cloud).mono (fun value after _ => rest value after) fun _ _ never => never

/-- Preparations may come before an atomic step. -/
theorem Prepares.bind (first : Prepares step) (rest : ∀ value, Atomic (continuation value)) :
    Atomic (step >>= continuation) := by
  intro cloud
  rw [yields_bind]
  apply (first cloud).mono
  · intro value middle same
    apply (rest value middle).mono (fun _ _ _ => trivial)
    intro _ after sameToo
    rw [Cloud.SameButCounter] at same sameToo ⊢
    rw [sameToo, same]
  · exact fun _ _ same => same

/-- What never fails may come after an atomic step. -/
theorem Atomic.bind (first : Atomic step) (rest : ∀ value, Completes (continuation value)) :
    Atomic (step >>= continuation) := by
  intro cloud
  rw [yields_bind]
  apply (first cloud).mono
  · intro value middle _
    exact (rest value middle).mono (fun _ _ _ => trivial) fun _ _ never => never.elim
  · exact fun _ _ same => same

end Rules

section Steps

variable (table : Cloud.Table ρ) (id : ResourceId)

theorem completes_pure (value : α) : Completes (pure value : CloudStep α) := fun _ => trivial

theorem completes_modify (change : Cloud → Cloud) :
    Completes (modify change : CloudStep PUnit) := fun _ => trivial

theorem completes_insert (record : ρ) : Completes (table.insert id record) := fun _ => trivial

theorem completes_track : Completes (Cloud.track id) := fun _ => trivial

theorem completes_recordShutdown (force : Bool) : Completes (Cloud.recordShutdown force) :=
  fun _ => trivial

theorem prepares_pure (value : α) : Prepares (pure value : CloudStep α) := fun _ => rfl

theorem prepares_throw (error : RemoteError) : Prepares (throw error : CloudStep α) := fun _ => rfl

/-- What would come after a failure does not matter. -/
theorem atomic_throw (error : RemoteError) (continuation : α → CloudStep β) :
    Atomic ((throw error : CloudStep α) >>= continuation) := fun _ => rfl

theorem prepares_get : Prepares (get : CloudStep Cloud) := fun _ => rfl

theorem prepares_allocate : Prepares Cloud.allocate := fun _ => rfl

theorem prepares_freshHash : Prepares Cloud.freshHash := fun _ => rfl

/-- A lookup of a record writes nothing. -/
theorem prepares_find : Prepares (table.find id) := by
  intro cloud
  rw [yields_find]
  split <;> exact rfl

/-- A lookup of a plan writes nothing. -/
theorem prepares_findServerPlan : Prepares (Cloud.findServerPlan id) := by
  intro cloud
  rw [yields_findServerPlan]
  split <;> exact rfl

/-- A comparison of hashes writes nothing, whether it succeeds or fails. -/
theorem prepares_checkHash (current given : String) : Prepares (Cloud.checkHash current given) := by
  intro cloud
  rw [yields_checkHash]
  split <;> exact rfl

/-- The creation of interfaces draws numbers from the counter and writes nothing else. -/
theorem prepares_createInterfaces (uplinks : List SwitchConnection) :
    Prepares (Cloud.createInterfaces uplinks) := by
  intro cloud
  rw [yields_createInterfaces]
  exact rfl

/-- An absent record cannot be changed. -/
theorem Yields.change_absent {cloud : Cloud} {change : ρ → ρ} {succeeds : ρ → Cloud → Prop}
    {fails : RemoteError → Cloud → Prop} (absent : (table.read cloud).get? id = none)
    (holds : fails (.missing table.resource id) cloud) :
    Yields (table.change id change) cloud succeeds fails := by
  rw [yields_change, absent]
  exact holds

/-- A change of a record finds the record before it writes. -/
theorem atomic_change (change : ρ → ρ) : Atomic (table.change id change) :=
  (prepares_find table id).bind fun _ =>
    ((completes_insert table id _).bind fun _ => completes_pure _).atomic

/-- A removal of a record finds the record before it writes. -/
theorem atomic_remove : Atomic (table.remove id) :=
  (prepares_find table id).bind fun _ => (completes_modify _).atomic

/-- A read counts itself only after it has found its record, and the count hides no record. -/
theorem atomic_readSettling {table : Cloud.Table ρ} (lawful : table.Lawful) (settled : ρ → ρ) :
    Atomic (table.readSettling id settled) := by
  intro cloud
  have still (pending : Records Nat) :
      table.read { cloud with pending := pending } = table.read cloud :=
    lawful.read_counters cloud cloud.lastId pending cloud.calls cloud.failures
  rw [yields_readSettling]
  cases found : (table.read cloud).get? id with
  | none => exact rfl
  | some record =>
      dsimp only
      split
      · exact atomic_change table id settled cloud
      next left _ =>
        split
        · exact Yields.find table id ((still _).symm ▸ found) trivial
        · exact Yields.change table id ((still _).symm ▸ found) trivial

end Steps

end CloudStep

namespace Cloud

open CloudStep

/-- A change of an interface finds the owner of the interface before it writes. -/
theorem atomic_changeInterface (id : ResourceId) (change : Interface → Interface) :
    Atomic (changeInterface id change) := by
  refine prepares_get.bind fun cloud => ?_
  split
  · exact (atomic_change _ _ _).bind fun _ => completes_pure _
  · exact (prepares_throw _).atomic

/-- The creation of a disk finds its server before it writes. -/
theorem atomic_createDisk (request : DiskCreateRequest) (edit : Option DiskEditRequest) :
    Atomic (createDisk request edit) := by
  intro cloud
  rw [yields_createDisk]
  repeat' split
  · trivial
  · exact rfl
  · trivial

variable {cloud : Cloud} {request : Request}

/-- A request connects an absent disk when it names a stored server and no stored disk. -/
def ConnectsAbsentDisk (cloud : Cloud) (request : Request) : Prop :=
  ∃ zone id serverId server, request = .disk zone (.connectToServer id serverId) ∧
    cloud.disks.get? id = none ∧ cloud.servers.get? serverId = some server

/-- An absent disk cannot be connected, but its server lists it from then on. -/
theorem connectDisk_absent {id serverId : ResourceId} {server : Server}
    (absent : cloud.disks.get? id = none) (stored : cloud.servers.get? serverId = some server) :
    (connectDisk id serverId).Yields cloud (fun _ _ => False) (fun _ after => after =
      { cloud with
        servers := cloud.servers.insert serverId
          { server with diskIds := server.diskIds ++ [id] } }) := by
  rw [connectDisk, yields_bind]
  apply Yields.change serverTable serverId stored
  rw [yields_bind]
  exact Yields.change_absent diskTable id absent rfl

/-- A connection is atomic when its disk is stored or its server is absent. -/
theorem connectDisk_atomic {id serverId : ResourceId}
    (known : cloud.disks.get? id ≠ none ∨ cloud.servers.get? serverId = none) :
    (connectDisk id serverId).Yields cloud (fun _ _ => True)
      (fun _ after => cloud.SameButCounter after) := by
  rw [connectDisk, yields_bind]
  rcases known with present | absent
  · obtain ⟨disk, present⟩ := Option.ne_none_iff_exists'.mp present
    rw [yields_change]
    split
    · rw [yields_bind]
      exact Yields.change diskTable id present trivial
    · exact rfl
  · exact Yields.change_absent serverTable serverId absent rfl

/-- Every call about disks is answered atomically unless it connects an absent disk. -/
theorem answerDisk_atomic (zone : Zone) (call : DiskCall)
    (known : ¬ cloud.ConnectsAbsentDisk (.disk zone call)) :
    (answerDisk call).Yields cloud (fun _ _ => True)
      (fun _ after => cloud.SameButCounter after) := by
  cases call with
  | create request distantFrom => exact atomic_createDisk request none cloud
  | createWithConfig request edit bootAtAvailable distantFrom =>
      exact atomic_createDisk request (some edit) cloud
  | read id => exact atomic_readSettling id diskTable_lawful _ cloud
  | update id request => exact atomic_change _ _ _ cloud
  | delete id => exact atomic_remove _ _ cloud
  | connectToServer id serverId =>
      apply connectDisk_atomic
      cases present : cloud.disks.get? id with
      | some disk => exact .inl nofun
      | none =>
          cases stored : cloud.servers.get? serverId with
          | none => exact .inr rfl
          | some server => exact absurd ⟨zone, id, serverId, server, rfl, present, stored⟩ known
  | config id edit =>
      have configures : Atomic (configureDisk id edit) :=
        (atomic_change _ _ _).bind fun _ =>
          (completes_modify _).bind fun _ => completes_track _
      exact configures cloud

theorem answerCatalogue_atomic (call : CatalogueCall) : Atomic (answerCatalogue call) := by
  cases call with
  | findArchives condition => exact prepares_get.bind fun _ => (prepares_pure _).atomic
  | findServerPlans => exact prepares_get.bind fun _ => (prepares_pure _).atomic
  | readArchive id | readDiskPlan id | readSwitch id | readPacketFilter id | readCdrom id =>
      exact (prepares_find _ _).atomic

theorem answerCredential_atomic (call : CredentialCall) : Atomic (answerCredential call) := by
  cases call with
  | generateSshKey request | createNote request =>
      exact prepares_allocate.bind fun _ =>
        ((completes_insert _ _ _).bind fun _ => completes_pure _).atomic
  | readSshKey id | readNote id => exact (prepares_find _ _).atomic
  | deleteSshKey id | deleteNote id => exact atomic_remove _ _

theorem answerServer_atomic (call : ServerCall) : Atomic (answerServer call) := by
  cases call with
  | create request =>
      refine (prepares_findServerPlan _).bind fun _ => prepares_allocate.bind fun _ => ?_
      refine (prepares_createInterfaces _).bind fun _ => ?_
      exact ((completes_insert _ _ _).bind fun _ => completes_pure _).atomic
  | read id => exact (prepares_find _ _).atomic
  | update id request => exact atomic_change _ _ _
  | delete id => exact atomic_remove _ _
  | boot id | ejectCdrom id cdromId => exact (atomic_change _ _ _).bind fun _ => completes_pure _
  | shutdown id force => exact (atomic_change _ _ _).bind fun _ => completes_recordShutdown force
  | changePlan id planId =>
      refine (prepares_findServerPlan _).bind fun _ => (prepares_find _ _).bind fun server => ?_
      dsimp only
      split
      · exact atomic_throw _ _
      · exact prepares_allocate.bind fun _ =>
          ((completes_modify _).bind fun _ => completes_pure _).atomic
  | insertCdrom id cdromId =>
      exact (prepares_find _ _).bind fun _ => (atomic_change _ _ _).bind fun _ => completes_pure _
  | connectToPacketFilter interfaceId packetFilterId =>
      exact (prepares_find _ _).bind fun _ => atomic_changeInterface _ _
  | updateInterface interfaceId request => exact atomic_changeInterface _ _

theorem answerDatabase_atomic (call : DatabaseCall) : Atomic (answerDatabase call) := by
  cases call with
  | create request =>
      refine (prepares_find _ _).bind fun _ => prepares_allocate.bind fun _ => ?_
      refine prepares_freshHash.bind fun _ => ?_
      exact ((completes_insert _ _ _).bind fun _ => (completes_track _).bind fun _ =>
        completes_pure _).atomic
  | read id => exact atomic_readSettling id databaseTable_lawful _
  | update id request =>
      exact prepares_freshHash.bind fun _ => (prepares_find _ _).bind fun _ =>
        (prepares_checkHash _ _).bind fun _ => atomic_change _ _ _
  | delete id => exact atomic_remove _ _
  | boot id => exact (atomic_change _ _ _).bind fun _ => completes_pure _
  | shutdown id force => exact (atomic_change _ _ _).bind fun _ => completes_recordShutdown force
  | config id | status id => exact (prepares_find _ _).bind fun _ => (prepares_pure _).atomic
  | setParameters id parameters =>
      exact (prepares_find _ _).bind fun _ => (completes_modify _).atomic

theorem answerVpcRouter_atomic (call : VpcRouterCall) : Atomic (answerVpcRouter call) := by
  cases call with
  | create request =>
      refine prepares_allocate.bind fun _ => prepares_freshHash.bind fun _ => ?_
      exact ((completes_insert _ _ _).bind fun _ => (completes_track _).bind fun _ =>
        completes_pure _).atomic
  | read id => exact atomic_readSettling id vpcRouterTable_lawful _
  | update id request =>
      exact prepares_freshHash.bind fun _ => (prepares_find _ _).bind fun _ =>
        (prepares_checkHash _ _).bind fun _ => atomic_change _ _ _
  | delete id => exact atomic_remove _ _
  | boot id => exact (atomic_change _ _ _).bind fun _ => completes_pure _
  | shutdown id force => exact (atomic_change _ _ _).bind fun _ => completes_recordShutdown force
  | connectToSwitch id index switchId =>
      exact (prepares_find _ _).bind fun _ => (prepares_find _ _).bind fun _ =>
        (completes_modify _).atomic
  | config id => exact (prepares_find _ _).bind fun _ => (prepares_pure _).atomic

theorem answerMobileGateway_atomic (call : MobileGatewayCall) :
    Atomic (answerMobileGateway call) := by
  cases call with
  | create request =>
      refine prepares_allocate.bind fun _ => prepares_freshHash.bind fun _ => ?_
      exact ((completes_insert _ _ _).bind fun _ => (completes_track _).bind fun _ =>
        completes_pure _).atomic
  | read id => exact atomic_readSettling id mobileGatewayTable_lawful _
  | update id request =>
      exact prepares_freshHash.bind fun _ => (prepares_find _ _).bind fun _ =>
        (prepares_checkHash _ _).bind fun _ => atomic_change _ _ _
  | delete id => exact atomic_remove _ _
  | boot id => exact (atomic_change _ _ _).bind fun _ => completes_pure _
  | shutdown id force => exact (atomic_change _ _ _).bind fun _ => completes_recordShutdown force
  | connectToSwitch id switchId =>
      exact (prepares_find _ _).bind fun _ => (prepares_find _ _).bind fun _ =>
        (completes_modify _).atomic
  | config id => exact (prepares_find _ _).bind fun _ => (prepares_pure _).atomic
  | setDns id dns | setTrafficConfig id traffic =>
      exact (prepares_find _ _).bind fun _ => (completes_modify _).atomic
  | addSim id simId =>
      refine (prepares_find _ _).bind fun _ => (prepares_find _ _).bind fun gateway => ?_
      dsimp only
      split
      · exact atomic_throw _ _
      · exact (atomic_change _ _ _).bind fun _ => completes_pure _

theorem answerSim_atomic (call : SimCall) : Atomic (answerSim call) := by
  cases call with
  | read id => exact (prepares_find _ _).atomic
  | assignIp id ipAddress => exact (atomic_change _ _ _).bind fun _ => completes_pure _

theorem answerRegistry_atomic (call : ContainerRegistryCall) : Atomic (answerRegistry call) := by
  cases call with
  | create request =>
      exact prepares_allocate.bind fun _ => ((completes_insert _ _ _).bind fun _ =>
        (completes_track _).bind fun _ => completes_pure _).atomic
  | read id => exact atomic_readSettling id registryTable_lawful _
  | update id request => exact atomic_change _ _ _
  | delete id => exact atomic_remove _ _
  | addUser id user | deleteUser id userName =>
      refine (prepares_find _ _).bind fun registry => ?_
      dsimp only
      split
      · exact atomic_throw _ _
      · exact (atomic_change _ _ _).bind fun _ => completes_pure _

theorem answerLocalRouter_atomic (call : LocalRouterCall) : Atomic (answerLocalRouter call) := by
  cases call with
  | create request =>
      refine prepares_allocate.bind fun _ => prepares_freshHash.bind fun _ => ?_
      exact ((completes_insert _ _ _).bind fun _ => (completes_track _).bind fun _ =>
        completes_pure _).atomic
  | read id => exact atomic_readSettling id localRouterTable_lawful _
  | updateSettings id settings settingsHash =>
      exact prepares_freshHash.bind fun _ => (prepares_find _ _).bind fun _ =>
        (prepares_checkHash _ _).bind fun _ => atomic_change _ _ _
  | delete id => exact atomic_remove _ _

/-- Every request is answered atomically unless it connects an absent disk. -/
theorem answerRequest_atomic (request : Request) (known : ¬ cloud.ConnectsAbsentDisk request) :
    (answerRequest request).Yields cloud (fun _ _ => True)
      (fun _ after => cloud.SameButCounter after) := by
  cases request with
  | disk zone call => exact answerDisk_atomic zone call known
  | catalogue zone call => exact answerCatalogue_atomic call cloud
  | credential call => exact answerCredential_atomic call cloud
  | server zone call => exact answerServer_atomic call cloud
  | database zone call => exact answerDatabase_atomic call cloud
  | vpcRouter zone call => exact answerVpcRouter_atomic call cloud
  | mobileGateway zone call => exact answerMobileGateway_atomic call cloud
  | sim call => exact answerSim_atomic call cloud
  | containerRegistry call => exact answerRegistry_atomic call cloud
  | localRouter call => exact answerLocalRouter_atomic call cloud

/-- These are the failures that are announced for an endpoint, the next one first. -/
def announcedFor (cloud : Cloud) (endpoint : Endpoint) : List RemoteError :=
  (cloud.failures.filter fun announcement => announcement.1 = endpoint).map Prod.snd

/-- A call leaves a cloud intact when it is logged, draws numbers from the counter and takes an
announced failure of its own endpoint at most. -/
structure Intact (request : Request) (before after : Cloud) : Prop where
  rest : after =
    { before with
      lastId := after.lastId
      calls := before.calls ++ [request.endpoint]
      failures := after.failures }
  queues : ∀ endpoint, endpoint ≠ request.endpoint →
    after.announcedFor endpoint = before.announcedFor endpoint

/-- An announced failure is taken from the queue of its own endpoint. -/
theorem takeFirst_others {endpoint other : Endpoint} (apart : other ≠ endpoint)
    {failures left : List (Endpoint × RemoteError)} {error : RemoteError}
    (taken : endpoint.takeFirst failures = some (error, left)) :
    left.filter (fun announcement => announcement.1 = other) =
      failures.filter fun announcement => announcement.1 = other := by
  induction failures generalizing left with
  | nil => nomatch taken
  | cons first rest inductionHypothesis =>
      rw [Endpoint.takeFirst] at taken
      split at taken
      next own =>
        cases taken
        have foreign : first.1 ≠ other := fun same => apart (same.symm.trans own)
        exact (List.filter_cons_of_neg (by simpa using foreign)).symm
      next =>
        obtain ⟨⟨found, others⟩, inner, same⟩ := Option.map_eq_some_iff.mp taken
        cases same
        rw [List.filter_cons, List.filter_cons, inductionHypothesis inner]

/-- A call that takes an announced failure of its endpoint leaves the cloud intact. -/
theorem intact_of_announced {error : RemoteError} {failures : List (Endpoint × RemoteError)}
    (taken : request.endpoint.takeFirst cloud.failures = some (error, failures)) :
    Intact request cloud (cloud.logging request failures) where
  rest := rfl
  queues _ apart := congrArg (List.map Prod.snd) (takeFirst_others apart taken)

/-- A call that is answered and changes only the counter leaves the cloud intact. -/
theorem intact_of_answered {after : Cloud}
    (same : (cloud.logging request cloud.failures).SameButCounter after) :
    Intact request cloud after := by
  rw [same]
  exact ⟨rfl, fun _ _ => rfl⟩

/-- A server that lists one more disk is another server. -/
theorem lists_more {servers : Records Server} {id serverId : ResourceId} {server : Server}
    (stored : servers.get? serverId = some server) :
    servers.insert serverId { server with diskIds := server.diskIds ++ [id] } ≠ servers := by
  intro same
  have found := SortedMap.get?_insert_self servers serverId
    { server with diskIds := server.diskIds ++ [id] }
  rw [same, stored] at found
  have lengths := congrArg (fun server : Server => server.diskIds.length) (Option.some.inj found)
  simp at lengths

/-- A call that fails leaves the cloud intact unless it connects an absent disk and is not answered
by an announced failure. The server lists the absent disk then. -/
theorem failed_call_is_atomic_iff {error : RemoteError}
    (failed : (call request cloud).1 = .error error) :
    Intact request cloud (call request cloud).2 ↔
      ¬ (request.endpoint.takeFirst cloud.failures = none ∧ cloud.ConnectsAbsentDisk request) := by
  revert failed
  refine call_elim (motive := fun outcome after => outcome = .error error →
    (Intact request cloud after ↔ ¬ (request.endpoint.takeFirst cloud.failures = none ∧
      cloud.ConnectsAbsentDisk request))) ?_ ?_
  · intro announced failures taken _
    refine iff_of_true (intact_of_announced taken) fun marked => ?_
    nomatch taken.symm.trans marked.1
  · intro quiet
    by_cases connects : cloud.ConnectsAbsentDisk request
    · obtain ⟨zone, id, serverId, server, rfl, absent, stored⟩ := connects
      let request : Request := .disk zone (.connectToServer id serverId)
      have logged : (cloud.logging request cloud.failures).disks.get? id = none := absent
      apply (connectDisk_absent logged stored).mono
      · exact fun _ _ never => never.elim
      · intro _ after marked _
        have connects : cloud.ConnectsAbsentDisk request :=
          ⟨zone, id, serverId, server, rfl, absent, stored⟩
        refine iff_of_false (fun intact => ?_) fun unmarked => unmarked ⟨quiet, connects⟩
        exact lists_more stored (congrArg Cloud.servers (marked.symm.trans intact.rest))
    · have known : ¬ (cloud.logging request cloud.failures).ConnectsAbsentDisk request := connects
      apply (answerRequest_atomic request known).mono
      · exact fun _ _ _ impossible => nomatch impossible
      · intro _ after same _
        exact iff_of_true (intact_of_answered same) fun marked => connects marked.2

/-- An update of a missing database draws a number in vain. -/
theorem refused_update_is_atomic :
    let request : Request := .database ⟨"is1a"⟩ (.update ⟨7⟩ default)
    let after := (call request Cloud.empty).2
    (call request Cloud.empty).1 = .error (.missing "database" ⟨7⟩) ∧ after.lastId = 1001 ∧
      Intact request Cloud.empty after := by
  intro request after
  have failed : (call request Cloud.empty).1 = .error (.missing "database" ⟨7⟩) := rfl
  refine ⟨failed, rfl, (failed_call_is_atomic_iff failed).mpr ?_⟩
  rintro ⟨-, zone, id, serverId, server, same, -⟩
  nomatch same

/-- A server lists a disk that could not be connected to it. -/
theorem absent_disk_is_listed :
    let cloud := Cloud.empty.seedServer { (default : Server) with id := ⟨7⟩ }
    let request : Request := .disk ⟨"is1a"⟩ (.connectToServer ⟨20⟩ ⟨7⟩)
    let after := (call request cloud).2
    (call request cloud).1 = .error (.missing "disk" ⟨20⟩) ∧
      (after.servers.get? ⟨7⟩).map Server.diskIds = some [⟨20⟩] ∧ ¬ Intact request cloud after := by
  intro cloud request after
  refine ⟨rfl, rfl, fun intact => ?_⟩
  have same := congrArg (fun cloud : Cloud => (cloud.servers.get? ⟨7⟩).map Server.diskIds)
    intact.rest
  have lists : some [(⟨20⟩ : ResourceId)] = some [] := same
  nomatch lists

end Cloud

end Provisioning
