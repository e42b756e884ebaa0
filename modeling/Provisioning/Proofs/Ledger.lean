import Provisioning.Proofs.Atomicity
import Provisioning.Proofs.SettingsHash
import Provisioning.Proofs.Undisturbed

/-!
The ledger of a cloud. One counter numbers resources, interfaces and settings hashes. The ledger has
all the numbers that the counter draws while failures are announced and calls are made, and it has
them one after the other without a gap.
-/

namespace Provisioning

open Cloud

variable {α β ρ : Type}

namespace CloudStep

/-- A still step never moves the counter. -/
def Still (step : CloudStep α) : Prop :=
  ∀ cloud, step.Yields cloud (fun _ after => after.lastId = cloud.lastId)
    (fun _ after => after.lastId = cloud.lastId)

/-- A step draws some numbers when it succeeds and perhaps others when it fails. -/
def Draws (step : CloudStep α) (succeeding failing : Nat) : Prop :=
  ∀ cloud, step.Yields cloud
    (fun _ after => after.lastId = cloud.lastId + UInt64.ofNat succeeding)
    (fun _ after => after.lastId = cloud.lastId + UInt64.ofNat failing)

section Rules

variable {step : CloudStep α} {continuation : α → CloudStep β}

/-- A still step draws nothing. -/
theorem Still.draws (still : Still step) : Draws step 0 0 := by
  intro cloud
  have same : cloud.lastId + UInt64.ofNat 0 = cloud.lastId := UInt64.add_zero _
  rw [same]
  exact still cloud

/-- Still steps are sequenced to a still step. -/
theorem Still.bind (first : Still step) (rest : ∀ value, Still (continuation value)) :
    Still (step >>= continuation) := by
  intro cloud
  rw [yields_bind]
  apply (first cloud).mono
  · intro value middle same
    rw [← same]
    exact rest value middle
  · exact fun _ _ same => same

/-- A step that first draws a hash draws one number, whether it succeeds or fails. -/
theorem Still.afterHash {continuation : String → CloudStep β}
    (rest : ∀ hash, Still (continuation hash)) : Draws (freshHash >>= continuation) 1 1 := by
  intro cloud
  rw [yields_bind, yields_freshHash]
  exact rest _ _

end Rules

section Steps

variable {table : Table ρ} (id : ResourceId)

theorem still_pure (value : α) : Still (pure value : CloudStep α) := fun _ => rfl

theorem still_throw (error : RemoteError) (continuation : α → CloudStep β) :
    Still ((throw error : CloudStep α) >>= continuation) := fun _ => rfl

theorem still_get : Still (get : CloudStep Cloud) := fun _ => rfl

/-- A change of the cloud is still when it keeps the counter. -/
theorem still_modify {change : Cloud → Cloud}
    (same : ∀ cloud, (change cloud).lastId = cloud.lastId) :
    Still (modify change : CloudStep PUnit) := same

theorem still_track : Still (track id) := fun _ => rfl

theorem still_recordShutdown (force : Bool) : Still (recordShutdown force) := fun _ => rfl

theorem still_checkHash (current given : String) : Still (checkHash current given) := by
  intro cloud
  rw [yields_checkHash]
  split <;> rfl

theorem still_find : Still (table.find id) := by
  intro cloud
  rw [yields_find]
  split <;> rfl

/-- A change of a record is still. -/
theorem still_change (lawful : table.Lawful) (change : ρ → ρ) : Still (table.change id change) := by
  intro cloud
  rw [yields_change]
  split
  · exact lawful.lastId_write _ _
  · rfl

/-- A removal of a record is still. -/
theorem still_remove (lawful : table.Lawful) : Still (table.remove id) := by
  intro cloud
  rw [yields_remove]
  split
  · exact lawful.lastId_write _ _
  · rfl

/-- A read that settles a record is still. -/
theorem still_readSettling (lawful : table.Lawful) (settled : ρ → ρ) :
    Still (table.readSettling id settled) := by
  intro cloud
  have change := still_change id lawful settled
  have find : Still (table.find id) := still_find id
  rw [yields_readSettling]
  split
  · rfl
  · split
    · exact change cloud
    next left _ =>
      split
      · exact find { cloud with pending := cloud.pending.insert id (left - 1) }
      · exact change { cloud with pending := cloud.pending.erase id }

end Steps

end CloudStep

namespace Cloud

open CloudStep

theorem sshKeyTable_lawful : sshKeyTable.Lawful :=
  ⟨fun _ _ => rfl, fun _ _ _ _ _ => rfl, fun _ _ => rfl, fun _ _ => rfl⟩

theorem noteTable_lawful : noteTable.Lawful :=
  ⟨fun _ _ => rfl, fun _ _ _ _ _ => rfl, fun _ _ => rfl, fun _ _ => rfl⟩

theorem serverTable_lawful : serverTable.Lawful :=
  ⟨fun _ _ => rfl, fun _ _ _ _ _ => rfl, fun _ _ => rfl, fun _ _ => rfl⟩

theorem simTable_lawful : simTable.Lawful :=
  ⟨fun _ _ => rfl, fun _ _ _ _ _ => rfl, fun _ _ => rfl, fun _ _ => rfl⟩

/-- A change of an interface is still. -/
theorem still_changeInterface (id : ResourceId) (change : Interface → Interface) :
    Still (changeInterface id change) := by
  refine still_get.bind fun cloud => ?_
  split
  · exact (still_change _ serverTable_lawful _).bind fun _ => still_pure _
  · exact fun _ => rfl

/-- Two numbers may be drawn at once. -/
theorem next_next (last : UInt64) : last + 1 + 1 = last + UInt64.ofNat 2 := UInt64.add_assoc _ _ _

/-- The creation of a disk draws its number when it succeeds, and nothing when it fails. -/
theorem createDisk_draws (request : DiskCreateRequest) (edit : Option DiskEditRequest) :
    Draws (createDisk request edit) 1 0 := by
  intro cloud
  rw [yields_createDisk]
  repeat' split
  · rfl
  · exact (UInt64.add_zero _).symm
  · rfl

theorem answerDisk_draws (zone : Zone) (call : DiskCall) :
    Draws (answerDisk call) (Request.disk zone call).draws 0 := by
  cases call with
  | create request distantFrom => exact createDisk_draws request none
  | createWithConfig request edit bootAtAvailable distantFrom => exact createDisk_draws request edit
  | read id => exact (still_readSettling id diskTable_lawful _).draws
  | update id request => exact (still_change id diskTable_lawful _).draws
  | delete id => exact (still_remove id diskTable_lawful).draws
  | connectToServer id serverId =>
      exact ((still_change serverId serverTable_lawful _).bind fun _ =>
        (still_change id diskTable_lawful _).bind fun _ => still_pure _).draws
  | config id edit =>
      exact ((still_change id diskTable_lawful _).bind fun _ =>
        (still_modify fun _ => by rfl).bind fun _ => still_track _).draws

theorem answerCatalogue_draws (call : CatalogueCall) : Draws (answerCatalogue call) 0 0 := by
  cases call with
  | findArchives condition => exact (still_get.bind fun _ => still_pure _).draws
  | findServerPlans => exact (still_get.bind fun _ => still_pure _).draws
  | readArchive id | readDiskPlan id | readSwitch id | readPacketFilter id | readCdrom id =>
      exact (still_find id).draws

theorem answerCredential_draws (call : CredentialCall) :
    Draws (answerCredential call) (Request.credential call).draws 0 := by
  cases call with
  | generateSshKey request | createNote request => exact fun _ => rfl
  | readSshKey id | readNote id => exact (still_find id).draws
  | deleteSshKey id => exact (still_remove id sshKeyTable_lawful).draws
  | deleteNote id => exact (still_remove id noteTable_lawful).draws

/-- A server draws a number for itself and one for each interface. -/
theorem createServer_draws (request : ServerCreateRequest) :
    Draws (createServer request) (1 + request.connectedSwitches.length) 0 := by
  intro cloud
  rw [createServer, yields_bind, yields_findServerPlan]
  split
  · rw [yields_bind, yields_allocate, yields_bind, yields_createInterfaces]
    change cloud.lastId + 1 + UInt64.ofNat request.connectedSwitches.length = _
    rw [UInt64.ofNat_add, UInt64.add_assoc]
    rfl
  · exact (UInt64.add_zero _).symm

/-- A change of plan draws the new number of the server, and nothing when it fails. -/
theorem changeServerPlan_draws (id planId : ResourceId) :
    Draws (changeServerPlan id planId) 1 0 := by
  intro cloud
  simp only [changeServerPlan, yields_bind, yields_findServerPlan, yields_find]
  repeat' split
  · exact (UInt64.add_zero _).symm
  · rfl
  · exact (UInt64.add_zero _).symm
  · exact (UInt64.add_zero _).symm

theorem answerServer_draws (zone : Zone) (call : ServerCall) :
    Draws (answerServer call) (Request.server zone call).draws 0 := by
  cases call with
  | create request => exact createServer_draws request
  | read id => exact (still_find id).draws
  | update id request => exact (still_change id serverTable_lawful _).draws
  | delete id => exact (still_remove id serverTable_lawful).draws
  | boot id => exact ((still_change id serverTable_lawful _).bind fun _ => still_pure _).draws
  | shutdown id force =>
      exact ((still_change id serverTable_lawful _).bind fun _ => still_recordShutdown force).draws
  | changePlan id planId => exact changeServerPlan_draws id planId
  | insertCdrom id cdromId =>
      exact ((still_find cdromId).bind fun _ =>
        (still_change id serverTable_lawful _).bind fun _ => still_pure _).draws
  | ejectCdrom id cdromId =>
      exact ((still_change id serverTable_lawful _).bind fun _ => still_pure _).draws
  | connectToPacketFilter interfaceId packetFilterId =>
      exact ((still_find packetFilterId).bind fun _ => still_changeInterface interfaceId _).draws
  | updateInterface interfaceId request => exact (still_changeInterface interfaceId _).draws

end Cloud

/-- This is how many numbers a request has drawn when it fails. Only an update has drawn its hash
before it looks at the record. -/
def Request.drawsInVain (request : Request) : Nat := if request.update?.isSome then 1 else 0

namespace Cloud

open CloudStep

/-- A call about a database draws the numbers of its request, and an update that fails has drawn its
hash. -/
theorem answerDatabase_draws (zone : Zone) (call : DatabaseCall) :
    Draws (answerDatabase call) (Request.database zone call).draws
      (Request.database zone call).drawsInVain := by
  cases call with
  | create request =>
      intro cloud
      simp only [answerDatabase, createDatabase, yields_bind, yields_find, yields_allocate,
        yields_freshHash, yields_insert, yields_track, yields_pure]
      split
      · exact next_next _
      · exact (UInt64.add_zero _).symm
  | read id => exact (still_readSettling id databaseTable_lawful _).draws
  | update id request =>
      exact Still.afterHash fun _ => (still_find id).bind fun _ =>
        (still_checkHash _ _).bind fun _ => still_change id databaseTable_lawful _
  | delete id => exact (still_remove id databaseTable_lawful).draws
  | boot id => exact ((still_change id databaseTable_lawful _).bind fun _ => still_pure _).draws
  | shutdown id force =>
      exact ((still_change id databaseTable_lawful _).bind fun _ =>
        still_recordShutdown force).draws
  | config id | status id => exact ((still_find id).bind fun _ => still_pure _).draws
  | setParameters id parameters =>
      exact ((still_find id).bind fun _ => still_modify fun _ => by rfl).draws

/-- A call about a router draws the numbers of its request, and an update that fails has drawn its
hash. -/
theorem answerVpcRouter_draws (zone : Zone) (call : VpcRouterCall) :
    Draws (answerVpcRouter call) (Request.vpcRouter zone call).draws
      (Request.vpcRouter zone call).drawsInVain := by
  cases call with
  | create request => exact fun cloud => next_next cloud.lastId
  | read id => exact (still_readSettling id vpcRouterTable_lawful _).draws
  | update id request =>
      exact Still.afterHash fun _ => (still_find id).bind fun _ =>
        (still_checkHash _ _).bind fun _ => still_change id vpcRouterTable_lawful _
  | delete id => exact (still_remove id vpcRouterTable_lawful).draws
  | boot id => exact ((still_change id vpcRouterTable_lawful _).bind fun _ => still_pure _).draws
  | shutdown id force =>
      exact ((still_change id vpcRouterTable_lawful _).bind fun _ =>
        still_recordShutdown force).draws
  | connectToSwitch id index switchId =>
      exact ((still_find id).bind fun _ => (still_find switchId).bind fun _ =>
        still_modify fun _ => by rfl).draws
  | config id => exact ((still_find id).bind fun _ => still_pure _).draws

/-- A call about a gateway draws the numbers of its request, and an update that fails has drawn its
hash. -/
theorem answerMobileGateway_draws (zone : Zone) (call : MobileGatewayCall) :
    Draws (answerMobileGateway call) (Request.mobileGateway zone call).draws
      (Request.mobileGateway zone call).drawsInVain := by
  cases call with
  | create request => exact fun cloud => next_next cloud.lastId
  | read id => exact (still_readSettling id mobileGatewayTable_lawful _).draws
  | update id request =>
      exact Still.afterHash fun _ => (still_find id).bind fun _ =>
        (still_checkHash _ _).bind fun _ => still_change id mobileGatewayTable_lawful _
  | delete id => exact (still_remove id mobileGatewayTable_lawful).draws
  | boot id =>
      exact ((still_change id mobileGatewayTable_lawful _).bind fun _ => still_pure _).draws
  | shutdown id force =>
      exact ((still_change id mobileGatewayTable_lawful _).bind fun _ =>
        still_recordShutdown force).draws
  | connectToSwitch id switchId =>
      exact ((still_find id).bind fun _ => (still_find switchId).bind fun _ =>
        still_modify fun _ => by rfl).draws
  | config id => exact ((still_find id).bind fun _ => still_pure _).draws
  | setDns id dns | setTrafficConfig id traffic =>
      exact ((still_find id).bind fun _ => still_modify fun _ => by rfl).draws
  | addSim id simId =>
      apply Still.draws
      refine (still_find simId).bind fun _ => (still_find id).bind fun gateway => ?_
      dsimp only
      split
      · exact still_throw _ _
      · exact (still_change id mobileGatewayTable_lawful _).bind fun _ => still_pure _

theorem answerSim_draws (call : SimCall) : Draws (answerSim call) 0 0 := by
  cases call with
  | read id => exact (still_find id).draws
  | assignIp id ipAddress =>
      exact ((still_change id simTable_lawful _).bind fun _ => still_pure _).draws

theorem answerRegistry_draws (call : ContainerRegistryCall) :
    Draws (answerRegistry call) (Request.containerRegistry call).draws 0 := by
  cases call with
  | create request => exact fun _ => rfl
  | read id => exact (still_readSettling id registryTable_lawful _).draws
  | update id request => exact (still_change id registryTable_lawful _).draws
  | delete id => exact (still_remove id registryTable_lawful).draws
  | addUser id user | deleteUser id userName =>
      apply Still.draws
      refine (still_find id).bind fun registry => ?_
      dsimp only
      split
      · exact still_throw _ _
      · exact (still_change id registryTable_lawful _).bind fun _ => still_pure _

/-- A call about a local router draws the numbers of its request, and an update that fails has drawn
its hash. -/
theorem answerLocalRouter_draws (call : LocalRouterCall) :
    Draws (answerLocalRouter call) (Request.localRouter call).draws
      (Request.localRouter call).drawsInVain := by
  cases call with
  | create request => exact fun cloud => next_next cloud.lastId
  | read id => exact (still_readSettling id localRouterTable_lawful _).draws
  | updateSettings id settings settingsHash =>
      exact Still.afterHash fun _ => (still_find id).bind fun _ =>
        (still_checkHash _ _).bind fun _ => still_change id localRouterTable_lawful _
  | delete id => exact (still_remove id localRouterTable_lawful).draws

/-- Every answer draws the numbers of its request, or those that the request draws in vain. -/
theorem answerRequest_draws (request : Request) :
    Draws (answerRequest request) request.draws request.drawsInVain := by
  cases request with
  | disk zone call => exact answerDisk_draws zone call
  | catalogue zone call => exact answerCatalogue_draws call
  | credential call => exact answerCredential_draws call
  | server zone call => exact answerServer_draws zone call
  | database zone call => exact answerDatabase_draws zone call
  | vpcRouter zone call => exact answerVpcRouter_draws zone call
  | mobileGateway zone call => exact answerMobileGateway_draws zone call
  | sim call => exact answerSim_draws call
  | containerRegistry call => exact answerRegistry_draws call
  | localRouter call => exact answerLocalRouter_draws call

/-- This is how many numbers a call draws. An announced failure draws none. -/
def drawn (cloud : Cloud) (request : Request) : Nat :=
  if (request.endpoint.takeFirst cloud.failures).isSome then 0
  else if (call request cloud).1.isOk then request.draws
  else request.drawsInVain

/-- The counter goes on by the numbers that a call draws. -/
theorem call_lastId (request : Request) (cloud : Cloud) :
    (call request cloud).2.lastId = cloud.lastId + UInt64.ofNat (cloud.drawn request) := by
  unfold drawn
  refine call_elim (motive := fun outcome after => after.lastId = cloud.lastId + UInt64.ofNat
    (if (request.endpoint.takeFirst cloud.failures).isSome then 0
      else if outcome.isOk then request.draws else request.drawsInVain)) ?_ ?_
  · intro error failures announced
    rw [announced]
    exact (UInt64.add_zero _).symm
  · intro quiet
    rw [quiet]
    exact answerRequest_draws request _

/-- These numbers come next after a number. -/
def numbersAfter (last : UInt64) : Nat → List UInt64
  | 0 => []
  | count + 1 => (last + 1) :: numbersAfter (last + 1) count

/-- There are as many next numbers as are counted. -/
theorem length_numbersAfter (last : UInt64) (count : Nat) :
    (numbersAfter last count).length = count := by
  induction count generalizing last with
  | zero => rfl
  | succ count inductionHypothesis => simp [numbersAfter, inductionHypothesis]

/-- The next numbers come in two parts, and the second part continues the first. -/
theorem numbersAfter_append (last : UInt64) (first second : Nat) :
    numbersAfter last (first + second) =
      numbersAfter last first ++ numbersAfter (last + UInt64.ofNat first) second := by
  induction first generalizing last with
  | zero => simp [numbersAfter]
  | succ first inductionHypothesis =>
      have later : last + 1 + UInt64.ofNat first = last + UInt64.ofNat (first + 1) := by
        rw [UInt64.ofNat_add, UInt64.add_assoc, UInt64.add_comm 1]
        rfl
      rw [Nat.succ_add, numbersAfter, inductionHypothesis, later]
      rfl

section Room

variable {last number : UInt64} {count : Nat}

/-- Numbers that come next lie beyond the counter and within its reach. -/
theorem mem_numbersAfter (room : last.toNat + count < UInt64.size) :
    number ∈ numbersAfter last count ↔
      last.toNat < number.toNat ∧ number.toNat ≤ last.toNat + count := by
  induction count generalizing last with
  | zero =>
      constructor
      · nofun
      · omega
  | succ count inductionHypothesis =>
      have next : (last + 1).toNat = last.toNat + 1 := next_toNat (by omega)
      have same : number = last + 1 ↔ number.toNat = last.toNat + 1 := by
        rw [← UInt64.toNat_inj, next]
      rw [numbersAfter, List.mem_cons, inductionHypothesis (by omega), same, next]
      omega

/-- Without an overflow the next numbers ascend. -/
theorem pairwise_numbersAfter (room : last.toNat + count < UInt64.size) :
    (numbersAfter last count).Pairwise (· < ·) := by
  induction count generalizing last with
  | zero => exact List.Pairwise.nil
  | succ count inductionHypothesis =>
      have next : (last + 1).toNat = last.toNat + 1 := next_toNat (by omega)
      have roomLater : (last + 1).toNat + count < UInt64.size := by omega
      rw [numbersAfter]
      refine List.pairwise_cons.mpr ⟨fun number member => ?_, inductionHypothesis roomLater⟩
      exact ((mem_numbersAfter roomLater).mp member).1

end Room

end Cloud

/-- A cloud lives through announcements and calls. -/
inductive Event where
  | announce (endpoint : Endpoint) (times : Nat) (error : RemoteError)
  | call (request : Request)

namespace Cloud

/-- This cloud is left after an event. -/
def handle (cloud : Cloud) : Event → Cloud
  | .announce endpoint times error => cloud.failTimes endpoint times error
  | .call request => (call request cloud).2

/-- This cloud is left after a run of events. -/
def through (cloud : Cloud) (events : List Event) : Cloud := events.foldl handle cloud

/-- These are the numbers that the counter draws during an event. -/
def numbers (cloud : Cloud) : Event → List UInt64
  | .announce .. => []
  | .call request => numbersAfter cloud.lastId (cloud.drawn request)

/-- The ledger lists all numbers that the counter draws during a run, in order. -/
def ledger (cloud : Cloud) : List Event → List UInt64
  | [] => []
  | event :: rest => cloud.numbers event ++ (cloud.handle event).ledger rest

variable {cloud : Cloud}

/-- The ledger of a run that is continued goes on with the ledger of its second part. -/
theorem ledger_append (cloud : Cloud) (first second : List Event) :
    cloud.ledger (first ++ second) = cloud.ledger first ++ (cloud.through first).ledger second := by
  induction first generalizing cloud with
  | nil => rfl
  | cons event rest inductionHypothesis =>
      rw [List.cons_append, ledger, inductionHypothesis, ledger, List.append_assoc]
      rfl

/-- The numbers of an event come next after the counter, and the counter goes on by them. -/
theorem handle_lastId (cloud : Cloud) (event : Event) :
    cloud.numbers event = numbersAfter cloud.lastId (cloud.numbers event).length ∧
      (cloud.handle event).lastId =
        cloud.lastId + UInt64.ofNat (cloud.numbers event).length := by
  cases event with
  | announce endpoint times error => exact ⟨rfl, (UInt64.add_zero _).symm⟩
  | call request =>
      rw [numbers, length_numbersAfter]
      exact ⟨rfl, call_lastId request cloud⟩

/-- A ledger has no gap, and the counter goes on by its length. -/
theorem through_lastId (cloud : Cloud) (events : List Event) :
    cloud.ledger events = numbersAfter cloud.lastId (cloud.ledger events).length ∧
      (cloud.through events).lastId =
        cloud.lastId + UInt64.ofNat (cloud.ledger events).length := by
  induction events generalizing cloud with
  | nil => exact ⟨rfl, (UInt64.add_zero _).symm⟩
  | cons event rest inductionHypothesis =>
      obtain ⟨numbers, counter⟩ := cloud.handle_lastId event
      obtain ⟨later, last⟩ := inductionHypothesis (cloud.handle event)
      rw [ledger, List.length_append, numbersAfter_append, ← numbers, ← counter, ← later]
      refine ⟨rfl, last.trans ?_⟩
      rw [counter, UInt64.ofNat_add, UInt64.add_assoc]

section Room

variable {events : List Event}

/-- Without an overflow an event moves the counter by as many numbers as it draws. -/
theorem handle_lastId_toNat {event : Event}
    (room : cloud.lastId.toNat + (cloud.numbers event).length < UInt64.size) :
    (cloud.handle event).lastId.toNat = cloud.lastId.toNat + (cloud.numbers event).length := by
  rw [(cloud.handle_lastId event).2, UInt64.toNat_add, UInt64.toNat_ofNat_of_lt' (by omega)]
  exact Nat.mod_eq_of_lt room

/-- Without an overflow the numbers of an event are those that the counter passes during the event.
-/
theorem mem_numbers {event : Event}
    (room : cloud.lastId.toNat + (cloud.numbers event).length < UInt64.size) {number : UInt64} :
    number ∈ cloud.numbers event ↔
      cloud.lastId.toNat < number.toNat ∧ number.toNat ≤ (cloud.handle event).lastId.toNat := by
  rw [handle_lastId_toNat room, (cloud.handle_lastId event).1, length_numbersAfter]
  exact mem_numbersAfter room

/-- Without an overflow a run moves the counter by as many numbers as its ledger has. -/
theorem through_lastId_toNat
    (room : cloud.lastId.toNat + (cloud.ledger events).length < UInt64.size) :
    (cloud.through events).lastId.toNat = cloud.lastId.toNat + (cloud.ledger events).length := by
  rw [(cloud.through_lastId events).2, UInt64.toNat_add, UInt64.toNat_ofNat_of_lt' (by omega)]
  exact Nat.mod_eq_of_lt room

/-- Each number of a ledger is greater than all numbers before it. -/
theorem pairwise_ledger
    (room : cloud.lastId.toNat + (cloud.ledger events).length < UInt64.size) :
    (cloud.ledger events).Pairwise (· < ·) := by
  rw [(cloud.through_lastId events).1]
  exact pairwise_numbersAfter room

/-- Without an overflow the ledger of a run has exactly the numbers that the counter passes. -/
theorem mem_ledger (room : cloud.lastId.toNat + (cloud.ledger events).length < UInt64.size)
    {number : UInt64} : number ∈ cloud.ledger events ↔
      cloud.lastId.toNat < number.toNat ∧ number.toNat ≤ (cloud.through events).lastId.toNat := by
  rw [through_lastId_toNat room, (cloud.through_lastId events).1, length_numbersAfter]
  exact mem_numbersAfter room

end Room

end Cloud

end Provisioning
