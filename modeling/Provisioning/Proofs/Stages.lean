import Provisioning.Proofs.Calm
import Provisioning.Proofs.Keys
import Provisioning.Proofs.Readiness

/-!
Stages of resources. A resource that is awaited is being prepared when it is new, and the cloud
counts down the reads that it still needs. The counts stand apart from the records, in one table for
all kinds. A stage joins what a record shows with its count. A call that succeeds may be a turn of
one resource, which leads its stage on, and every other call keeps all stages.
-/

namespace Provisioning

open Cloud CloudStep

/-- These are the records of a kind. -/
def Awaited.Record : Awaited → Type
  | .disk => Disk
  | .database => Database
  | .vpcRouter => VpcRouter
  | .mobileGateway => MobileGateway
  | .containerRegistry => ContainerRegistry
  | .localRouter => LocalRouter

instance : (kind : Awaited) → Lifecycle kind.Record
  | .disk => inferInstanceAs (Lifecycle Disk)
  | .database => inferInstanceAs (Lifecycle Database)
  | .vpcRouter => inferInstanceAs (Lifecycle VpcRouter)
  | .mobileGateway => inferInstanceAs (Lifecycle MobileGateway)
  | .containerRegistry => inferInstanceAs (Lifecycle ContainerRegistry)
  | .localRouter => inferInstanceAs (Lifecycle LocalRouter)

namespace Awaited

/-- This is the table that keeps the records of a kind. -/
def table : (kind : Awaited) → Table kind.Record
  | .disk => diskTable
  | .database => databaseTable
  | .vpcRouter => vpcRouterTable
  | .mobileGateway => mobileGatewayTable
  | .containerRegistry => registryTable
  | .localRouter => localRouterTable

/-- This is what a read makes of a record whose time has come. -/
def settled : (kind : Awaited) → kind.Record → kind.Record
  | .disk => fun disk : Disk =>
      { disk with availability := settledAvailability disk.availability }
  | .database => settledDatabase
  | .vpcRouter => fun router : VpcRouter =>
      { router with availability := settledAvailability router.availability }
  | .mobileGateway => fun gateway : MobileGateway =>
      { gateway with availability := settledAvailability gateway.availability }
  | .containerRegistry => fun registry : ContainerRegistry =>
      { registry with availability := settledAvailability registry.availability }
  | .localRouter => fun router : LocalRouter =>
      { router with availability := settledAvailability router.availability }

/-- The table of each kind is lawful. -/
theorem lawful (kind : Awaited) : kind.table.Lawful := by
  cases kind with
  | disk => exact diskTable_lawful
  | database => exact databaseTable_lawful
  | vpcRouter => exact vpcRouterTable_lawful
  | mobileGateway => exact mobileGatewayTable_lawful
  | containerRegistry => exact registryTable_lawful
  | localRouter => exact localRouterTable_lawful

/-- The table of a kind does not depend on the counts of reads. -/
theorem read_pending (kind : Awaited) (cloud : Cloud) (pending : Records Nat) :
    kind.table.read { cloud with pending := pending } = kind.table.read cloud :=
  kind.lawful.read_counters cloud cloud.lastId pending cloud.calls cloud.failures

end Awaited

/-- A stage is what a resource shows of its making, with the reads that it still needs. -/
structure Stage where
  availability : Availability
  runStatus : Option RunStatus
  left : Option Nat
  deriving DecidableEq, Repr

namespace Stage

def of {kind : Awaited} (left : Option Nat) (record : kind.Record) : Stage where
  availability := Lifecycle.availability record
  runStatus := Lifecycle.runStatus record
  left := left

/-- A resource that settles becomes available, and a database boots on its own. -/
def settled (kind : Awaited) (stage : Stage) : Stage where
  availability := settledAvailability stage.availability
  runStatus :=
    if kind = .database ∧ stage.availability.isTransitional then some .up else stage.runStatus
  left := none

/-- A read counts down, and it settles the resource when the count is over. -/
def read (kind : Awaited) (stage : Stage) : Stage :=
  match stage.left with
  | none => stage.settled kind
  | some left => if 1 < left then { stage with left := some (left - 1) } else stage.settled kind

/-- The preparation of a resource begins again. -/
def restarted (patience : Nat) (stage : Stage) : Stage :=
  { stage with availability := .migrating, left := some patience }

/-- The stage of a settled record is the settled stage of the record. -/
theorem of_settled {kind : Awaited} (left : Option Nat) (record : kind.Record) :
    of none (kind.settled record) = (of left record).settled kind := by
  cases kind with
  | database =>
      have shows (database : Database) :
          Stage.mk (settledDatabase database).availability
              (some (settledDatabase database).instanceStatus) none =
            (Stage.mk database.availability (some database.instanceStatus) left).settled
              .database := by
        unfold settledDatabase settled settledAvailability
        cases database.availability.isTransitional <;> rfl
      exact shows record
  | _ => rfl

end Stage

/-- This is the record of a resource that is stored. -/
def Cloud.record? (cloud : Cloud) (subject : Subject) : Option subject.kind.Record :=
  (subject.kind.table.read cloud).get? subject.id

/-- This is the stage of a resource that is stored. -/
def Cloud.stage? (cloud : Cloud) (subject : Subject) : Option Stage :=
  (cloud.record? subject).map (.of (cloud.pending.get? subject.id))

/-- A turn is what a successful call does to the preparation of a resource. -/
inductive Turn where
  | creation
  | read (shown : Availability)
  | configuration
  | deletion
  deriving DecidableEq, Repr

/-- A turn leads from one stage to the next. A read shows the availability that it leads to. -/
def Turn.Leads (patience : Nat) (kind : Awaited) (before after : Option Stage) : Turn → Prop
  | .creation => ∃ runStatus, after = some ⟨.migrating, runStatus, some patience⟩
  | .read shown => ∃ stage, before = some stage ∧ after = some (stage.read kind) ∧
      shown = (stage.read kind).availability
  | .configuration => ∃ stage, before = some stage ∧ after = some (stage.restarted patience)
  | .deletion => before.isSome ∧ after = none

/-- Only a creation leads on from a resource that is absent. -/
theorem Turn.Leads.creation_of_absent {patience : Nat} {kind : Awaited} {after : Option Stage}
    {turn : Turn} (leads : turn.Leads patience kind none after) : turn = .creation := by
  cases turn with
  | creation => rfl
  | read shown => nomatch leads.choose_spec.1
  | configuration => nomatch leads.choose_spec.1
  | deletion => nomatch leads.1

/-- An exchange that succeeds may be a turn of one resource. -/
def Exchange.turn? : Exchange → Option (Subject × Turn)
  | ⟨.disk _ (.create ..), .ok record⟩ => some (⟨.disk, record.id⟩, .creation)
  | ⟨.disk _ (.createWithConfig ..), .ok record⟩ => some (⟨.disk, record.id⟩, .creation)
  | ⟨.disk _ (.read id), .ok record⟩ => some (⟨.disk, id⟩, .read record.availability)
  | ⟨.disk _ (.config id _), .ok _⟩ => some (⟨.disk, id⟩, .configuration)
  | ⟨.disk _ (.delete id), .ok _⟩ => some (⟨.disk, id⟩, .deletion)
  | ⟨.database _ (.create _), .ok record⟩ => some (⟨.database, record.id⟩, .creation)
  | ⟨.database _ (.read id), .ok record⟩ => some (⟨.database, id⟩, .read record.availability)
  | ⟨.database _ (.delete id), .ok _⟩ => some (⟨.database, id⟩, .deletion)
  | ⟨.vpcRouter _ (.create _), .ok record⟩ => some (⟨.vpcRouter, record.id⟩, .creation)
  | ⟨.vpcRouter _ (.read id), .ok record⟩ => some (⟨.vpcRouter, id⟩, .read record.availability)
  | ⟨.vpcRouter _ (.delete id), .ok _⟩ => some (⟨.vpcRouter, id⟩, .deletion)
  | ⟨.mobileGateway _ (.create _), .ok record⟩ => some (⟨.mobileGateway, record.id⟩, .creation)
  | ⟨.mobileGateway _ (.read id), .ok record⟩ =>
      some (⟨.mobileGateway, id⟩, .read record.availability)
  | ⟨.mobileGateway _ (.delete id), .ok _⟩ => some (⟨.mobileGateway, id⟩, .deletion)
  | ⟨.containerRegistry (.create _), .ok record⟩ =>
      some (⟨.containerRegistry, record.id⟩, .creation)
  | ⟨.containerRegistry (.read id), .ok record⟩ =>
      some (⟨.containerRegistry, id⟩, .read record.availability)
  | ⟨.containerRegistry (.delete id), .ok _⟩ => some (⟨.containerRegistry, id⟩, .deletion)
  | ⟨.localRouter (.create _), .ok record⟩ => some (⟨.localRouter, record.id⟩, .creation)
  | ⟨.localRouter (.read id), .ok record⟩ => some (⟨.localRouter, id⟩, .read record.availability)
  | ⟨.localRouter (.delete id), .ok _⟩ => some (⟨.localRouter, id⟩, .deletion)
  | _ => none

/-- A resource has had its turn, and all others of its kind and all other counts are as before. A
resource that is new bears a number that the counter had not reached. -/
structure Subject.Turned (subject : Subject) (turn : Turn) (before after : Cloud) : Prop where
  leads : turn.Leads before.settleReads subject.kind (before.stage? subject) (after.stage? subject)
  others : ∀ id, id ≠ subject.id →
    after.record? ⟨subject.kind, id⟩ = before.record? ⟨subject.kind, id⟩
  counts : ∀ id, id ≠ subject.id → after.pending.get? id = before.pending.get? id
  fresh : turn = .creation → before.lastId < subject.id.value ∧ subject.id.value ≤ after.lastId

/-- The resources of a kind are kept in their stages, and a call that only looks keeps them in their
run status. -/
structure Awaited.Kept (kind : Awaited) (looks : Prop) (before after : Cloud) : Prop where
  availability : kind.table.ShowsSame Lifecycle.availability before after
  runStatus : looks → kind.table.ShowsSame Lifecycle.runStatus before after
  counts : after.pending = before.pending

section Rules

variable {kind : Awaited} {looks : Prop} {cloud base after : Cloud} {id : ResourceId}

theorem Awaited.Kept.refl (kind : Awaited) (looks : Prop) (cloud : Cloud) :
    kind.Kept looks cloud cloud :=
  ⟨fun _ => rfl, fun _ _ => rfl, rfl⟩

/-- A record that is written has the stage that it shows. -/
theorem Cloud.stage?_of_insert {records : Records kind.Record} {record : kind.Record}
    (written : kind.table.read after = records.insert id record) :
    after.stage? ⟨kind, id⟩ = some (.of (after.pending.get? id) record) := by
  rw [stage?, record?, written, SortedMap.get?_insert_self]
  rfl

/-- A stored record has the stage that it shows. -/
theorem Cloud.stage?_of_stored {record : kind.Record}
    (stored : (kind.table.read cloud).get? id = some record) :
    cloud.stage? ⟨kind, id⟩ = some (.of (cloud.pending.get? id) record) := by
  rw [stage?, record?, stored]
  rfl

/-- A write of one record is a turn of its resource when it leads the stage on and leaves the other
counts as they are. -/
theorem Subject.Turned.of_insert {turn : Turn} {record : kind.Record}
    (written : kind.table.read after = (kind.table.read cloud).insert id record)
    (counts : ∀ other, other ≠ id → after.pending.get? other = cloud.pending.get? other)
    (leads : turn.Leads cloud.settleReads kind (cloud.stage? ⟨kind, id⟩)
      (some (.of (after.pending.get? id) record)))
    (fresh : turn = .creation → cloud.lastId < id.value ∧ id.value ≤ after.lastId) :
    Subject.Turned ⟨kind, id⟩ turn cloud after where
  leads := by
    rw [stage?_of_insert written]
    exact leads
  others other different := by
    rw [record?, written, SortedMap.get?_insert, if_neg different]
    rfl
  counts := counts
  fresh := fresh

/-- A new record is tracked. -/
theorem Subject.Turned.of_create {record : kind.Record}
    (written : kind.table.read after = (kind.table.read cloud).insert id record)
    (tracked : after.pending = cloud.pending.insert id cloud.settleReads)
    (creating : Lifecycle.availability record = .migrating)
    (fresh : cloud.lastId < id.value ∧ id.value ≤ after.lastId) :
    Subject.Turned ⟨kind, id⟩ .creation cloud after := by
  refine .of_insert written ?_ ?_ fun _ => fresh
  · intro other different
    rw [tracked, SortedMap.get?_insert, if_neg different]
  · refine ⟨Lifecycle.runStatus record, ?_⟩
    rw [tracked, SortedMap.get?_insert_self, Stage.of, creating]

/-- A removal is the last turn of its resource, or it fails and keeps all resources. -/
theorem remove_turned (kind : Awaited) (id : ResourceId) :
    (kind.table.remove id).Yields cloud
      (fun _ after => Subject.Turned ⟨kind, id⟩ .deletion cloud after)
      (fun _ after => ∀ looks, kind.Kept looks cloud after) := by
  rw [yields_remove]
  split
  next record stored =>
    have written := kind.lawful.read_write cloud ((kind.table.read cloud).erase id)
    refine ⟨⟨?_, ?_⟩, ?_, ?_, nofun⟩
    · rw [stage?_of_stored stored]
      rfl
    · rw [stage?, record?, written, SortedMap.get?_erase, if_pos rfl]
      rfl
    · intro other different
      rw [record?, written, SortedMap.get?_erase, if_neg different]
      rfl
    · intro other _
      rw [kind.lawful.pending_write]
  next => exact fun looks => .refl kind looks cloud

/-- A read whose count is over settles the record that it shows. -/
theorem settling_turned {record : kind.Record} {pending : Records Nat}
    (stored : (kind.table.read cloud).get? id = some record) (finished : pending.get? id = none)
    (counts : ∀ other, other ≠ id → pending.get? other = cloud.pending.get? other)
    (due : (Stage.of (cloud.pending.get? id) record).read kind =
      (Stage.of (cloud.pending.get? id) record).settled kind) :
    (kind.table.change id kind.settled).Yields { cloud with pending := pending }
      (fun shown after =>
        Subject.Turned ⟨kind, id⟩ (.read (Lifecycle.availability shown)) cloud after)
      (fun _ after => ∀ looks, kind.Kept looks cloud after) := by
  have same := kind.read_pending cloud pending
  have next : (Stage.of (cloud.pending.get? id) record).read kind =
      .of none (kind.settled record) := by
    rw [due, ← Stage.of_settled]
  apply Yields.change
  · rw [same]
    exact stored
  · rw [same]
    refine .of_insert (kind.lawful.read_write _ _) ?_ ⟨_, stage?_of_stored stored, ?_, ?_⟩ nofun
    · rw [kind.lawful.pending_write]
      exact counts
    · rw [kind.lawful.pending_write, finished, next]
    · rw [next]
      rfl

/-- A read counts down, and then it shows the record that it has settled or left. -/
theorem readSettling_turned (kind : Awaited) (id : ResourceId) :
    (kind.table.readSettling id kind.settled).Yields cloud
      (fun shown after =>
        Subject.Turned ⟨kind, id⟩ (.read (Lifecycle.availability shown)) cloud after)
      (fun _ after => ∀ looks, kind.Kept looks cloud after) := by
  rw [yields_readSettling]
  cases stored : (kind.table.read cloud).get? id with
  | none => exact fun looks => .refl kind looks cloud
  | some record =>
      dsimp only
      cases count : cloud.pending.get? id with
      | none =>
          refine settling_turned stored count (fun _ _ => rfl) ?_
          rw [count]
          rfl
      | some left =>
          dsimp only
          split
          next more =>
            have found : (kind.table.read
                { cloud with pending := cloud.pending.insert id (left - 1) }).get? id =
                  some record := by
              rw [kind.read_pending]
              exact stored
            have next : (Stage.of (some left) record).read kind = .of (some (left - 1)) record :=
              if_pos more
            apply Yields.find _ _ found
            refine ⟨⟨_, stage?_of_stored stored, ?_, ?_⟩, ?_, ?_, by rintro ⟨⟩⟩
            · rw [stage?_of_stored found, SortedMap.get?_insert_self, count, next]
            · rw [count, next]
              rfl
            · intro other _
              rw [record?, kind.read_pending]
              rfl
            · intro other different
              rw [SortedMap.get?_insert, if_neg different]
          next last =>
            refine settling_turned stored ?_ ?_ ?_
            · rw [SortedMap.get?_erase, if_pos rfl]
            · intro other different
              rw [SortedMap.get?_erase, if_neg different]
            · rw [count]
              exact if_neg last

/-- Where neither the records nor the counts are written, the resources of a kind are kept. -/
theorem Awaited.Kept.of_untouched (kept : kind.Kept looks base cloud)
    (records : kind.table.read after = kind.table.read cloud)
    (counts : after.pending = cloud.pending) : kind.Kept looks base after where
  availability := kept.availability.trans (.of_read_eq records)
  runStatus looks := (kept.runStatus looks).trans (.of_read_eq records)
  counts := counts.trans kept.counts

/-- A step that prepares a call changes no more than the counter. -/
theorem kept_of_prepares {α : Type} {step : CloudStep α} (prepares : Prepares step) :
    Maintains (kind.Kept looks base) step := by
  intro cloud kept
  have keeps (after : Cloud) (same : cloud.SameButCounter after) : kind.Kept looks base after := by
    have records := kind.lawful.read_counters cloud after.lastId cloud.pending cloud.calls
      cloud.failures
    rw [← same] at records
    exact kept.of_untouched records (by rw [same])
  exact (prepares cloud).mono (fun _ => keeps) fun _ => keeps

/-- A change of other data keeps the resources of a kind. -/
theorem kept_of_modify {change : Cloud → Cloud}
    (records : ∀ cloud, kind.table.read (change cloud) = kind.table.read cloud)
    (counts : ∀ cloud, (change cloud).pending = cloud.pending) :
    Maintains (kind.Kept looks base) (modify change : CloudStep PUnit) :=
  maintains_modify fun cloud kept => kept.of_untouched (records cloud) (counts cloud)

/-- A call that does more than look may edit a record without a trace in its availability. -/
theorem kept_of_change (kind : Awaited) (id : ResourceId) {edit : kind.Record → kind.Record}
    (writes : ¬ looks)
    (hidden : ∀ record, Lifecycle.availability (edit record) = Lifecycle.availability record) :
    Maintains (kind.Kept looks base) (kind.table.change id edit) := by
  intro cloud kept
  rw [yields_change]
  split
  next record stored =>
    have written := kind.lawful.read_write cloud ((kind.table.read cloud).insert id (edit record))
    refine ⟨kept.availability.trans (.of_insert stored written (hidden record)),
      fun looks => absurd looks writes, ?_⟩
    rw [kind.lawful.pending_write]
    exact kept.counts
  next => exact kept

/-- An edit with settings draws a new hash and checks the one that it is given. -/
theorem kept_of_checked_change (kind : Awaited) (id : ResourceId) (given : String)
    (hashOf : kind.Record → String) {edit : String → kind.Record → kind.Record} (writes : ¬ looks)
    (hidden : ∀ hash record,
      Lifecycle.availability (edit hash record) = Lifecycle.availability record) :
    Maintains (kind.Kept looks base) (do
      let hash ← freshHash
      let record ← kind.table.find id
      checkHash (hashOf record) given
      kind.table.change id (edit hash)) :=
  (kept_of_prepares prepares_freshHash).bind fun hash =>
    (kept_of_prepares (prepares_find _ _)).bind fun _ =>
    (kept_of_prepares (prepares_checkHash _ _)).bind fun _ =>
    kept_of_change kind id writes (hidden hash)

end Rules

/-- An exchange is a turn of one resource of a kind, or it keeps all resources of this kind. -/
inductive Awaited.Effect (kind : Awaited) (exchange : Exchange) (before after : Cloud) : Prop where
  | turned (id : ResourceId) (turn : Turn) (takes : exchange.turn? = some (⟨kind, id⟩, turn))
      (turned : Subject.Turned ⟨kind, id⟩ turn before after)
  | kept (silent : exchange.turn? = none)
      (kept : kind.Kept exchange.request.endpoint.isReadOnly before after)

/-- A call has an effect on a kind, provided that it does not carry the counter past its end. -/
def Awaited.Affects (kind : Awaited) (cloud : Cloud) (request : Request)
    (step : CloudStep request.Answer) : Prop :=
  step.Yields cloud
    (fun value after => cloud.lastId ≤ after.lastId →
      kind.Effect ⟨request, .ok value⟩ cloud after)
    (fun error after => kind.Effect ⟨request, .error error⟩ cloud after)

namespace Cloud

variable {kind : Awaited} {cloud : Cloud} {request : Request} {step : CloudStep request.Answer}

/-- A call that is no turn and keeps the resources of a kind has its effect on the kind. -/
theorem affects_of_maintains
    (silent : ∀ answer, Exchange.turn? ⟨request, answer⟩ = none)
    (maintains : Maintains (kind.Kept request.endpoint.isReadOnly cloud) step) :
    kind.Affects cloud request step :=
  (maintains cloud (.refl kind _ cloud)).mono (fun _ _ kept _ => .kept (silent _) kept)
    fun _ _ kept => .kept (silent _) kept

/-- A call that is a turn of one resource when it succeeds has its effect on the kind of the
resource. -/
theorem affects_of_turned {id : ResourceId} {turn : request.Answer → Turn}
    (takes : ∀ value, Exchange.turn? ⟨request, .ok value⟩ = some (⟨kind, id⟩, turn value))
    (silent : ∀ error, Exchange.turn? ⟨request, .error error⟩ = none)
    (turned : step.Yields cloud (fun value => Subject.Turned ⟨kind, id⟩ (turn value) cloud)
      (fun _ after => ∀ looks, kind.Kept looks cloud after)) :
    kind.Affects cloud request step :=
  turned.mono (fun _ _ turned _ => .turned id _ (takes _) turned)
    fun _ _ kept => .kept (silent _) (kept _)

/-- A number that is drawn first is new, also when another one is drawn after it. -/
theorem drawn_fresh {last next : UInt64} (drawn : next = last + 1 ∨ next = last + 1 + 1)
    (counted : last ≤ next) : last < last + 1 ∧ last + 1 ≤ next := by
  rcases drawn with rfl | rfl <;> grind

end Cloud

end Provisioning
