import Provisioning.Blueprint.Switching
import Provisioning.Proofs.Calm

/-!
Waits and power requests of calm runs. A wait ends in time when its budget covers the looks that the
resource still needs, and a boot that the remote accepts at once is confirmed by the first look.
-/

namespace Provisioning

open Program

variable {quiet : Prop} {context : Context} {world : World Cloud} {ρ μ : Type}

/-- A timeout is excused in circumstances that are not quiet. -/
theorem ProvisionError.excused_timeout {action : String} (noisy : ¬ quiet) :
    (ProvisionError.timeout action).Excused quiet :=
  ⟨noisy, fun ⟨_, _, same⟩ => nomatch same⟩

/-- A wait covers a number of looks after its first one when it has a positive interval and as many
intervals begin before its budget has passed. -/
structure WaitOptions.Covers (options : WaitOptions) (looks : Nat) : Prop where
  paced : 0 < options.pollInterval
  enough : looks ≤ intervalsWithin options.pollInterval options.timeout

namespace WaitOptions.Covers

variable {options : WaitOptions} {looks : Nat}

/-- A wait that covers some looks has more rounds than looks. -/
theorem lt_pollLimit (covers : options.Covers looks) : looks < options.pollLimit := by
  have paced := covers.paced
  rw [pollLimit, if_neg (by omega)]
  exact Nat.lt_succ_of_le covers.enough

/-- A wait that covers some looks covers its first look. -/
theorem zero (covers : options.Covers looks) : options.Covers 0 := ⟨covers.paced, Nat.zero_le _⟩

/-- A wait that covers some looks has the last of them before its budget has passed by an interval.
-/
theorem inTime (covers : options.Covers looks) (_ : 0 < looks) :
    looks * options.pollInterval < options.timeout + options.pollInterval := by
  have within := (Nat.le_div_iff_mul_le covers.paced).mp covers.enough
  have paced := covers.paced
  omega

end WaitOptions.Covers

namespace Wait

/-- A poll goes on while its state needs more looks. In quiet circumstances the rounds and the time
that are left suffice for the looks that are needed. -/
theorem pollUntil_yields {action : String} {interval deadline : Nat}
    {probe : μ → Attempt CloudService (ρ × μ)} {accepts : ρ → Bool} (needs : Nat → Cloud → Prop)
    (done : ρ → Cloud → Prop)
    (probes : ∀ looks memory world, Calm quiet context world → needs looks world.store →
      Yields context Cloud.remote (probe memory) world
        (fun seen after => Calm quiet context after ∧
          (quiet → after.timeline = world.timeline) ∧
            if accepts seen.1 then done seen.1 after.store
            else ∃ fewer, (quiet → fewer < looks) ∧ needs fewer after.store)
        (fun _ _ => ¬ quiet))
    {rounds looks : Nat} {memory : μ} (calm : Calm quiet context world)
    (here : needs looks world.store) (enough : quiet → looks < rounds)
    (early : quiet → 0 < looks → world.timeline.now + looks * interval < deadline + interval) :
    Yields context Cloud.remote
      (pollUntil action interval deadline probe accepts rounds memory) world
      (fun state after => Calm quiet context after ∧ done state after.store)
      (fun error _ => error.Excused quiet) := by
  induction rounds generalizing looks memory world with
  | zero =>
      exact ProvisionError.excused_timeout fun silent => Nat.not_lt_zero _ (enough silent)
  | succ rounds inductionHypothesis =>
      rw [pollUntil, yields_bind]
      apply yields_calm_check calm action _ (fun _ excused => excused)
      rw [yields_bind, yields_during]
      apply (probes looks memory world calm here).mono
      · rintro ⟨state, memory⟩ after ⟨calmAfter, sameTime, outcome⟩
        dsimp only at outcome ⊢
        split at outcome
        next accepted =>
          rw [if_pos accepted]
          exact ⟨calmAfter, outcome⟩
        next rejected =>
          obtain ⟨fewer, less, goesOn⟩ := outcome
          rw [if_neg rejected, yields_bind, yields_now]
          by_cases late : deadline ≤ after.timeline.now
          · rw [if_pos late]
            apply ProvisionError.excused_timeout
            intro silent
            have fewerLooks := less silent
            have inTime := early silent (by omega)
            have step : 1 * interval ≤ looks * interval := Nat.mul_le_mul_right _ (by omega)
            rw [sameTime silent] at late
            omega
          · rw [if_neg late, yields_bind]
            apply yields_calm_pause calmAfter interval action
            · intro timeline calmLater later
              apply inductionHypothesis calmLater goesOn
              · intro silent
                have bound := enough silent
                have fewerLooks := less silent
                omega
              · intro silent _
                have fewerLooks := less silent
                have inTime := early silent (by omega)
                have step : (fewer + 1) * interval ≤ looks * interval :=
                  Nat.mul_le_mul_right _ fewerLooks
                rw [Nat.add_mul, Nat.one_mul] at step
                rw [later silent, sameTime silent]
                omega
            · exact fun _ _ excused => excused
      · intro error after noisy
        exact ⟨noisy, ProvisionError.not_isValidation_ofRemote _ _⟩

/-- A wait whose budget covers the looks that are still needed ends with a state that it accepts,
and in quiet circumstances it does not fail. -/
theorem forStateWith_yields {action : String} {probe : μ → Attempt CloudService (ρ × μ)}
    {accepts : ρ → Bool} (needs : Nat → Cloud → Prop) (done : ρ → Cloud → Prop)
    {options : WaitOptions} {looks : Nat} {memory : μ}
    (probes : ∀ looks memory world, Calm quiet context world → needs looks world.store →
      Yields context Cloud.remote (probe memory) world
        (fun seen after => Calm quiet context after ∧
          (quiet → after.timeline = world.timeline) ∧
            if accepts seen.1 then done seen.1 after.store
            else ∃ fewer, (quiet → fewer < looks) ∧ needs fewer after.store)
        (fun _ _ => ¬ quiet))
    (calm : Calm quiet context world) (here : needs looks world.store)
    (covers : quiet → options.Covers looks) :
    Yields context Cloud.remote (forStateWith action probe accepts options memory) world
      (fun state after => Calm quiet context after ∧ done state after.store)
      (fun error _ => error.Excused quiet) := by
  rw [forStateWith, yields_bind, yields_now]
  apply pollUntil_yields needs done probes calm here
  · exact fun silent => (covers silent).lt_pollLimit
  · intro silent some
    have inTime := (covers silent).inTime some
    omega

end Wait

namespace Cloud

/-- A cloud waits while nothing but its log, its announcements and its counts of reads change. -/
structure Waited (before after : Cloud) : Prop where
  rest : after =
    { before with calls := after.calls, failures := after.failures, pending := after.pending }

namespace Waited

variable {before after : Cloud}

theorem refl (cloud : Cloud) : cloud.Waited cloud := ⟨rfl⟩

theorem logging (waited : before.Waited after) (request : Request)
    (failures : List (Endpoint × RemoteError)) :
    before.Waited (after.logging request failures) where
  rest := by
    rw [Cloud.logging, waited.rest]

theorem counting (waited : before.Waited after) (pending : Records Nat) :
    before.Waited { after with pending := pending } where
  rest := by
    rw [waited.rest]

/-- A lawful table has the same records while the cloud waits. -/
theorem read_eq (waited : before.Waited after) {table : Table ρ} (lawful : table.Lawful) :
    table.read after = table.read before := by
  rw [waited.rest]
  exact lawful.read_counters before before.lastId after.pending after.calls after.failures

end Waited

/-- A record settles after some looks, and with the next one at the latest. -/
def SettlesAfter (cloud : Cloud) (id : ResourceId) (looks : Nat) : Prop :=
  ∀ count, cloud.pending.get? id = some count → count ≤ looks + 1

/-- A record with some reads left settles with the last of them. -/
theorem SettlesAfter.of_counted {cloud : Cloud} {id : ResourceId} {reads : Nat}
    (counted : cloud.pending.get? id = some reads) : cloud.SettlesAfter id (reads - 1) := by
  intro count found
  cases counted.symm.trans found
  omega

/-- A record that has settled settles after any looks. -/
theorem SettlesAfter.of_settled {cloud : Cloud} {id : ResourceId} {looks : Nat}
    (settled : cloud.pending.get? id = none) : cloud.SettlesAfter id looks :=
  fun _ found => nomatch settled.symm.trans found

/-- Every record settles after some looks. -/
theorem exists_settlesAfter (cloud : Cloud) (id : ResourceId) :
    ∃ looks, cloud.SettlesAfter id looks := by
  cases counted : cloud.pending.get? id with
  | none => exact ⟨0, .of_settled counted⟩
  | some count => exact ⟨_, .of_counted counted⟩

/-- A creation that goes on is finished when its record settles. -/
theorem settledAvailability_of_migrating {availability : Availability}
    (creating : availability = .migrating) : settledAvailability availability = .available := by
  rw [creating]
  rfl

/-- A reader is a kind of record that settles while it is read. -/
structure Reader (ρ : Type) where
  table : Table ρ
  settled : ρ → ρ
  request : ResourceId → Request
  probe : ResourceId → Attempt CloudService ρ
  lawful : table.Lawful
  probe_yields : ∀ {quiet : Prop} {context : Context} {world : World Cloud} {id : ResourceId}
    {succeeds : ρ → World Cloud → Prop} {fails : RemoteError → World Cloud → Prop},
    Calm quiet context world →
      (table.readSettling id settled).Yields
        (world.store.logging (request id) world.store.failures)
        (fun value after => Calm quiet context { world with store := after } →
          succeeds value { world with store := after })
        (fun error after => Calm quiet context { world with store := after } →
          fails error { world with store := after }) →
      (¬ quiet → ∀ error failures,
        fails error { world with store := world.store.logging (request id) failures }) →
      Yields context Cloud.remote (probe id) world succeeds fails

namespace Reader

def disks (zone : Zone) : Reader Disk where
  table := diskTable
  settled disk := { disk with availability := settledAvailability disk.availability }
  request id := .disk zone (.read id)
  probe id := Build.attempt (.disk zone (.read id))
  lawful := diskTable_lawful
  probe_yields calm answered announced := yields_calm_attempt calm answered announced

def databases (zone : Zone) : Reader Database where
  table := databaseTable
  settled := settledDatabase
  request id := .database zone (.read id)
  probe id := Build.attempt (.database zone (.read id))
  lawful := databaseTable_lawful
  probe_yields calm answered announced := yields_calm_attempt calm answered announced

def vpcRouters (zone : Zone) : Reader VpcRouter where
  table := vpcRouterTable
  settled router := { router with availability := settledAvailability router.availability }
  request id := .vpcRouter zone (.read id)
  probe id := Build.attempt (.vpcRouter zone (.read id))
  lawful := vpcRouterTable_lawful
  probe_yields calm answered announced := yields_calm_attempt calm answered announced

def mobileGateways (zone : Zone) : Reader MobileGateway where
  table := mobileGatewayTable
  settled gateway := { gateway with availability := settledAvailability gateway.availability }
  request id := .mobileGateway zone (.read id)
  probe id := Build.attempt (.mobileGateway zone (.read id))
  lawful := mobileGatewayTable_lawful
  probe_yields calm answered announced := yields_calm_attempt calm answered announced

def registries : Reader ContainerRegistry where
  table := registryTable
  settled registry := { registry with availability := settledAvailability registry.availability }
  request id := .containerRegistry (.read id)
  probe id := Build.attempt (.containerRegistry (.read id))
  lawful := registryTable_lawful
  probe_yields calm answered announced := yields_calm_attempt calm answered announced

def localRouters : Reader LocalRouter where
  table := localRouterTable
  settled router := { router with availability := settledAvailability router.availability }
  request id := .localRouter (.read id)
  probe id := Build.attempt (.localRouter (.read id))
  lawful := localRouterTable_lawful
  probe_yields calm answered announced := yields_calm_attempt calm answered announced

variable {reader : Reader ρ} {id : ResourceId} {record : ρ} {accepts : ρ → Bool}

/-- A record needs some more looks while its count of reads is above one. -/
def Needs (base : Cloud) (id : ResourceId) (looks : Nat) (cloud : Cloud) : Prop :=
  base.Waited cloud ∧ cloud.SettlesAfter id looks

/-- The wait for a record leaves the settled record in its table. -/
def Settles (reader : Reader ρ) (id : ResourceId) (record : ρ) (before after : Cloud) : Prop :=
  ∃ middle, before.Waited middle ∧ middle.pending.get? id = none ∧
    after = reader.table.write middle ((reader.table.read before).insert id (reader.settled record))

/-- A record that settles is stored as settled. -/
theorem Settles.stored {before after : Cloud} (settles : reader.Settles id record before after) :
    (reader.table.read after).get? id = some (reader.settled record) := by
  obtain ⟨middle, -, -, rfl⟩ := settles
  rw [reader.lawful.read_write, SortedMap.get?_insert_self]

/-- A record that settles has no reads left. -/
theorem Settles.counted {before after : Cloud} (settles : reader.Settles id record before after) :
    after.pending.get? id = none := by
  obtain ⟨middle, -, counted, rfl⟩ := settles
  rw [reader.lawful.pending_write, counted]

/-- One look takes a record a step nearer to its settling, or finds it settled. -/
theorem look_yields {base : Cloud} {looks : Nat} (calm : Calm quiet context world)
    (stored : (reader.table.read base).get? id = some record)
    (here : Needs base id looks world.store) :
    Yields context Cloud.remote (reader.probe id) world
      (fun seen after => Calm quiet context after ∧ after.timeline = world.timeline ∧
        (seen = reader.settled record ∧ reader.Settles id record base after.store ∨
          seen = record ∧ 0 < looks ∧ Needs base id (looks - 1) after.store))
      (fun _ _ => ¬ quiet) := by
  obtain ⟨waited, counting⟩ := here
  have settles : ∀ middle, base.Waited middle → middle.pending.get? id = none →
      (reader.table.change id reader.settled).Yields middle
        (fun seen after => seen = reader.settled record ∧ reader.Settles id record base after)
        (fun _ _ => ¬ quiet) := by
    intro middle waitedToo counted
    rw [CloudStep.yields_change, waitedToo.read_eq reader.lawful, stored]
    exact ⟨rfl, middle, waitedToo, counted, rfl⟩
  apply reader.probe_yields calm
  · have logged := waited.logging (reader.request id) world.store.failures
    have counting : (world.store.logging (reader.request id)
        world.store.failures).SettlesAfter id looks := counting
    generalize world.store.logging (reader.request id) world.store.failures = cloud
      at logged counting ⊢
    rw [CloudStep.yields_readSettling, logged.read_eq reader.lawful, stored]
    dsimp only
    cases counted : cloud.pending.get? id with
    | none =>
        apply (settles _ logged counted).mono
        · exact fun seen after settled calmAfter => ⟨calmAfter, rfl, .inl settled⟩
        · exact fun _ _ noisy _ => noisy
    | some left =>
        have few := counting left counted
        dsimp only
        split
        next more =>
          have goesOn := logged.counting (cloud.pending.insert id (left - 1))
          rw [CloudStep.yields_find, goesOn.read_eq reader.lawful, stored]
          intro calmAfter
          refine ⟨calmAfter, rfl, .inr ⟨rfl, by omega, goesOn, ?_⟩⟩
          intro count found
          rw [SortedMap.get?_insert_self] at found
          cases found
          omega
        next last =>
          have goesOn := logged.counting (cloud.pending.erase id)
          apply (settles _ goesOn ?_).mono
          · exact fun seen after settled calmAfter => ⟨calmAfter, rfl, .inl settled⟩
          · exact fun _ _ noisy _ => noisy
          · rw [SortedMap.get?_erase, if_pos rfl]
  · exact fun noisy _ _ => noisy

/-- A wait for a state that only the settled record has ends when the record settles. -/
theorem forState_yields {action : String} {options : WaitOptions} {looks : Nat}
    (calm : Calm quiet context world)
    (stored : (reader.table.read world.store).get? id = some record)
    (counting : world.store.SettlesAfter id looks)
    (accepted : accepts (reader.settled record) = true)
    (patient : accepts record = true → looks = 0)
    (covers : quiet → options.Covers looks) :
    Yields context Cloud.remote (Wait.forState action (reader.probe id) accepts options) world
      (fun state after => Calm quiet context after ∧ state = reader.settled record ∧
        reader.Settles id record world.store after.store)
      (fun error _ => error.Excused quiet) := by
  apply Wait.forStateWith_yields
    (fun looks cloud => Needs world.store id looks cloud ∧ (accepts record = true → looks = 0))
    (fun state after => state = reader.settled record ∧ reader.Settles id record world.store after)
    _ calm ⟨⟨.refl _, counting⟩, patient⟩ covers
  intro looks memory now calmNow here
  apply (look_yields calmNow stored here.1).bind
  rintro seen after ⟨calmAfter, sameTime, ⟨rfl, settles⟩ | ⟨rfl, more, goesOn⟩⟩
  · rw [yields_pure, if_pos accepted]
    exact ⟨calmAfter, fun _ => sameTime, rfl, settles⟩
  · have rejected : ¬ accepts seen = true := fun accepts => by
      have none := here.2 accepts
      omega
    rw [yields_pure, if_neg rejected]
    exact ⟨calmAfter, fun _ => sameTime, looks - 1, fun _ => by omega, goesOn,
      fun accepts => absurd accepts rejected⟩

/-- A record whose creation goes on is ready when it settles, unless its creation fails. -/
theorem untilReady_yields [Lifecycle ρ] {resource : String} {options : WaitOptions} {looks : Nat}
    (calm : Calm quiet context world)
    (stored : (reader.table.read world.store).get? id = some record)
    (counting : world.store.SettlesAfter id looks)
    (creating : (Lifecycle.availability record).isTransitional)
    (ready : Lifecycle.availability (reader.settled record) = .available)
    (covers : quiet → options.Covers looks) :
    Yields context Cloud.remote (Wait.untilReady resource id (reader.probe id) options) world
      (fun state after => Calm quiet context after ∧ state = reader.settled record ∧
        reader.Settles id record world.store after.store)
      (fun error _ => error.Excused quiet) := by
  rw [Wait.untilReady]
  apply (forState_yields calm stored counting _ _ covers).bind
  · rintro state after ⟨calmAfter, rfl, settles⟩
    rw [ready, if_neg (by decide)]
    exact ⟨calmAfter, rfl, settles⟩
  · rw [ready]
    rfl
  · rw [creating]
    exact nofun

end Reader

end Cloud

namespace PowerHandler

variable {handler : PowerHandler CloudService} {operation : PowerOperation}
  {before booted : Cloud → Prop}

/-- A request that is accepted in quiet circumstances needs one round. -/
theorem requestRounds_yields {policy : RetryPolicy} {start rounds : Nat}
    (requests : ∀ world, Calm quiet context world → before world.store →
      Yields context Cloud.remote (handler.request operation) world
        (fun _ after => Calm quiet context after ∧ booted after.store) (fun _ _ => ¬ quiet))
    (calm : Calm quiet context world) (here : quiet → before world.store)
    (enough : quiet → 0 < rounds) :
    Yields context Cloud.remote (handler.requestRounds operation policy start rounds) world
      (fun _ after => Calm quiet context after ∧ (quiet → booted after.store))
      (fun error _ => error.Excused quiet) := by
  induction rounds generalizing world with
  | zero => exact ProvisionError.excused_timeout fun silent => Nat.lt_irrefl _ (enough silent)
  | succ rounds inductionHypothesis =>
      rw [requestRounds, yields_bind]
      apply yields_calm_check calm _ _ (fun _ excused => excused)
      rw [yields_bind, yields_outcome]
      apply (Yields.when_quiet fun silent => requests world calm (here silent)).mono
      · exact fun _ after booted => booted
      · intro error after noisy
        dsimp only
        split
        · rw [yields_bind]
          apply yields_calm_pause (.of_noisy noisy)
          · intro timeline calmLater _
            rw [yields_bind, yields_now]
            split
            · exact ProvisionError.excused_timeout noisy
            · exact inductionHypothesis calmLater (fun silent => absurd silent noisy)
                (fun silent => absurd silent noisy)
          · exact fun _ _ excused => excused
        · exact ⟨noisy, ProvisionError.not_isValidation_ofRemote _ _⟩

/-- The first look confirms an operation that had its effect at once. -/
theorem confirm_yields {timing : Timing}
    (statuses : ∀ world, Calm quiet context world → booted world.store →
      Yields context Cloud.remote handler.status world
        (fun status after => Calm quiet context after ∧ status = operation.target ∧
          after.timeline = world.timeline ∧ booted after.store)
        (fun _ _ => ¬ quiet))
    (calm : Calm quiet context world) (here : quiet → booted world.store)
    (covers : quiet → timing.wait.Covers 0) :
    Yields context Cloud.remote (handler.confirm operation timing) world
      (fun _ after => Calm quiet context after ∧ (quiet → booted after.store))
      (fun error _ => error.Excused quiet) := by
  rw [confirm, yields_bind, yields_now]
  apply (Wait.forStateWith_yields (fun looks cloud => looks = 0 ∧ (quiet → booted cloud))
    (fun _ cloud => quiet → booted cloud) _ calm ⟨rfl, here⟩ covers).bind
  · exact fun _ after confirmed => confirmed
  · rintro looks memory now calmNow ⟨-, hereNow⟩
    by_cases silent : quiet
    · rw [confirmation]
      apply (statuses now calmNow (hereNow silent)).bind
      rintro status after ⟨calmAfter, rfl, sameTime, bootedAfter⟩
      have other : operation.target ≠ operation.opposite := by cases operation <;> nofun
      rw [yields_bind, yields_clock, if_neg fun both => other both.1, yields_pure]
      rw [if_pos (beq_self_eq_true _)]
      exact ⟨calmAfter, fun _ => sameTime, fun _ => bootedAfter⟩
    · apply Yields.of_forall
      · intro seen after
        refine ⟨.of_noisy silent, fun quiet => absurd quiet silent, ?_⟩
        split
        · exact fun quiet => absurd quiet silent
        · exact ⟨0, fun quiet => absurd quiet silent, rfl, fun quiet => absurd quiet silent⟩
      · exact fun _ _ => silent

/-- A switch that takes effect at once succeeds in quiet circumstances. -/
theorem switch_yields (before booted : Cloud → Prop) {timing : Timing} {noWait : Bool}
    (requests : ∀ world, Calm quiet context world → before world.store →
      Yields context Cloud.remote (handler.request operation) world
        (fun _ after => Calm quiet context after ∧ booted after.store) (fun _ _ => ¬ quiet))
    (statuses : ∀ world, Calm quiet context world → booted world.store →
      Yields context Cloud.remote handler.status world
        (fun status after => Calm quiet context after ∧ status = operation.target ∧
          after.timeline = world.timeline ∧ booted after.store)
        (fun _ _ => ¬ quiet))
    (calm : Calm quiet context world) (here : quiet → before world.store)
    (covers : quiet → timing.wait.Covers 0) :
    Yields context Cloud.remote (handler.switch operation timing noWait) world
      (fun _ after => Calm quiet context after ∧ (quiet → booted after.store))
      (fun error _ => error.Excused quiet) := by
  rw [switch, requestUntilAccepted, bind_assoc, yields_bind, yields_now]
  apply (requestRounds_yields requests calm here fun _ => RetryPolicy.requestLimit_pos _).bind
  rintro - after ⟨calmAfter, effect⟩
  split
  · exact ⟨calmAfter, effect⟩
  · exact confirm_yields statuses calmAfter effect covers

end PowerHandler

namespace Cloud.Reader

variable {reader : Reader ρ} {id : ResourceId} {status : ρ → RunStatus}

/-- A record is stored, and its instance is up. -/
def Up (reader : Reader ρ) (status : ρ → RunStatus) (id : ResourceId) (cloud : Cloud) : Prop :=
  ∃ record, (reader.table.read cloud).get? id = some record ∧ status record = .up

/-- A look at an instance that is up finds it up, and it stays up when its record settles. -/
theorem status_yields (steady : ∀ record, status (reader.settled record) = status record)
    (calm : Calm quiet context world) (up : reader.Up status id world.store) :
    Yields context Cloud.remote (do let record ← reader.probe id; return status record) world
      (fun seen after => Calm quiet context after ∧ seen = .up ∧
        after.timeline = world.timeline ∧ reader.Up status id after.store)
      (fun _ _ => ¬ quiet) := by
  obtain ⟨record, stored, isUp⟩ := up
  obtain ⟨looks, counting⟩ := world.store.exists_settlesAfter id
  apply (look_yields calm stored ⟨.refl _, counting⟩).bind
  rintro seen after ⟨calmAfter, sameTime, ⟨rfl, settles⟩ | ⟨rfl, -, waited, -⟩⟩
  · have isUp := (steady record).trans isUp
    exact ⟨calmAfter, isUp, sameTime, reader.settled record, settles.stored, isUp⟩
  · have storedToo := congrArg (SortedMap.get? · id) (waited.read_eq reader.lawful)
    exact ⟨calmAfter, isUp, sameTime, seen, storedToo.trans stored, isUp⟩

/-- A boot of a stored record succeeds in quiet circumstances. -/
theorem boot_yields {handler : PowerHandler CloudService} {timing : Timing} {noWait : Bool}
    {record : ρ} (steady : ∀ record, status (reader.settled record) = status record)
    (boots : ∀ world : World Cloud, ∀ record, Calm quiet context world →
      (reader.table.read world.store).get? id = some record →
        Yields context Cloud.remote (handler.request .boot) world
          (fun _ after => Calm quiet context after ∧ reader.Up status id after.store)
          (fun _ _ => ¬ quiet))
    (reads : handler.status = do let record ← reader.probe id; return status record)
    (calm : Calm quiet context world)
    (stored : (reader.table.read world.store).get? id = some record)
    (covers : quiet → timing.wait.Covers 0) :
    Yields context Cloud.remote (handler.switch .boot timing noWait) world
      (fun _ after => Calm quiet context after) (fun error _ => error.Excused quiet) := by
  apply (handler.switch_yields
    (fun cloud => ∃ record, (reader.table.read cloud).get? id = some record) (reader.Up status id)
    _ _ calm (fun _ => ⟨record, stored⟩) covers).mono
  · exact fun _ after booted => booted.1
  · exact fun _ _ excused => excused
  · exact fun world calmNow ⟨found, storedNow⟩ => boots world found calmNow storedNow
  · intro world calmNow up
    rw [reads]
    exact status_yields steady calmNow up

end Cloud.Reader

end Provisioning
