import Provisioning.Proofs.Integrity
import Provisioning.Proofs.Turns

/-!
The schedule of reads. The first reads of a new resource show that it is being prepared, and all
later ones show it available. The count of the reads starts with the creation, and the configuration
of a disk starts it again. No call about another resource and no announced failure matters, since no
two resources of a run share an identifier. The main statement says so for all runs.
-/

namespace Provisioning

open Cloud CloudStep

/-- A turn counts one more read, or it starts the count again. -/
def Turn.count (reads : Nat) : Turn → Nat
  | .read _ => reads + 1
  | .creation | .configuration => 0
  | .deletion => reads

/-- Only the turns of a resource matter for its count of reads. -/
def Exchange.count (subject : Subject) (reads : Nat) (exchange : Exchange) : Nat :=
  match exchange.turn? with
  | some (other, turn) => if other = subject then turn.count reads else reads
  | none => reads

/-- An exchange that is no turn of a resource leaves its count of reads as it is. -/
theorem Exchange.count_of_idle {subject : Subject} {reads : Nat} {exchange : Exchange}
    (idle : ∀ turn, exchange.turn? ≠ some (subject, turn)) :
    exchange.count subject reads = reads := by
  unfold count
  split
  next other turn takes => exact if_neg (by rintro rfl; exact idle turn takes)
  next => rfl

/-- These are the reads that a resource has behind it since its count was started last. -/
def readsSince (subject : Subject) (history : List Exchange) : Nat :=
  history.foldl (Exchange.count subject) 0

/-- This is the stage that a resource has after some reads. -/
def Stage.scheduled (patience reads : Nat) (runStatus : Option RunStatus) : Stage :=
  if reads < patience then ⟨.migrating, runStatus, some (patience - reads)⟩
  else ⟨.available, runStatus, none⟩

/-- One more read takes a stage one further in the schedule. The read that settles a database sets
its run status. -/
theorem Stage.scheduled_read (kind : Awaited) (patience reads : Nat)
    (runStatus : Option RunStatus) :
    (scheduled patience reads runStatus).read kind = scheduled patience (reads + 1)
      (if kind = .database ∧ reads + 1 = patience then some .up else runStatus) := by
  rcases Nat.lt_trichotomy (reads + 1) patience with early | due | late
  · have more : 1 < patience - reads := by omega
    rw [scheduled, if_pos (by omega), scheduled, if_pos early, if_neg (by omega), Nat.sub_add_eq]
    exact if_pos more
  · have last : ¬ 1 < patience - reads := by omega
    rw [scheduled, if_pos (by omega), scheduled, if_neg (by omega)]
    refine (if_neg last).trans ?_
    simp only [settled, due, Availability.isTransitional]
    rfl
  · rw [scheduled, if_neg (by omega), scheduled, if_neg (by omega), if_neg (by omega)]
    simp only [read, settled, Availability.isTransitional, Bool.false_eq_true, and_false, if_false]
    rfl

/-- Before its first read a resource is migrating and has its patience left. -/
theorem Stage.scheduled_zero {patience : Nat} (patient : 1 ≤ patience)
    (runStatus : Option RunStatus) :
    scheduled patience 0 runStatus = ⟨.migrating, runStatus, some patience⟩ :=
  if_pos patient

/-- The run status does not matter for the schedule. -/
theorem Stage.scheduled_with (patience reads : Nat) (former runStatus : Option RunStatus) :
    { scheduled patience reads former with runStatus } = scheduled patience reads runStatus := by
  unfold scheduled
  split <;> rfl

/-- A resource is migrating until as many reads as its patience have been made, and available from
then on. -/
theorem Stage.scheduled_availability (patience reads : Nat) (runStatus : Option RunStatus) :
    (scheduled patience reads runStatus).availability =
      if reads < patience then .migrating else .available := by
  unfold scheduled
  split <;> rfl

/-- A scheduled stage has the run status that it was given. -/
theorem Stage.scheduled_runStatus (patience reads : Nat) (runStatus : Option RunStatus) :
    (scheduled patience reads runStatus).runStatus = runStatus := by
  unfold scheduled
  split <;> rfl

/-- A resource is the only one with its identifier, which the counter has reached. -/
structure Subject.Sole (subject : Subject) (cloud : Cloud) : Prop where
  reached : subject.id.value ≤ cloud.lastId
  alone : ∀ kind, kind ≠ subject.kind → cloud.stage? ⟨kind, subject.id⟩ = none

/-- The identifiers that the counter has not reached are vacant. -/
def Cloud.Vacant (cloud : Cloud) : Prop :=
  ∀ subject : Subject, cloud.lastId < subject.id.value → cloud.stage? subject = none

namespace Cloud

variable {cloud : Cloud} {request : Request} {subject : Subject}

/-- A resource has no stage exactly when it has no record. -/
theorem stage?_eq_none : cloud.stage? subject = none ↔ cloud.record? subject = none :=
  Option.map_eq_none_iff

/-- An absent resource stays absent until it is created. -/
theorem stage?_call_of_absent (absent : cloud.stage? subject = none)
    (counted : cloud.lastId ≤ (call request cloud).2.lastId)
    (uncreated : (cloud.exchange request).turn? ≠ some (subject, .creation)) :
    (call request cloud).2.stage? subject = none := by
  cases takes : (cloud.exchange request).turn? with
  | none =>
      have shows := (call_kept counted takes subject.kind).availability subject.id
      rw [stage?_eq_none] at absent ⊢
      exact Option.map_eq_none_iff.mp (shows.trans (congrArg (Option.map _) absent))
  | some took =>
      obtain ⟨other, turn⟩ := took
      obtain ⟨turned, elsewhere⟩ := call_turned counted takes
      by_cases same : subject = other
      · subst same
        have leads := turned.leads
        rw [absent] at leads
        exact absurd (leads.creation_of_absent ▸ takes) uncreated
      · rw [stage?_eq_none] at absent ⊢
        exact (elsewhere subject same).trans absent

/-- The identifier of a new resource was vacant before. -/
theorem call_fresh (counted : cloud.lastId ≤ (call request cloud).2.lastId)
    (creates : (cloud.exchange request).turn? = some (subject, .creation)) :
    cloud.lastId < subject.id.value ∧ subject.id.value ≤ (call request cloud).2.lastId :=
  (call_turned counted creates).1.fresh rfl

/-- What the counter has not reached is still vacant after a call that does not overflow it. -/
theorem Vacant.call (vacant : cloud.Vacant)
    (counted : cloud.lastId ≤ (call request cloud).2.lastId) :
    (call request cloud).2.Vacant := by
  intro subject above
  have absent := vacant subject (UInt64.lt_of_le_of_lt counted above)
  refine stage?_call_of_absent absent counted fun creates => ?_
  exact UInt64.not_lt.mpr (call_fresh counted creates).2 above

/-- The log of a cloud and its announced failures do not matter for stages. -/
theorem stage?_of_logged (cloud : Cloud) (calls : List Endpoint)
    (failures : List (Endpoint × RemoteError)) (subject : Subject) :
    stage? { cloud with calls := calls, failures := failures } subject = cloud.stage? subject := by
  have read := subject.kind.lawful.read_counters cloud cloud.lastId cloud.pending calls failures
  exact congrArg (fun records => (SortedMap.get? records subject.id).map _) read

/-- A read takes a resource one further in its schedule. -/
theorem stage?_read {patience reads : Nat} {runStatus : Option RunStatus} {shown : Availability}
    (stored : cloud.stage? subject = some (.scheduled patience reads runStatus))
    (counted : cloud.lastId ≤ (call request cloud).2.lastId)
    (takes : (cloud.exchange request).turn? = some (subject, .read shown)) :
    shown = (if reads + 1 < patience then .migrating else .available) ∧
      (call request cloud).2.stage? subject = some (.scheduled patience (reads + 1)
        (if subject.kind = .database ∧ reads + 1 = patience then some .up else runStatus)) := by
  obtain ⟨stage, present, after, shows⟩ := (call_turned counted takes).1.leads
  cases stored.symm.trans present
  rw [Stage.scheduled_read] at after shows
  exact ⟨shows.trans (Stage.scheduled_availability _ _ _), after⟩

/-- No call changes how many reads a new resource needs. -/
theorem call_settleReads : (call request cloud).2.settleReads = cloud.settleReads := by
  obtain ⟨failures, written⟩ := call_footprint request cloud
  exact written.settleReads

end Cloud

namespace Subject

variable {cloud : Cloud} {request : Request} {subject : Subject} {stage : Stage}

/-- A resource that is created where the identifiers are vacant is the only one with its own. -/
theorem sole_of_created (vacant : cloud.Vacant)
    (counted : cloud.lastId ≤ (call request cloud).2.lastId)
    (creates : (cloud.exchange request).turn? = some (subject, .creation)) :
    subject.Sole (call request cloud).2 where
  reached := (call_fresh counted creates).2
  alone kind different := by
    have absent := vacant ⟨kind, subject.id⟩ (call_fresh counted creates).1
    refine stage?_call_of_absent absent counted fun createsToo => different ?_
    exact congrArg (fun took => (took.elim kind (·.1.kind))) (createsToo.symm.trans creates)

/-- A resource that is the only one with its identifier stays so during a call that does not
overflow the counter. -/
theorem Sole.call (sole : subject.Sole cloud)
    (counted : cloud.lastId ≤ (Cloud.call request cloud).2.lastId) :
    subject.Sole (Cloud.call request cloud).2 where
  reached := UInt64.le_trans sole.reached counted
  alone kind different := by
    refine stage?_call_of_absent (sole.alone kind different) counted fun creates => ?_
    exact UInt64.not_lt.mpr sole.reached (call_fresh counted creates).1

/-- A call that is no turn of a sole resource keeps its stage, up to the run status, which a call
that only looks keeps as well. -/
theorem Sole.stage_kept (sole : subject.Sole cloud) (stored : cloud.stage? subject = some stage)
    (counted : cloud.lastId ≤ (Cloud.call request cloud).2.lastId)
    (idle : ∀ turn, (cloud.exchange request).turn? ≠ some (subject, turn)) :
    ∃ runStatus, (Cloud.call request cloud).2.stage? subject = some { stage with runStatus } ∧
      (request.endpoint.isReadOnly → runStatus = stage.runStatus) := by
  obtain ⟨record, found, rfl⟩ := Option.map_eq_some_iff.mp stored
  cases takes : (cloud.exchange request).turn? with
  | none =>
      have kept := call_kept counted takes subject.kind
      have shows := (kept.availability subject.id).trans (congrArg (Option.map _) found)
      obtain ⟨next, foundNext, same⟩ := Option.map_eq_some_iff.mp shows
      refine ⟨Lifecycle.runStatus next, ?_, fun looks => ?_⟩
      · refine (congrArg (Option.map _) foundNext).trans ?_
        rw [kept.counts, Option.map_some, Stage.of, same]
        rfl
      · have ran := (kept.runStatus looks subject.id).trans (congrArg (Option.map _) found)
        exact Option.some.inj ((congrArg (Option.map _) foundNext).symm.trans ran)
  | some took =>
      obtain ⟨other, turn⟩ := took
      obtain ⟨turned, elsewhere⟩ := call_turned counted takes
      have different : subject ≠ other := fun same => idle turn (same ▸ takes)
      have apart : subject.id ≠ other.id := by
        intro same
        obtain ⟨own, id⟩ := subject
        obtain ⟨kind, other⟩ := other
        obtain rfl : id = other := same
        have alone := sole.alone kind fun equal => different (equal ▸ rfl)
        have leads := turned.leads
        rw [alone] at leads
        have above := turned.fresh leads.creation_of_absent
        exact UInt64.not_lt.mpr sole.reached above.1
      refine ⟨Lifecycle.runStatus record, ?_, fun _ => rfl⟩
      rw [stage?, elsewhere subject different, found, turned.counts subject.id apart]
      rfl

/-- A sole resource follows its schedule when it has the stage for its reads. -/
structure Follows (subject : Subject) (patience reads : Nat) (cloud : Cloud) : Prop where
  sole : subject.Sole cloud
  settleReads : cloud.settleReads = patience
  stage : ∃ runStatus, cloud.stage? subject = some (.scheduled patience reads runStatus)

variable {patience reads : Nat}

/-- An announced failure does not change the schedule of a resource. -/
theorem Follows.announced (follows : subject.Follows patience reads cloud) (endpoint : Endpoint)
    (times : Nat) (error : RemoteError) :
    subject.Follows patience reads (cloud.failTimes endpoint times error) where
  sole :=
    { reached := follows.sole.reached
      alone kind different :=
        (stage?_of_logged cloud _ _ _).trans (follows.sole.alone kind different) }
  settleReads := follows.settleReads
  stage := by
    obtain ⟨runStatus, stored⟩ := follows.stage
    exact ⟨runStatus, (stage?_of_logged cloud _ _ _).trans stored⟩

/-- A new resource follows its schedule from the start. -/
theorem follows_of_created (patient : 1 ≤ patience) (vacant : cloud.Vacant)
    (settleReads : cloud.settleReads = patience)
    (counted : cloud.lastId ≤ (Cloud.call request cloud).2.lastId)
    (creates : (cloud.exchange request).turn? = some (subject, .creation)) :
    subject.Follows patience 0 (Cloud.call request cloud).2 where
  sole := sole_of_created vacant counted creates
  settleReads := call_settleReads.trans settleReads
  stage := by
    obtain ⟨runStatus, stored⟩ := (call_turned counted creates).1.leads
    refine ⟨runStatus, ?_⟩
    rw [stored, settleReads, Stage.scheduled_zero patient]

/-- A call leaves a resource on its schedule, unless it deletes the resource. -/
theorem Follows.call (patient : 1 ≤ patience) (follows : subject.Follows patience reads cloud)
    (counted : cloud.lastId ≤ (Cloud.call request cloud).2.lastId)
    (stays : (cloud.exchange request).turn? ≠ some (subject, .deletion)) :
    subject.Follows patience ((cloud.exchange request).count subject reads)
      (Cloud.call request cloud).2 where
  sole := follows.sole.call counted
  settleReads := call_settleReads.trans follows.settleReads
  stage := by
    obtain ⟨runStatus, stored⟩ := follows.stage
    by_cases idle : ∀ turn, (cloud.exchange request).turn? ≠ some (subject, turn)
    · obtain ⟨next, kept, -⟩ := follows.sole.stage_kept stored counted idle
      refine ⟨next, ?_⟩
      rw [kept, Exchange.count_of_idle idle, Stage.scheduled_with]
    · obtain ⟨turn, takes⟩ := not_forall_not.mp idle
      have turned := (call_turned counted takes).1
      rw [Exchange.count, takes]
      simp only [if_true]
      cases turn with
      | creation => exact absurd (turned.fresh rfl).1 (UInt64.not_lt.mpr follows.sole.reached)
      | read shown => exact ⟨_, (stage?_read stored counted takes).2⟩
      | configuration =>
          obtain ⟨stage, present, after⟩ := turned.leads
          cases stored.symm.trans present
          refine ⟨runStatus, after.trans ?_⟩
          rw [follows.settleReads, Turn.count, Stage.scheduled_zero patient, Stage.restarted,
            Stage.scheduled_runStatus]
      | deletion => exact absurd takes stays

/-- A resource follows its schedule until the run deletes it. -/
theorem Follows.run (patient : 1 ≤ patience) {start final : Cloud} {history : List Exchange}
    (follows : subject.Follows patience reads start) (run : Run start history final)
    (stays : ∀ exchange ∈ history, exchange.turn? ≠ some (subject, .deletion)) :
    subject.Follows patience (history.foldl (Exchange.count subject) reads) final := by
  induction run generalizing reads with
  | done cloud => exact follows
  | announce endpoint times error rest inductionHypothesis =>
      exact inductionHypothesis (follows.announced endpoint times error) stays
  | call request counted rest inductionHypothesis =>
      obtain ⟨here, later⟩ := List.forall_mem_cons.mp stays
      exact inductionHypothesis (follows.call patient counted here) later

end Subject

namespace Cloud

variable {cloud : Cloud} {request : Request} {subject : Subject}

/-- A read of a resource that is stored succeeds. -/
theorem readSettling_succeeds {kind : Awaited} {id : ResourceId} {record : kind.Record}
    (stored : (kind.table.read cloud).get? id = some record) :
    (kind.table.readSettling id kind.settled).Yields cloud (fun _ _ => True) fun _ _ => False := by
  have found (pending : Records Nat) :
      (kind.table.read { cloud with pending := pending }).get? id = some record := by
    rw [kind.read_pending]
    exact stored
  rw [yields_readSettling, stored]
  dsimp only
  split
  · exact Yields.change _ _ stored trivial
  · split
    · exact Yields.find _ _ (found _) trivial
    · exact Yields.change _ _ (found _) trivial

/-- A read of a stored resource succeeds and is a turn of this resource. -/
theorem answerRequest_reads (reads : request.reads? = some subject)
    (stored : cloud.stage? subject ≠ none) :
    (answerRequest request).Yields cloud
      (fun value _ => ∃ shown, Exchange.turn? ⟨request, .ok value⟩ = some (subject, .read shown))
      fun _ _ => False := by
  obtain ⟨record, found⟩ := Option.ne_none_iff_exists'.mp (mt stage?_eq_none.mpr stored)
  have succeeds := readSettling_succeeds found
  unfold Request.reads? at reads
  split at reads
  all_goals first
    | (cases reads; exact succeeds.mono (fun _ _ _ => ⟨_, rfl⟩) fun _ _ no => no)
    | nomatch reads

/-- A read of a resource that is stored is a turn unless a failure was announced for it. -/
theorem exchange_reads (reads : request.reads? = some subject)
    (stored : cloud.stage? subject ≠ none) :
    if (request.endpoint.takeFirst cloud.failures).isSome then
      (cloud.exchange request).turn? = none
    else ∃ shown, (cloud.exchange request).turn? = some (subject, .read shown) := by
  refine call_elim (motive := fun answer _ =>
    if (request.endpoint.takeFirst cloud.failures).isSome then
      Exchange.turn? ⟨request, answer⟩ = none
    else ∃ shown, Exchange.turn? ⟨request, answer⟩ = some (subject, .read shown)) ?_ ?_
  · intro error failures announced
    rw [announced]
    exact Exchange.turn?_error request error
  · intro quiet
    rw [quiet]
    have logged : (cloud.logging request cloud.failures).stage? subject ≠ none := by
      rw [logging, stage?_of_logged]
      exact stored
    exact (answerRequest_reads reads logged).mono (fun _ _ shows => shows) fun _ _ no => no.elim

/-- A seeded cloud has the patience that it was given. -/
theorem seeded_settleReads {patience : Nat} (patient : 1 ≤ patience) (seeds : List Seed) :
    (seeded patience seeds).settleReads = patience := by
  refine seeded_elim (motive := fun cloud => cloud.settleReads = patience) patience seeds ?_ ?_
  · exact Nat.max_eq_left patient
  · intro cloud seed _ same
    cases seed <;> exact same

/-- A seeded cloud is vacant beyond its counter, which has reached the identifiers of all seeds. -/
theorem seeded_vacant (patience : Nat) {seeds : List Seed}
    (early : ∀ seed ∈ seeds, ∀ id ∈ seed.ids, id.value.toNat ≤ 1000) :
    (seeded patience seeds).Vacant := by
  have keyed := keyed_seeded patience seeds early
  intro subject above
  rw [seeded_lastId, UInt64.lt_iff_toNat_lt] at above
  rw [stage?_eq_none]
  cases found : (seeded patience seeds).record? subject with
  | none => rfl
  | some record =>
      have reached : subject.id.value.toNat ≤ 1000 := by
        obtain ⟨kind, id⟩ := subject
        cases kind with
        | disk => exact (keyed.disks id record found).2
        | database => exact (keyed.databases id record found).2
        | vpcRouter => exact (keyed.vpcRouters id record found).2
        | mobileGateway => exact (keyed.mobileGateways id record found).2
        | containerRegistry => exact (keyed.registries id record found).2
        | localRouter => exact (keyed.localRouters id record found).2
      exact absurd above (Nat.not_lt.mpr reached)

/-- A resource that a run has created follows its schedule until the run deletes it. -/
theorem Run.follows {patience : Nat} {seeds : List Seed} {before after : List Exchange}
    {creation : Exchange} (patient : 1 ≤ patience)
    (early : ∀ seed ∈ seeds, ∀ id ∈ seed.ids, id.value.toNat ≤ 1000)
    (run : Run (seeded patience seeds) (before ++ creation :: after) cloud)
    (creates : creation.turn? = some (subject, .creation))
    (stays : ∀ exchange ∈ after, exchange.turn? ≠ some (subject, .deletion)) :
    subject.Follows patience (readsSince subject after) cloud := by
  obtain ⟨middle, first, second⟩ := run.split
  obtain ⟨now, request, silent, counted, rfl, later⟩ := second.uncons
  -- Nothing bears the number that the creation draws, since the identifiers of the seeds are small.
  obtain ⟨vacant, settleReads⟩ := (first.append silent).keeps
    (motive := fun cloud => cloud.Vacant ∧ cloud.settleReads = patience)
    (fun cloud endpoint times error ⟨vacant, same⟩ =>
      ⟨fun subject above => (stage?_of_logged cloud _ _ _).trans (vacant subject above), same⟩)
    (fun cloud request counted ⟨vacant, same⟩ =>
      ⟨vacant.call counted, call_settleReads.trans same⟩)
    ⟨seeded_vacant patience early, seeded_settleReads patient seeds⟩
  exact (Subject.follows_of_created patient vacant settleReads counted creates).run patient later
    stays

/-- The next read of a resource shows what its schedule says, unless a failure is announced. -/
theorem exchange_follows {patience reads : Nat} (follows : subject.Follows patience reads cloud)
    (asks : request.reads? = some subject) :
    (cloud.exchange request).turn? =
      if (request.endpoint.takeFirst cloud.failures).isSome then none
      else some (subject, .read (if reads + 1 < patience then .migrating else .available)) := by
  obtain ⟨runStatus, stored⟩ := follows.stage
  have outcome := exchange_reads asks (stored ▸ Option.some_ne_none _)
  split at outcome
  next announced => rw [outcome, if_pos announced]
  next quiet =>
    obtain ⟨shown, takes⟩ := outcome
    have same := call_lastId_of_isReadOnly (Request.isReadOnly_of_reads? asks) cloud
    rw [takes, if_neg quiet, (stage?_read stored (UInt64.le_of_eq same.symm) takes).1]

/-- In every run from a cloud that is seeded while it is new, whatever is called and announced, a
resource that the run has created keeps to its schedule as long as it is not deleted. Its next read
shows it as the schedule says, unless a failure is announced for the read. A call that only looks
leaves its run status as it is, but the read that settles a database sets it to up. -/
theorem Run.reads_on_schedule {patience : Nat} {seeds : List Seed} {before after : List Exchange}
    {creation : Exchange} (patient : 1 ≤ patience)
    (early : ∀ seed ∈ seeds, ∀ id ∈ seed.ids, id.value.toNat ≤ 1000)
    (run : Run (seeded patience seeds) (before ++ creation :: after) cloud)
    (creates : creation.turn? = some (subject, .creation))
    (stays : ∀ exchange ∈ after, exchange.turn? ≠ some (subject, .deletion)) :
    let reads := readsSince subject after
    (∃ runStatus, cloud.stage? subject = some (.scheduled patience reads runStatus)) ∧
    (∀ request, request.reads? = some subject →
      (cloud.exchange request).turn? =
        if (request.endpoint.takeFirst cloud.failures).isSome then none
        else some (subject, .read (if reads + 1 < patience then .migrating else .available))) ∧
    ∀ request, request.endpoint.isReadOnly →
      ((Cloud.call request cloud).2.stage? subject).map Stage.runStatus =
        if subject.kind = .database ∧ request.reads? = some subject ∧
            request.endpoint.takeFirst cloud.failures = none ∧ reads + 1 = patience then
          some (some .up)
        else (cloud.stage? subject).map Stage.runStatus := by
  have follows := run.follows patient early creates stays
  refine ⟨follows.stage, fun _ => exchange_follows follows, fun request looks => ?_⟩
  obtain ⟨runStatus, stored⟩ := follows.stage
  have counted := UInt64.le_of_eq (call_lastId_of_isReadOnly looks cloud).symm
  by_cases idle : ∀ turn, (cloud.exchange request).turn? ≠ some (subject, turn)
  · obtain ⟨next, kept, same⟩ := follows.sole.stage_kept stored counted idle
    have elsewhere : ¬ (subject.kind = .database ∧ request.reads? = some subject ∧
        request.endpoint.takeFirst cloud.failures = none ∧
          readsSince subject after + 1 = patience) := by
      rintro ⟨-, asks, quiet, -⟩
      have takes := exchange_follows follows asks
      rw [quiet] at takes
      exact idle _ takes
    rw [kept, stored, if_neg elsewhere, same looks]
  · obtain ⟨turn, takes⟩ := not_forall_not.mp idle
    have asks : request.reads? = some subject := (Exchange.turn?_some takes).2.2 looks
    have shows := exchange_follows follows asks
    rw [takes] at shows
    split at shows
    next announced => nomatch shows
    next quiet =>
      cases shows
      have silent : request.endpoint.takeFirst cloud.failures = none :=
        Option.not_isSome_iff_eq_none.mp quiet
      rw [(stage?_read stored counted takes).2, stored]
      simp only [Option.map_some, Stage.scheduled_runStatus, asks, silent, true_and]
      split <;> rfl

/-- A new database is read once in vain and once while it is being prepared. The next read finds it
available, and up. -/
theorem Run.new_database_settles :
    let zone : Zone := ⟨"is1a"⟩
    let create : Request := .database zone (.create
      { (default : DatabaseCreateRequest) with switchId := ⟨7⟩ })
    let read : Request := .database zone (.read ⟨1001⟩)
    let database : Subject := ⟨.database, ⟨1001⟩⟩
    let start := seeded 2 [.switch ⟨7⟩]
    let announced := start.failTimes read.endpoint 1 (.transport "connection reset")
    let created := (Cloud.call create announced).2
    let failed := (Cloud.call read created).2
    let cloud := (Cloud.call read failed).2
    (cloud.exchange read).turn? = some (database, .read .available) ∧
      ((Cloud.call read cloud).2.stage? database).map Stage.runStatus = some (some .up) := by
  intro zone create read database start announced created failed cloud
  have run : Run start ([] ++ announced.exchange create ::
      [created.exchange read, failed.exchange read]) cloud :=
    .announce read.endpoint 1 _ (.call create (by decide) (.call read (by decide)
      (.call read (by decide) (.done cloud))))
  have reads : readsSince database [created.exchange read, failed.exchange read] = 1 := by
    decide +kernel
  have creates : (announced.exchange create).turn? = some (database, .creation) := by
    decide +kernel
  obtain ⟨-, shows, runs⟩ :=
    run.reads_on_schedule (by decide) (by decide) creates (by decide +kernel)
  have quiet : read.endpoint.takeFirst cloud.failures = none := by decide +kernel
  have shown := shows read rfl
  have ran := runs read rfl
  rw [quiet, reads] at shown
  rw [quiet, reads] at ran
  exact ⟨shown, ran⟩

end Cloud

end Provisioning
