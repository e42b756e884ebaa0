import Provisioning.Proofs.PollSchedule

/-!
The schedule of the first request of a switch. The requests are answered at once, one answer after
the other, and nothing ends the context; the status reads are arbitrary. Only one answer puts a
request off, the conflict of a resource that is still being created. How often that answer comes
first, and how many spans begin before the budget has passed, tell how often the request is made,
when, and how it ends.
-/

namespace Provisioning

open Program

/-- Once its request is accepted, a switch is over, or it goes on to the confirmation. -/
def PowerHandler.conclusion {σ : Signature} (handler : PowerHandler σ) (operation : PowerOperation)
    (timing : Timing) (noWait : Bool) : Provision σ Unit :=
  if noWait then return else handler.confirm operation timing

/-- A switch makes its request until it is accepted, and then it concludes. -/
theorem PowerHandler.switch_eq_bind {σ : Signature} {handler : PowerHandler σ}
    {operation : PowerOperation} {timing : Timing} {noWait : Bool} :
    handler.switch operation timing noWait = (do
      handler.requestUntilAccepted operation timing.power
      handler.conclusion operation timing noWait) := rfl

/-- A request is made at most once for each span that begins within its budget, and at least
once. -/
theorem RetryPolicy.requestLimit_eq {policy : RetryPolicy} (paced : 0 < policy.initialRetrySpan) :
    policy.requestLimit = max 1 (policy.initialRequestTimeout ⌈/⌉ policy.initialRetrySpan) := by
  rw [requestLimit, if_neg (Nat.ne_of_gt paced)]
  rfl

namespace PowerSwitch

/-- A prompt switch answers its requests at once and in order, and its status reads in any way. -/
def prompt (answers : Nat → Except RemoteError Unit)
    (status : Context → World Nat → Except RemoteError RunStatus × World Nat) :
    Remote PowerSwitch Nat := fun context request world =>
  match request with
  | .operate _ => (answers world.store, { world with store := world.store + 1 })
  | .status => status context world

/-- This answer puts a request off until later. -/
def PutsOff (answer : Except RemoteError Unit) : Prop :=
  ∃ message, answer = .error (.api 409 "still_creating" message)

/-- A request is put off by each answer before the first one that does not do so. -/
noncomputable def putOffs (answers : Nat → Except RemoteError Unit) : ℕ∞ :=
  firstNumber fun number => ¬ PutsOff (answers number)

/-- A failure puts a request off exactly when the resource is still being created. -/
theorem putsOff_iff {error : RemoteError} : PutsOff (.error error) ↔ error.isStillCreating := by
  constructor
  · rintro ⟨message, same⟩
    cases same
    rfl
  · intro creating
    cases error with
    | notFound resource id => nomatch creating
    | transport message => nomatch creating
    | api status code message =>
        obtain ⟨conflict, still⟩ := (Bool.and_eq_true _ _).mp creating
        rw [beq_iff_eq.mp conflict, beq_iff_eq.mp still]
        exact ⟨message, rfl⟩

theorem not_putsOff_ok : ¬ PutsOff (.ok ()) := by
  rintro ⟨_, ⟨⟩⟩

/-- This is what the calls of a journal asked for, each with the time at which it began. -/
def calls (journal : List (Entry PowerSwitch)) : List (Nat × PowerRequest) :=
  journal.map fun entry => (entry.started.now, entry.request)

/-- These are some requests for an operation, one span apart from the start on. -/
def requested (operation : PowerOperation) (start span count : Nat) : List (Nat × PowerRequest) :=
  (List.range count).map fun number => (start + number * span, .operate operation)

/-- One more request begins one span after the last one. -/
theorem requested_succ (operation : PowerOperation) (start span count : Nat) :
    requested operation start span (count + 1) =
      requested operation start span count ++ [(start + count * span, .operate operation)] := by
  rw [requested, List.range_succ, List.map_append]
  rfl

/-- The first request of a switch is settled. Either the first answer that does not put it off has
come and is passed on, or as many answers as the limit have put it off and a last span has passed.
-/
inductive Settled (context : Context) (answers : Nat → Except RemoteError Unit) (action : String)
    (operation : PowerOperation) (start span limit : Nat)
    (world : World (Observed PowerSwitch Nat)) : Except ProvisionError Unit → Prop where
  | answered (count : Nat) (first : putOffs answers = count) (within : count < limit)
      (live : context.Live world.timeline) (time : world.timeline.now = start + count * span)
      (used : world.store.store = count + 1)
      (made : calls world.store.journal = requested operation start span (count + 1)) :
      Settled context answers action operation start span limit world
        ((answers count).mapError (.ofRemote action))
  | spent (putOff : limit ≤ putOffs answers) (time : world.timeline.now = start + limit * span)
      (made : calls world.store.journal = requested operation start span limit) :
      Settled context answers action operation start span limit world (.error (.timeout action))

/-- A switch goes on to its next request when all its requests so far were put off. -/
structure Requesting (context : Context) (answers : Nat → Except RemoteError Unit)
    (operation : PowerOperation) (start span limit rounds : Nat)
    (world : World (Observed PowerSwitch Nat)) : Prop where
  live : context.Live world.timeline
  time : world.timeline.now = start + world.store.store * span
  made : calls world.store.journal = requested operation start span world.store.store
  putOff : world.store.store ≤ putOffs answers
  left : world.store.store + rounds = limit

section Requests

variable {context : Context} {answers : Nat → Except RemoteError Unit}
  {status : Context → World Nat → Except RemoteError RunStatus × World Nat} {name action : String}
  {operation : PowerOperation}

/-- A request of a prompt switch does not go back in time. -/
theorem prompt_movesForward :
    MovesForward context (prompt answers status) ((handler name).request operation) := by
  intro world
  change Yields context _ (Attempt.request (σ := PowerSwitch) (.operate operation)) world _ _
  rw [yields_request]
  dsimp only [prompt]
  cases answers world.store <;> exact Nat.le_refl _

/-- This is the world after one more request, which the observer has written down. -/
def asked (answers : Nat → Except RemoteError Unit) (operation : PowerOperation)
    (world : World (Observed PowerSwitch Nat)) : World (Observed PowerSwitch Nat) :=
  ⟨world.timeline, ⟨world.store.store + 1, world.store.journal ++
    [⟨.operate operation, answers world.store.store, world.timeline, world.timeline⟩]⟩⟩

/-- A request yields what the next answer says, in the world after one more request. -/
theorem yields_asked {world : World (Observed PowerSwitch Nat)}
    {succeeds : Unit → World (Observed PowerSwitch Nat) → Prop}
    {fails : RemoteError → World (Observed PowerSwitch Nat) → Prop} :
    Yields context (prompt answers status).observed ((handler name).request operation) world
        succeeds fails ↔
      match answers world.store.store with
      | .ok _ => succeeds () (asked answers operation world)
      | .error error => fails error (asked answers operation world) := by
  change Yields context _ (Attempt.request (σ := PowerSwitch) (.operate operation)) world _ _ ↔ _
  rw [yields_request, asked]
  dsimp only [Remote.observed, prompt]
  cases answers world.store.store <;> rfl

namespace Requesting

variable {start span limit rounds : Nat} {world : World (Observed PowerSwitch Nat)}
  (requesting : Requesting context answers operation start span limit (rounds + 1) world)

include requesting

/-- The next request is as many spans after the start as there were requests before it. -/
theorem made_asked : calls (asked answers operation world).store.journal =
    requested operation start span (world.store.store + 1) := by
  rw [asked, calls, List.map_append, requested_succ, ← requesting.made, ← requesting.time]
  rfl

/-- An answer that does not put the request off settles it. -/
theorem settled (action : String) (final : ¬ PutsOff (answers world.store.store)) :
    Settled context answers action operation start span limit (asked answers operation world)
      ((answers world.store.store).mapError (.ofRemote action)) := by
  have first := le_antisymm (firstNumber_le final) requesting.putOff
  have left := requesting.left
  exact .answered world.store.store first (by omega) requesting.live requesting.time rfl
    requesting.made_asked

/-- After an answer that puts the request off and a pause, the switch goes on to the next request,
or the limit is reached just when the budget has passed. -/
theorem paused {budget : Nat} (paced : 0 < span) (limited : limit = max 1 (budget ⌈/⌉ span))
    (putOff : PutsOff (answers world.store.store)) :
    Yields context (prompt answers status).observed (Provision.pause span action)
      (asked answers operation world)
      (fun _ rested =>
        if start + budget ≤ rested.timeline.now then
          Settled context answers action operation start span limit rested
            (.error (.timeout action))
        else Requesting context answers operation start span limit rounds rested)
      (fun error rested =>
        Settled context answers action operation start span limit rested (.error error)) := by
  have left : world.store.store + 1 + rounds = limit := by
    rw [← requesting.left]
    omega
  have more := succ_le_firstNumber (not_not_intro putOff) requesting.putOff
  have time : (world.timeline.advanceTo (world.timeline.now + span)).now =
      start + (world.store.store + 1) * span := by
    rw [Timeline.now_advanceTo, requesting.time, Nat.succ_mul]
    omega
  have slept : context.sleep span (asked answers operation world).timeline =
      (none, world.timeline.advanceTo (world.timeline.now + span)) := requesting.live.sleep span
  rw [yields_pause, slept]
  dsimp only
  split
  next late =>
    have spans : budget ⌈/⌉ span ≤ world.store.store + 1 := by
      rw [time] at late
      rw [ceilDiv_le_iff_le_mul paced, Nat.mul_comm]
      omega
    -- There were never more rounds than the limit, so the budget has passed just now.
    obtain rfl : world.store.store + 1 = limit := by omega
    exact .spent more time requesting.made_asked
  next early =>
    exact ⟨requesting.live.advanceTo _, time, requesting.made_asked, more, left⟩

end Requesting

/-- The first request of a switch is settled on schedule. -/
theorem requestUntilAccepted_settled
    (status : Context → World Nat → Except RemoteError RunStatus × World Nat)
    {policy : RetryPolicy} (paced : 0 < policy.initialRetrySpan) {timeline : Timeline}
    (live : context.Live timeline) :
    Yields context (prompt answers status).observed
      ((handler name).requestUntilAccepted operation policy) (World.watched ⟨timeline, 0⟩)
      (fun value after => Settled context answers ((handler name).action operation) operation
        timeline.now policy.initialRetrySpan policy.requestLimit after (.ok value))
      (fun error after => Settled context answers ((handler name).action operation) operation
        timeline.now policy.initialRetrySpan policy.requestLimit after (.error error)) := by
  rw [PowerHandler.requestUntilAccepted, yields_bind, yields_now]
  apply PowerHandler.requestRounds_rounds
    (Requesting context answers operation timeline.now policy.initialRetrySpan policy.requestLimit)
    (fun after => Settled context answers ((handler name).action operation) operation timeline.now
      policy.initialRetrySpan policy.requestLimit after (.ok ()))
  · intro rounds world requesting _
    have settled := requesting.settled ((handler name).action operation)
    rw [yields_asked]
    cases answer : answers world.store.store with
    | ok accepted =>
        rw [answer] at settled
        exact settled not_putsOff_ok
    | error error =>
        rw [answer] at settled
        dsimp only
        split
        next creating =>
          apply requesting.paused paced (RetryPolicy.requestLimit_eq paced)
          rw [answer]
          exact putsOff_iff.mpr creating
        next final => exact settled (mt putsOff_iff.mp final)
  · rintro world ⟨-, time, made, putOff, left⟩
    rw [Nat.add_zero] at left
    rw [left] at time made putOff
    exact .spent putOff time made
  · intro _ world requesting interruption failed
    cases requesting.live.check.symm.trans failed
  · refine ⟨live, ?_, rfl, zero_le, Nat.zero_add _⟩
    exact (Nat.zero_mul _).symm ▸ rfl

end Requests

/-- The first request of a switch is made on schedule. Take any positive span, any budget and any
answers that are given at once, and a live context; status reads are arbitrary. The limit is the
number of spans that begin within the budget, or one if there is none, and the rounds of the loop
are no other limit. The first answer that does not put the request off decides it if its number is
below the limit: an error ends the switch there, and after an acceptance the switch is over or goes
on to its confirmation. Otherwise the switch ends with a timeout when as many spans as the limit
have passed, and it has made only that many requests. -/
theorem switch_requests_on_schedule (name : String) (operation : PowerOperation) (timing : Timing)
    (noWait : Bool) (answers : Nat → Except RemoteError Unit)
    (status : Context → World Nat → Except RemoteError RunStatus × World Nat) (context : Context)
    (timeline : Timeline) (paced : 0 < timing.power.initialRetrySpan)
    (live : context.Live timeline) :
    let remote := prompt answers status
    let world : World Nat := ⟨timeline, 0⟩
    let action := (handler name).action operation
    let program := (handler name).switch operation timing noWait
    let run := program.run.run context remote world
    let made := calls (program.run.journal context remote world)
    let span := timing.power.initialRetrySpan
    let limit := max 1 (timing.power.initialRequestTimeout ⌈/⌉ span)
    (∀ requests, limit ≤ requests →
      ((handler name).switchWithin operation timing noWait requests timing.wait.pollLimit).run.run
        context remote world = run) ∧
    (∀ count : Nat, putOffs answers = count → count < limit →
      (∀ error, answers count = .error error → run.1 = .error (.ofRemote action error) ∧
        run.2.timeline.now = timeline.now + count * span ∧
        made = requested operation timeline.now span (count + 1)) ∧
      (answers count = .ok () → ∃ accepted : World Nat, context.Live accepted.timeline ∧
        accepted.timeline.now = timeline.now + count * span ∧ accepted.store = count + 1 ∧
        let rest := (handler name).conclusion operation timing noWait
        run = rest.run.run context remote accepted ∧
        made = requested operation timeline.now span (count + 1) ++
          calls (rest.run.journal context remote accepted))) ∧
    (limit ≤ putOffs answers → run.1 = .error (.timeout action) ∧
      run.2.timeline.now = timeline.now + limit * span ∧
      made = requested operation timeline.now span limit) := by
  intro remote world action program run made span limit
  have same : timing.power.requestLimit = limit := RetryPolicy.requestLimit_eq paced
  refine ⟨fun requests many => ?_, ?_⟩
  · exact PowerHandler.switchWithin_requests prompt_movesForward paced noWait (same ▸ many) world
  · have settled := Yields.journal (fun outcome (after : World Nat) journal =>
      Settled context answers action operation timeline.now span timing.power.requestLimit
        ⟨after.timeline, after.store, journal⟩ outcome)
      (requestUntilAccepted_settled status paced live)
    rw [same] at settled
    generalize phase : ((handler name).requestUntilAccepted operation timing.power).run.run context
      remote world = result at settled
    obtain ⟨outcome, after⟩ := result
    let rest : Unit → Provision PowerSwitch Unit :=
      fun _ => (handler name).conclusion operation timing noWait
    have parts : (handler name).requestUntilAccepted operation timing.power >>= rest = program :=
      PowerHandler.switch_eq_bind.symm
    cases settled with
    | answered count first within running time used journal =>
        refine ⟨fun number same _ => ?_, fun beyond => ?_⟩
        · obtain rfl : count = number := Nat.cast_inj.mp (first.symm.trans same)
          refine ⟨fun error answer => ?_, fun answer => ?_⟩
          · rw [answer] at phase
            obtain ⟨ended, written⟩ := run_bind_of_error rest phase
            rw [parts] at ended written
            have ran : run = (.error (.ofRemote action error), after) := ended
            rw [ran]
            exact ⟨rfl, time, (congrArg calls written).trans journal⟩
          · rw [answer] at phase
            obtain ⟨goesOn, written⟩ := run_bind_of_ok rest phase
            rw [parts] at goesOn written
            refine ⟨after, running, time, used, goesOn, ?_⟩
            rw [← journal, calls, calls, ← List.map_append]
            exact congrArg calls written
        · rw [first, Nat.cast_le] at beyond
          exact absurd within (Nat.not_lt.mpr beyond)
    | spent putOff time journal =>
        obtain ⟨ended, written⟩ := run_bind_of_error rest phase
        rw [parts] at ended written
        have ran : run = (.error (.timeout action), after) := ended
        refine ⟨fun count first within => ?_, fun _ => ?_⟩
        · rw [first, Nat.cast_le] at putOff
          exact absurd within (Nat.not_lt.mpr putOff)
        · rw [ran]
          exact ⟨rfl, time, (congrArg calls written).trans journal⟩

/-- Two spans fill a budget of 4, and then the switch has timed out. A budget of 5 has a third
request, and a conflict that does not put it off ends the switch. -/
theorem tied_requests_on_schedule :
    let timing : Nat → Timing := fun budget => ⟨⟨1, 1⟩, ⟨2, 1, 1, budget⟩⟩
    let busy : RemoteError := .conflict "busy" "resource is busy"
    let answers : Nat → Except RemoteError Unit := fun number =>
      if number < 2 then .error .stillCreating else .error busy
    let remote := prompt answers fun _ world => (.ok .up, world)
    let context : Context := ⟨⟨[0]⟩, none⟩
    let timeline : Timeline := ⟨100, 1, [], none⟩
    let program := fun budget => (handler "server 1").switch .boot (timing budget) false
    let run := fun budget => (program budget).run.run context remote ⟨timeline, 0⟩
    let made := fun budget => calls ((program budget).run.journal context remote ⟨timeline, 0⟩)
    (∀ budget, 0 < (timing budget).power.initialRetrySpan) ∧ context.Live timeline ∧
    ((run 4).1 = .error (.timeout "boot server 1") ∧ (run 4).2.timeline.now = 104 ∧
      made 4 = [(100, .operate .boot), (102, .operate .boot)]) ∧
    ((run 5).1 = .error (.remote "boot server 1" busy) ∧ (run 5).2.timeline.now = 104 ∧
      made 5 = [(100, .operate .boot), (102, .operate .boot), (104, .operate .boot)]) := by
  intro timing busy answers remote context timeline program run made
  have paced : ∀ budget, 0 < (timing budget).power.initialRetrySpan := fun _ => Nat.two_pos
  have live : context.Live timeline := ⟨rfl, rfl, nofun⟩
  have final : ¬ PutsOff (.error busy) := mt putsOff_iff.mp (by decide)
  have first : putOffs answers = (2 : Nat) := by
    refine firstNumber_eq final fun sooner decided => ?_
    by_contra early
    have refused : answers sooner = .error .stillCreating := if_pos (Nat.not_le.mp early)
    rw [refused, putsOff_iff] at decided
    exact decided rfl
  have filled : max 1 (4 ⌈/⌉ 2) = 2 := by decide
  have longer : 2 < max 1 (5 ⌈/⌉ 2) := by decide
  have onSchedule := fun budget =>
    switch_requests_on_schedule "server 1" .boot (timing budget) false answers
      (fun _ world => (.ok .up, world)) context timeline (paced budget) live
  refine ⟨paced, live, ?_, ?_⟩
  · have spent := (onSchedule 4).2.2
    rw [filled] at spent
    exact spent first.ge
  · exact ((onSchedule 5).2.1 2 first longer).1 busy rfl

end PowerSwitch

end Provisioning
