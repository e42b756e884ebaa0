import Mathlib.Algebra.Order.Floor.Div
import Provisioning.Proofs.Reissue
import Provisioning.Timing.Config

/-!
Power requests and their budgets. The calls of a switch take no time here, whatever they answer. The
two loops then end because their budgets are spent, and not because of a limit on their rounds. The
main statement counts the calls of a switch and bounds its time.
-/

namespace Provisioning

open Program

/-- The timing of a checked configuration has positive spans only. -/
structure Timing.Positive (timing : Timing) : Prop where
  poll : 0 < timing.wait.pollInterval
  timeout : 0 < timing.wait.timeout
  initial : 0 < timing.power.initialRetrySpan
  request : 0 < timing.power.initialRequestTimeout

/-- A checked configuration has a timing with positive spans only. -/
theorem TimingConfig.positive_of_timing {config : TimingConfig} {timing : Timing}
    (accepted : config.timing = .ok timing) : timing.Positive := by
  obtain ⟨_, valid, same⟩ := Check.of_bind accepted
  cases same
  have nonzero : ∀ setting ∈ settings, 0 < (setting.get config).toNat := by
    intro setting member
    have passed := Check.of_forM valid setting member
    split at passed
    next => nomatch passed
    next unequal => exact Nat.pos_of_ne_zero fun zero => unequal (UInt64.toNat_inj.mp zero)
  exact ⟨nonzero _ (.head _), nonzero _ (.tail _ (.head _)),
    nonzero _ (.tail _ (.tail _ (.head _))),
    nonzero _ (.tail _ (.tail _ (.tail _ (.tail _ (.tail _ (.head _))))))⟩

variable {σ : Signature} {Store : Type} {context : Context}

/-- The time never goes back during a call of a forward remote. -/
def Remote.Forward (context : Context) (remote : Remote σ Store) : Prop :=
  ∀ request world, world.timeline.now ≤ (remote context request world).2.timeline.now

/-- A forward remote is still forward when it is observed. -/
theorem Remote.Forward.observed {remote : Remote σ Store} (forward : remote.Forward context) :
    remote.observed.Forward context :=
  fun request world => forward request ⟨world.timeline, world.store.store⟩

/-- The calls of an instant remote take no time. -/
def Remote.Instant (context : Context) (remote : Remote σ Store) : Prop :=
  ∀ request world, (remote context request world).2.timeline.now = world.timeline.now

/-- The calls of an instant remote take no time when they are observed either. -/
theorem Remote.Instant.observed {remote : Remote σ Store} (instant : remote.Instant context) :
    remote.observed.Instant context :=
  fun request world => instant request ⟨world.timeline, world.store.store⟩

namespace Program

variable {ε α β : Type} {remote : Remote σ Store}

/-- A program moves forward when it never ends before the time at which it begins. -/
def MovesForward (context : Context) (remote : Remote σ Store)
    (program : ExceptT ε (Program σ) α) : Prop :=
  ∀ world : World Store, Yields context remote program world
    (fun _ after => world.timeline.now ≤ after.timeline.now)
    (fun _ after => world.timeline.now ≤ after.timeline.now)

/-- A program takes no time when the time is the same at its end, wherever it begins. -/
def TakesNoTime (context : Context) (remote : Remote σ Store) (program : ExceptT ε (Program σ) α) :
    Prop :=
  ∀ world : World Store, Yields context remote program world
    (fun _ after => after.timeline.now = world.timeline.now)
    (fun _ after => after.timeline.now = world.timeline.now)

/-- A program that takes no time moves forward. -/
theorem TakesNoTime.movesForward {program : ExceptT ε (Program σ) α}
    (instant : TakesNoTime context remote program) : MovesForward context remote program :=
  fun world => (instant world).mono (fun _ _ same => same.ge) (fun _ _ same => same.ge)

/-- A call of a forward remote moves forward. -/
theorem MovesForward.call (forward : remote.Forward context) (request : σ.Request) :
    MovesForward context remote (Attempt.request request) := by
  intro world
  have moved := forward request world
  rw [yields_request]
  generalize remote context request world = result at moved ⊢
  obtain ⟨answer, after⟩ := result
  cases answer <;> exact moved

/-- A call of an instant remote takes no time. -/
theorem TakesNoTime.call (instant : remote.Instant context) (request : σ.Request) :
    TakesNoTime context remote (Attempt.request request) := by
  intro world
  have unmoved := instant request world
  rw [yields_request]
  generalize remote context request world = result at unmoved ⊢
  obtain ⟨answer, after⟩ := result
  cases answer <;> exact unmoved

/-- A pause takes its span, or it is interrupted. -/
theorem yields_paused {span : Nat} {action : String} {world : World Store} :
    Yields context remote (Provision.pause span action) world
      (fun _ after => after.store = world.store ∧
        after.timeline.now = world.timeline.now + span)
      (fun _ after => after.store = world.store ∧
        after.timeline.now ≤ world.timeline.now + span) := by
  have bound := context.sleep_now_le span world.timeline
  rw [yields_pause]
  split
  next slept => exact ⟨rfl, (Context.of_sleep slept).2⟩
  next slept =>
    rw [slept] at bound
    exact ⟨rfl, bound⟩

end Program

/-- A wait at a positive interval has a round for each interval of its budget and one more. -/
theorem WaitOptions.pollLimit_eq (options : WaitOptions) (positive : 0 < options.pollInterval) :
    options.pollLimit = options.timeout ⌈/⌉ options.pollInterval + 1 := by
  rw [pollLimit, if_neg (Nat.ne_of_gt positive)]
  rfl

/-- The rounds of a wait at a positive interval cover its budget and one interval more. -/
theorem WaitOptions.pollLimit_covers (options : WaitOptions) (positive : 0 < options.pollInterval) :
    options.timeout + options.pollInterval ≤ options.pollLimit * options.pollInterval := by
  rw [options.pollLimit_eq positive, Nat.succ_mul, Nat.mul_comm]
  exact Nat.add_le_add_right (le_smul_ceilDiv positive) _

/-- The rounds of a repeated request cover its budget. -/
theorem RetryPolicy.requestLimit_covers (policy : RetryPolicy)
    (positive : 0 < policy.initialRetrySpan) :
    policy.initialRequestTimeout ≤ policy.requestLimit * policy.initialRetrySpan := by
  rw [requestLimit, if_neg (Nat.ne_of_gt positive), Nat.mul_comm]
  calc policy.initialRequestTimeout
      ≤ policy.initialRetrySpan *
          intervalsWithin policy.initialRetrySpan policy.initialRequestTimeout :=
        le_smul_ceilDiv positive
    _ ≤ policy.initialRetrySpan * max 1 _ := Nat.mul_le_mul_left _ (Nat.le_max_right _ _)

section Limits

variable {remote : Remote σ Store} {handler : PowerHandler σ} {operation : PowerOperation}

/-- The limit on requests does not matter while it covers the budget that is left. -/
theorem PowerHandler.requestRounds_run_eq
    (forward : MovesForward context remote (handler.request operation))
    {policy : RetryPolicy} {start rounds more : Nat} (some : 0 < rounds) (covered : rounds ≤ more)
    {world : World Store}
    (enough : start + policy.initialRequestTimeout ≤
      world.timeline.now + rounds * policy.initialRetrySpan) :
    (handler.requestRounds operation policy start more).run.run context remote world =
      (handler.requestRounds operation policy start rounds).run.run context remote world := by
  induction rounds generalizing more world with
  | zero => omega
  | succ rounds inductionHypothesis =>
      obtain ⟨more, rfl⟩ : ∃ fewer, more = fewer + 1 := ⟨more - 1, by omega⟩
      rw [requestRounds, requestRounds]
      apply run_bind_congr rfl
      rw [yields_check]
      split
      next =>
        apply run_bind_congr rfl
        rw [yields_outcome]
        apply (forward world).mono
        · exact fun _ _ _ => rfl
        · intro error after moved
          dsimp only
          split
          next =>
            apply run_bind_congr rfl
            apply yields_paused.mono
            · rintro _ rested ⟨-, slept⟩
              apply run_bind_congr rfl
              rw [yields_now]
              split
              next => rfl
              next early =>
                -- Budget is left after the pause, so the rounds that cover it are not used up.
                rw [Nat.succ_mul] at enough
                have covers : start + policy.initialRequestTimeout ≤
                    rested.timeline.now + rounds * policy.initialRetrySpan := by omega
                have more : 0 < rounds := by
                  by_contra none
                  rw [Nat.eq_zero_of_not_pos none, Nat.zero_mul] at covers
                  exact early covers
                exact inductionHypothesis more (by omega) covers
            · exact fun _ _ _ => trivial
          next => rfl
      next => trivial

/-- The limit on polls does not matter while it covers the budget that is left. -/
theorem Wait.pollUntil_run_eq {ρ μ : Type} {action : String} {interval deadline : Nat}
    {probe : μ → Attempt σ (ρ × μ)} {accepts : ρ → Bool}
    (forward : ∀ memory, MovesForward context remote (probe memory))
    {rounds more : Nat} (covered : rounds ≤ more) {memory : μ} {world : World Store}
    (early : world.timeline.now < deadline + interval)
    (enough : deadline + interval ≤ world.timeline.now + rounds * interval) :
    (pollUntil action interval deadline probe accepts more memory).run.run context remote world =
      (pollUntil action interval deadline probe accepts rounds memory).run.run context remote
        world := by
  induction rounds generalizing more memory world with
  | zero => omega
  | succ rounds inductionHypothesis =>
      obtain ⟨more, rfl⟩ : ∃ fewer, more = fewer + 1 := ⟨more - 1, by omega⟩
      rw [pollUntil, pollUntil]
      apply run_bind_congr rfl
      rw [yields_check]
      split
      next =>
        apply run_bind_congr rfl
        rw [yields_during]
        apply (forward memory world).mono
        · rintro ⟨state, memory⟩ after moved
          dsimp only
          split
          next => rfl
          next =>
            apply run_bind_congr rfl
            rw [yields_now]
            split
            next => rfl
            next missed =>
              apply run_bind_congr rfl
              apply yields_paused.mono
              · rintro _ rested ⟨-, slept⟩
                rw [Nat.succ_mul] at enough
                exact inductionHypothesis (by omega) (by omega) (by omega)
              · exact fun _ _ _ => trivial
        · exact fun _ _ _ => trivial
      next => trivial

/-- This switch has limits of its own for the rounds of its two loops. -/
def PowerHandler.switchWithin (handler : PowerHandler σ) (operation : PowerOperation)
    (timing : Timing) (noWait : Bool) (requests polls : Nat) : Provision σ Unit := do
  handler.requestRounds operation timing.power (← Provision.now) requests
  if noWait then return
  let accepted ← Provision.now
  let start ← Provision.now
  let _ ← Wait.pollUntil (handler.action operation) timing.wait.pollInterval
    (start + timing.wait.timeout)
    (handler.confirmation operation (operation.reissueSpan timing.power))
    (· == operation.target) polls accepted

/-- A switch has the limits for its rounds from its timing. -/
theorem PowerHandler.switch_eq (timing : Timing) (noWait : Bool) :
    handler.switch operation timing noWait =
      handler.switchWithin operation timing noWait timing.power.requestLimit
        timing.wait.pollLimit := rfl

/-- A poll of a switch takes no time when its calls take none. -/
theorem PowerHandler.confirmation_instant {span lastRequest : Nat}
    (request : TakesNoTime context remote (handler.request operation))
    (status : TakesNoTime context remote handler.status) :
    TakesNoTime context remote (handler.confirmation operation span lastRequest) := by
  intro world
  rw [confirmation]
  apply (status world).bind
  intro seen looked unmoved
  rw [yields_bind, yields_clock, yields_ite]
  split
  next =>
    simp only [yields_bind, yields_clock, yields_pure]
    rw [yields_reissue]
    apply (request looked).mono
    · exact fun _ _ still => still.trans unmoved
    · intro error after still
      split <;> exact still.trans unmoved
  next => exact unmoved

/-- The limit on the first requests of a switch does not matter when a request moves forward. -/
theorem PowerHandler.switchWithin_requests
    (forward : MovesForward context remote (handler.request operation)) {timing : Timing}
    (paced : 0 < timing.power.initialRetrySpan) (noWait : Bool) {requests polls : Nat}
    (many : timing.power.requestLimit ≤ requests) (world : World Store) :
    (handler.switchWithin operation timing noWait requests polls).run.run context remote world =
      (handler.switchWithin operation timing noWait timing.power.requestLimit polls).run.run context
        remote world := by
  rw [switchWithin, switchWithin]
  apply run_bind_congr rfl
  rw [yields_now]
  have covered := timing.power.requestLimit_covers paced
  apply run_bind_congr (requestRounds_run_eq forward timing.power.requestLimit_pos many
    (Nat.add_le_add_left covered _))
  exact Yields.of_forall (fun _ _ => rfl) fun _ _ => trivial

/-- The limits of a switch do not matter while they cover its budgets. -/
theorem PowerHandler.switchWithin_run_eq
    (request : TakesNoTime context remote (handler.request operation))
    (status : TakesNoTime context remote handler.status)
    {timing : Timing} (positive : timing.Positive) (noWait : Bool) {requests polls : Nat}
    (manyRequests : timing.power.requestLimit ≤ requests)
    (manyPolls : timing.wait.pollLimit ≤ polls) (world : World Store) :
    (handler.switchWithin operation timing noWait requests polls).run.run context remote world =
      (handler.switch operation timing noWait).run.run context remote world := by
  rw [switchWithin_requests request.movesForward positive.initial noWait manyRequests, switch_eq,
    switchWithin, switchWithin]
  apply run_bind_congr rfl
  rw [yields_now]
  apply run_bind_congr rfl
  apply Yields.of_forall _ fun _ _ => trivial
  intro _ accepted
  split
  next => rfl
  next =>
    apply run_bind_congr rfl
    rw [yields_now]
    apply run_bind_congr rfl
    rw [yields_now]
    have paced := positive.poll
    have covered := timing.wait.pollLimit_covers paced
    apply run_bind_congr (Wait.pollUntil_run_eq
      (fun _ => (confirmation_instant request status).movesForward) manyPolls _ _)
    · exact Yields.of_forall (fun _ _ => rfl) fun _ _ => trivial
    · omega
    · omega

end Limits

namespace PowerSwitch

/-- A poll is a status read with at most one request right after it. -/
structure Poll (operation : PowerOperation) (look : Entry PowerSwitch)
    (reissues : List (Entry PowerSwitch)) : Prop where
  looks : asked? look = none
  few : reissues.length ≤ 1
  repeats : ∀ request ∈ reissues, asked? request = some operation

/-- A journal has some initial requests and then some polls. -/
inductive Phases (operation : PowerOperation) : Nat → Nat → List (Entry PowerSwitch) → Prop where
  | empty : Phases operation 0 0 []
  | request {requests : Nat} {journal : List (Entry PowerSwitch)} {request : Entry PowerSwitch}
      (before : Phases operation requests 0 journal) (asks : asked? request = some operation) :
      Phases operation (requests + 1) 0 (journal ++ [request])
  | poll {requests polls : Nat} {journal reissues : List (Entry PowerSwitch)}
      {look : Entry PowerSwitch} (before : Phases operation requests polls journal)
      (poll : Poll operation look reissues) :
      Phases operation requests (polls + 1) (journal ++ look :: reissues)

/-- A journal has no more initial requests than the budget for them has spans. -/
def Tallied (operation : PowerOperation) (policy : RetryPolicy) (polls : Nat)
    (journal : List (Entry PowerSwitch)) : Prop :=
  ∃ requests ≤ policy.initialRequestTimeout ⌈/⌉ policy.initialRetrySpan,
    Phases operation requests polls journal

/-- Whole spans that end before a budget does are fewer than it has. -/
theorem lt_ceilDiv {count span budget : Nat} (positive : 0 < span) (early : count * span < budget) :
    count < budget ⌈/⌉ span := by
  rw [← Nat.not_le, ceilDiv_le_iff_le_mul positive, Nat.not_le, Nat.mul_comm]
  exact early

/-- The last span may end after the budget does. -/
theorem le_ceilDiv {count span budget : Nat} (positive : 0 < span)
    (early : count * span < budget + span) : count ≤ budget ⌈/⌉ span := by
  cases count with
  | zero => exact Nat.zero_le _
  | succ count =>
      rw [Nat.succ_mul] at early
      exact lt_ceilDiv positive (Nat.lt_of_add_lt_add_right early)

section Run

variable {Store : Type} {context : Context} {remote : Remote PowerSwitch Store} {name : String}
  {operation : PowerOperation} {world : World (Observed PowerSwitch Store)}

/-- The first request is repeated no more often than its budget has spans. -/
theorem requests_tallied (instant : remote.Instant context) {policy : RetryPolicy}
    (paced : 0 < policy.initialRetrySpan) (budgeted : 0 < policy.initialRequestTimeout)
    (empty : world.store.journal = []) :
    Yields context remote.observed ((handler name).requestUntilAccepted operation policy) world
      (fun _ after => Tallied operation policy 0 after.store.journal ∧
        after.timeline.now < world.timeline.now + policy.initialRequestTimeout)
      (fun _ after => Tallied operation policy 0 after.store.journal ∧ after.timeline.now <
        world.timeline.now + policy.initialRequestTimeout + policy.initialRetrySpan) := by
  rw [PowerHandler.requestUntilAccepted, yields_bind, yields_now]
  generalize began : world.timeline.now = start
  apply PowerHandler.requestRounds_byRound
    (fun _ (world : World (Observed PowerSwitch Store)) => ∃ requests,
      Phases operation requests 0 world.store.journal ∧
      world.timeline.now = start + requests * policy.initialRetrySpan ∧
      requests * policy.initialRetrySpan < policy.initialRequestTimeout)
    (fun after => Tallied operation policy 0 after.store.journal ∧
      after.timeline.now < start + policy.initialRequestTimeout) _ _ policy.requestLimit
  · rw [empty]
    exact ⟨0, .empty, by omega, by omega⟩
  · rintro _ world ⟨requests, phases, time, early⟩ -
    have few := lt_ceilDiv paced early
    have tallied : ∀ answer (after : World (Observed PowerSwitch Store)),
        after.store.journal =
          world.store.journal ++ [⟨.operate operation, answer, world.timeline, after.timeline⟩] →
        Phases operation (requests + 1) 0 after.store.journal :=
      fun _ _ written => written ▸ phases.request rfl
    apply ((TakesNoTime.call instant.observed _ world).and
      (Yields.answered (fun value => tallied (.ok value)) fun error => tallied (.error error))).mono
    · rintro _ after ⟨unmoved, asked⟩
      exact ⟨⟨requests + 1, few, asked⟩, by omega⟩
    · rintro error after ⟨unmoved, asked⟩
      split
      next =>
        apply yields_paused.mono
        · rintro _ rested ⟨same, slept⟩
          rw [← same] at asked
          split
          next late => exact ⟨⟨requests + 1, few, asked⟩, by omega⟩
          next more =>
            have spans := Nat.add_mul requests 1 policy.initialRetrySpan
            exact ⟨requests + 1, asked, by omega, by omega⟩
        · rintro _ rested ⟨same, slept⟩
          rw [← same] at asked
          exact ⟨⟨requests + 1, few, asked⟩, by omega⟩
      next => exact ⟨⟨requests + 1, few, asked⟩, by omega⟩
  · rintro _ world ⟨requests, phases, time, early⟩ -
    exact ⟨⟨requests, Nat.le_of_lt (lt_ceilDiv paced early), phases⟩, by omega⟩

/-- Each look of the confirmation is one more poll. -/
theorem confirmation_polls {policy : RetryPolicy} {polls span lastRequest : Nat}
    (tallied : Tallied operation policy polls world.store.journal) :
    Yields context remote.observed ((handler name).confirmation operation span lastRequest) world
      (fun _ after => Tallied operation policy (polls + 1) after.store.journal)
      (fun _ after => Tallied operation policy (polls + 1) after.store.journal) := by
  obtain ⟨requests, few, phases⟩ := tallied
  rw [PowerHandler.confirmation, yields_bind]
  apply Yields.answered
  · intro status seen looked
    rw [yields_bind, yields_clock, yields_ite]
    split
    next =>
      simp only [yields_bind, yields_clock, yields_pure]
      rw [PowerHandler.yields_reissue]
      have polled : ∀ answer (after : World (Observed PowerSwitch Store)),
          after.store.journal =
            seen.store.journal ++ [⟨.operate operation, answer, seen.timeline, after.timeline⟩] →
          Tallied operation policy (polls + 1) after.store.journal := by
        intro answer after written
        rw [written, looked, List.append_assoc, List.singleton_append]
        exact ⟨requests, few, phases.poll ⟨rfl, Nat.le_refl 1, List.forall_mem_singleton.mpr rfl⟩⟩
      apply Yields.answered
      · exact fun value after => polled (.ok value) after
      · intro error after written
        split <;> exact polled (.error error) after written
    next =>
      rw [yields_pure, looked]
      exact ⟨requests, few, phases.poll ⟨rfl, Nat.zero_le 1, List.forall_mem_nil _⟩⟩
  · intro error after looked
    rw [looked]
    exact ⟨requests, few, phases.poll ⟨rfl, Nat.zero_le 1, List.forall_mem_nil _⟩⟩

/-- The confirmation has no more polls than its budget has intervals, and one. -/
theorem confirm_tallied (instant : remote.Instant context) {timing : Timing}
    (paced : 0 < timing.wait.pollInterval)
    (tallied : Tallied operation timing.power 0 world.store.journal) :
    Yields context remote.observed ((handler name).confirm operation timing) world
      (fun _ after => (∃ polls ≤ timing.wait.timeout ⌈/⌉ timing.wait.pollInterval + 1,
          Tallied operation timing.power polls after.store.journal) ∧
        after.timeline.now < world.timeline.now + (timing.wait.timeout + timing.wait.pollInterval))
      (fun _ after => (∃ polls ≤ timing.wait.timeout ⌈/⌉ timing.wait.pollInterval + 1,
          Tallied operation timing.power polls after.store.journal) ∧
        after.timeline.now <
          world.timeline.now + (timing.wait.timeout + timing.wait.pollInterval)) := by
  rw [PowerHandler.confirm, yields_bind, yields_now, yields_bind, Wait.forStateWith, yields_bind,
    yields_now]
  generalize accepted : world.timeline.now = start
  apply Wait.pollUntil_byRound
    (fun _ _ (world : World (Observed PowerSwitch Store)) => ∃ polls,
      Tallied operation timing.power polls world.store.journal ∧
      world.timeline.now = start + polls * timing.wait.pollInterval ∧
      polls * timing.wait.pollInterval < timing.wait.timeout + timing.wait.pollInterval)
    (fun _ after => (∃ polls ≤ timing.wait.timeout ⌈/⌉ timing.wait.pollInterval + 1,
        Tallied operation timing.power polls after.store.journal) ∧
      after.timeline.now < start + (timing.wait.timeout + timing.wait.pollInterval)) _ _
    timing.wait.pollLimit
  · exact ⟨0, tallied, by omega, by omega⟩
  · rintro _ lastRequest world ⟨polls, tallied, time, early⟩ -
    have few := Nat.succ_le_succ (le_ceilDiv paced early)
    have unmoving : TakesNoTime context remote.observed ((handler name).confirmation operation
        (operation.reissueSpan timing.power) lastRequest) :=
      PowerHandler.confirmation_instant (.call instant.observed _) (.call instant.observed _)
    apply ((unmoving world).and (confirmation_polls tallied)).mono
    · rintro seen after ⟨unmoved, polled⟩
      split
      next => exact ⟨⟨polls + 1, few, polled⟩, by omega⟩
      next =>
        split
        next late => exact ⟨⟨polls + 1, few, polled⟩, by omega⟩
        next more =>
          apply yields_paused.mono
          · rintro _ rested ⟨same, slept⟩
            have intervals := Nat.add_mul polls 1 timing.wait.pollInterval
            rw [← same] at polled
            exact ⟨polls + 1, polled, by omega, by omega⟩
          · rintro _ rested ⟨same, slept⟩
            rw [← same] at polled
            exact ⟨⟨polls + 1, few, polled⟩, by omega⟩
    · rintro _ after ⟨unmoved, polled⟩
      exact ⟨⟨polls + 1, few, polled⟩, by omega⟩
  · rintro _ _ world ⟨polls, tallied, time, early⟩ -
    exact ⟨⟨polls, Nat.le_succ_of_le (le_ceilDiv paced early), tallied⟩, by omega⟩

/-- A switch is bounded when its calls and its time are within what its timing allows. -/
def Bounded (operation : PowerOperation) (timing : Timing) (start : Nat)
    (world : World (Observed PowerSwitch Store)) : Prop :=
  (∃ polls ≤ timing.wait.timeout ⌈/⌉ timing.wait.pollInterval + 1,
    Tallied operation timing.power polls world.store.journal) ∧
  world.timeline.now < start + timing.power.initialRequestTimeout +
    max timing.power.initialRetrySpan (timing.wait.timeout + timing.wait.pollInterval)

/-- A switch with positive spans against an instant remote is bounded, whether it succeeds or fails.
-/
theorem switch_bounded (instant : remote.Instant context) {timing : Timing}
    (positive : timing.Positive) (noWait : Bool) (empty : world.store.journal = []) :
    Yields context remote.observed ((handler name).switch operation timing noWait) world
      (fun _ after => Bounded operation timing world.timeline.now after)
      (fun _ after => Bounded operation timing world.timeline.now after) := by
  have later := Nat.le_max_right timing.power.initialRetrySpan
    (timing.wait.timeout + timing.wait.pollInterval)
  have sooner := Nat.le_max_left timing.power.initialRetrySpan
    (timing.wait.timeout + timing.wait.pollInterval)
  have paced := positive.poll
  rw [PowerHandler.switch, yields_bind]
  apply (requests_tallied instant positive.initial positive.request empty).mono
  · rintro _ accepted ⟨tallied, early⟩
    split
    next => exact ⟨⟨0, Nat.zero_le _, tallied⟩, by omega⟩
    next =>
      apply (confirm_tallied instant paced tallied).mono
      · rintro _ after ⟨polled, inTime⟩
        exact ⟨polled, by omega⟩
      · rintro _ after ⟨polled, inTime⟩
        exact ⟨polled, by omega⟩
  · rintro _ after ⟨tallied, inTime⟩
    exact ⟨⟨0, Nat.zero_le _, tallied⟩, by omega⟩

end Run

/-- A switch whose calls take no time keeps its budgets. Take any checked timing and any switch,
whatever it answers and whenever the context ends. Both loops end before any limit on their rounds
matters. There are no more initial requests than their budget has spans, and no more status reads
than the wait has intervals and one, each with at most one re-issue right after it. The run ends
before the budget for the request and the longer of a span and a wait with one more interval. -/
theorem switch_keeps_budgets {Store : Type} {config : TimingConfig} {timing : Timing}
    (checked : config.timing = .ok timing) {context : Context} {remote : Remote PowerSwitch Store}
    (instant : remote.Instant context) (name : String) (operation : PowerOperation) (noWait : Bool)
    (world : World Store) :
    let program := (handler name).switch operation timing noWait
    (∀ requests polls, timing.power.requestLimit ≤ requests → timing.wait.pollLimit ≤ polls →
      ((handler name).switchWithin operation timing noWait requests polls).run.run context remote
        world = program.run.run context remote world) ∧
    (∃ requests ≤ timing.power.initialRequestTimeout ⌈/⌉ timing.power.initialRetrySpan,
      ∃ polls ≤ timing.wait.timeout ⌈/⌉ timing.wait.pollInterval + 1,
        Phases operation requests polls (program.run.journal context remote world)) ∧
    (program.run.run context remote world).2.timeline.now <
      world.timeline.now + timing.power.initialRequestTimeout +
        max timing.power.initialRetrySpan (timing.wait.timeout + timing.wait.pollInterval) := by
  intro program
  have positive := TimingConfig.positive_of_timing checked
  refine ⟨fun requests polls manyRequests manyPolls => ?_, ?_⟩
  · have request : TakesNoTime context remote ((handler name).request operation) :=
      .call instant _
    have status : TakesNoTime context remote (handler name).status := .call instant _
    exact PowerHandler.switchWithin_run_eq request status positive noWait manyRequests manyPolls
      world
  · obtain ⟨⟨polls, fewPolls, requests, fewRequests, phases⟩, inTime⟩ :=
      Yields.journal (fun _ (after : World Store) journal =>
        Bounded operation timing world.timeline.now ⟨after.timeline, after.store, journal⟩)
        (switch_bounded instant positive noWait rfl)
    exact ⟨⟨requests, fewRequests, polls, fewPolls, phases⟩, inTime⟩

/-- An idle switch accepts every request and stays down. -/
def idle : Remote PowerSwitch Unit := fun _ request world =>
  match request with
  | .operate _ => (.ok (), world)
  | .status => (.ok .down, world)

/-- A boot of an idle switch with the default timing ends after at most 2 requests and 241 polls. -/
theorem idle_boot_keeps_budgets :
    let context : Context := ⟨⟨[0]⟩, none⟩
    let world : World Unit := ⟨⟨0, 1, [], none⟩, ()⟩
    (default : TimingConfig).timing = .ok default ∧ idle.Instant context ∧
    (∀ requests polls, 2 ≤ requests → 241 ≤ polls →
      ((handler "server 1").switchWithin .boot default false requests polls).run.run context idle
        world = ((handler "server 1").switch .boot default false).run.run context idle world) ∧
    (∃ requests ≤ 2, ∃ polls ≤ 240 + 1, Phases .boot requests polls
      (((handler "server 1").switch .boot default false).run.journal context idle world)) ∧
    (((handler "server 1").switch .boot default false).run.run context idle world).2.timeline.now <
      1235000 := by
  intro context world
  have checked : (default : TimingConfig).timing = .ok default := rfl
  have instant : idle.Instant context := fun request _ => by cases request <;> rfl
  have kept := switch_keeps_budgets checked instant "server 1" .boot false world
  have requestLimit : (default : Timing).power.requestLimit = 2 := by decide
  have pollLimit : (default : Timing).wait.pollLimit = 241 := by decide
  have spans : (default : Timing).power.initialRequestTimeout ⌈/⌉
      (default : Timing).power.initialRetrySpan = 2 := by decide
  have intervals : (default : Timing).wait.timeout ⌈/⌉ (default : Timing).wait.pollInterval = 240 :=
    by decide
  have total : world.timeline.now + (default : Timing).power.initialRequestTimeout +
      max (default : Timing).power.initialRetrySpan
        ((default : Timing).wait.timeout + (default : Timing).wait.pollInterval) = 1235000 := by
    decide
  rw [requestLimit, pollLimit, spans, intervals, total] at kept
  exact ⟨checked, instant, kept⟩

end PowerSwitch

end Provisioning
