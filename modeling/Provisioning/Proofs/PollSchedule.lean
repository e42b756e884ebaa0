import Mathlib.Algebra.Order.Floor.Div
import Mathlib.Data.ENat.Lattice
import Provisioning.Proofs.Calm
import Provisioning.Proofs.PowerBudget
import Provisioning.Script
import Provisioning.Wait

/-!
The schedule of a wait. When its looks are answered at once and nothing cancels its context, the
whole course of a wait is known from the interval, the budget, the time that its context has left
and the first answer that decides it. The two spans may be related in any way, and the ties are part
of the schedule: a budget that ends at a look still has that look, a deadline that falls on it does
not.
-/

namespace Provisioning

/-- The first number with a property is infinite if no number has it. -/
noncomputable def firstNumber (property : Nat → Prop) : ℕ∞ :=
  ⨅ (number : Nat) (_ : property number), (number : ℕ∞)

section FirstNumber

variable {property : Nat → Prop} {number : Nat}

/-- The first number is at most any number with the property. -/
theorem firstNumber_le (holds : property number) : firstNumber property ≤ number :=
  iInf₂_le number holds

/-- A number without the property is before the first number with it if its predecessors are. -/
theorem succ_le_firstNumber (fails : ¬ property number) (reached : number ≤ firstNumber property) :
    ((number + 1 : Nat) : ℕ∞) ≤ firstNumber property := by
  refine le_iInf₂ fun later holds => ?_
  have after : number ≤ later := Nat.cast_le.mp (reached.trans (firstNumber_le holds))
  have other : number ≠ later := by
    rintro rfl
    exact fails holds
  exact Nat.cast_le.mpr (Nat.lt_of_le_of_ne after other)

/-- A number with the property is the first one when no sooner number has it. -/
theorem firstNumber_eq (holds : property number)
    (first : ∀ sooner, property sooner → number ≤ sooner) : firstNumber property = number :=
  le_antisymm (firstNumber_le holds)
    (le_iInf₂ fun sooner holds => Nat.cast_le.mpr (first sooner holds))

end FirstNumber

/-- The time until the deadline of a context is infinite when it has no deadline. -/
def Context.timeLeft (context : Context) (timeline : Timeline) : ℕ∞ :=
  match context.deadline with
  | some deadline => (deadline - timeline.now : Nat)
  | none => ⊤

namespace Context.Spared

variable {context : Context} {timeline : Timeline}

/-- The check of a spared context fails when no time is left. -/
theorem check (spared : context.Spared timeline) :
    context.check timeline =
      if context.timeLeft timeline = 0 then some .deadlineExceeded else none := by
  rw [Context.check, spared.running, if_neg Bool.false_ne_true, isExpired, timeLeft]
  cases context.deadline with
  | none => rfl
  | some deadline =>
      simp only [Nat.cast_eq_zero, Nat.sub_eq_zero_iff_le, decide_eq_true_eq]

/-- A sleep takes its whole span only if it ends before the deadline, and a tie is for the
deadline. -/
theorem sleep_of_lt (spared : context.Spared timeline) {span : Nat}
    (early : span < context.timeLeft timeline) :
    context.sleep span timeline = (none, timeline.advanceTo (timeline.now + span)) := by
  rw [spared.sleep, sleepEnd]
  rw [timeLeft] at early
  cases present : context.deadline with
  | none => rfl
  | some deadline =>
      rw [present, Nat.cast_lt] at early
      have later : ¬ deadline ≤ timeline.now + span := by omega
      dsimp only
      rw [if_neg later]

/-- A pause of a spared context ends with its deadline when the time left is no longer than the
pause. -/
theorem sleep_of_le (spared : context.Spared timeline) {span : Nat}
    (late : context.timeLeft timeline ≤ span) :
    context.sleep span timeline =
      (some .deadlineExceeded,
        timeline.advanceTo (timeline.now + (context.timeLeft timeline).toNat)) := by
  rw [spared.sleep, sleepEnd]
  rw [timeLeft] at late ⊢
  cases present : context.deadline with
  | none =>
      rw [present, top_le_iff] at late
      exact absurd late (ENat.natCast_ne_top span)
  | some deadline =>
      rw [present, Nat.cast_le] at late
      have sooner : deadline ≤ timeline.now + span := by omega
      have wake : max deadline timeline.now = timeline.now + (deadline - timeline.now) := by omega
      dsimp only
      rw [if_pos sooner, ENat.toNat_natCast, wake]

end Context.Spared

/-- The time that passes is the time that is no longer left. -/
theorem Context.timeLeft_advanceTo (context : Context) (timeline : Timeline) (span : Nat) :
    context.timeLeft (timeline.advanceTo (timeline.now + span)) =
      context.timeLeft timeline - span := by
  rw [timeLeft, timeLeft, Timeline.now_advanceTo, Nat.max_eq_right (Nat.le_add_right _ _)]
  cases context.deadline with
  | none => rfl
  | some deadline =>
      dsimp only
      rw [← Nat.sub_sub, ENat.natCast_sub]

namespace Wait

variable {ρ : Type}

/-- A prompt remote answers every look at once and keeps the times of the looks so far. -/
def prompt (answers : Nat → Except RemoteError ρ) : Remote (Probe ρ) (List Nat) := fun _ _ world =>
  (answers world.store.length, { world with store := world.store ++ [world.timeline.now] })

/-- An answer decides a wait when it is an error or a state that the wait accepts. -/
def Decides (accepts : ρ → Bool) : Except RemoteError ρ → Prop
  | .ok state => accepts state = true
  | .error _ => True

/-- The looks are counted from zero, and the first decisive one is infinite if there is none. -/
noncomputable def firstDecision (answers : Nat → Except RemoteError ρ) (accepts : ρ → Bool) : ℕ∞ :=
  ⨅ (look : Nat) (_ : Decides accepts (answers look)), (look : ℕ∞)

section FirstDecision

variable {answers : Nat → Except RemoteError ρ} {accepts : ρ → Bool} {look : Nat}

/-- The first decision comes no later than any look that decides. -/
theorem firstDecision_le (decided : Decides accepts (answers look)) :
    firstDecision answers accepts ≤ look :=
  firstNumber_le decided

/-- A look that decides nothing is before the first decision if its predecessors are. -/
theorem lt_firstDecision (undecided : ¬ Decides accepts (answers look))
    (open_ : look ≤ firstDecision answers accepts) :
    ((look + 1 : Nat) : ℕ∞) ≤ firstDecision answers accepts :=
  succ_le_firstNumber undecided open_

end FirstDecision

/-- An ending has the result of a wait, the time that the wait took and the number of its looks. -/
structure Ending (ρ : Type) where
  result : Except ProvisionError ρ
  duration : Nat
  looks : Nat

/-- The schedule tells how a wait ends whose context has some time left. -/
noncomputable def schedule (action : String) (answers : Nat → Except RemoteError ρ)
    (accepts : ρ → Bool) (options : WaitOptions) (left : ℕ∞) : Ending ρ :=
  let first := firstDecision answers accepts
  let limit := options.timeout ⌈/⌉ options.pollInterval
  if first ≤ limit ∧ first * options.pollInterval < left then
    ⟨(answers first.toNat).mapError (.ofRemote action), first.toNat * options.pollInterval,
      first.toNat + 1⟩
  else if (limit * options.pollInterval : Nat) < left then
    ⟨.error (.timeout action), limit * options.pollInterval, limit + 1⟩
  else ⟨.error (.deadlineExceeded action), left.toNat, left.toNat ⌈/⌉ options.pollInterval⟩

section Schedule

variable {action : String} {answers : Nat → Except RemoteError ρ} {accepts : ρ → Bool}
  {options : WaitOptions} {left : ℕ∞} {look : Nat}

/-- A wait ends with its first decisive look when the budget reaches it and the deadline does not
come first. -/
theorem schedule_of_decided (first : firstDecision answers accepts = look)
    (within : look ≤ options.timeout ⌈/⌉ options.pollInterval)
    (early : (look * options.pollInterval : Nat) < left) :
    schedule action answers accepts options left =
      ⟨(answers look).mapError (.ofRemote action), look * options.pollInterval, look + 1⟩ := by
  rw [schedule, first, ENat.toNat_natCast, if_pos]
  exact ⟨Nat.cast_le.mpr within, by exact_mod_cast early⟩

/-- A wait times out with the look at which its budget ends when no look up to it decides and the
deadline does not come first. -/
theorem schedule_of_spent (limit : options.timeout ⌈/⌉ options.pollInterval = look)
    (undecided : ((look + 1 : Nat) : ℕ∞) ≤ firstDecision answers accepts)
    (early : (look * options.pollInterval : Nat) < left) :
    schedule action answers accepts options left =
      ⟨.error (.timeout action), look * options.pollInterval, look + 1⟩ := by
  have beyond : ¬ firstDecision answers accepts ≤ look := by
    rw [not_le]
    exact lt_of_lt_of_le (Nat.cast_lt.mpr (Nat.lt_succ_self look)) undecided
  rw [schedule, limit, if_neg (fun both => beyond both.1), if_pos early]

/-- The looks before a deadline are the multiples of the interval before it. -/
theorem schedule_of_expired (paced : 0 < options.pollInterval)
    (within : look ≤ options.timeout ⌈/⌉ options.pollInterval)
    (undecided : look ≤ firstDecision answers accepts)
    (early : ∀ sooner < look, (sooner * options.pollInterval : Nat) < left)
    (late : left ≤ (look * options.pollInterval : Nat)) :
    schedule action answers accepts options left =
      ⟨.error (.deadlineExceeded action), left.toNat, look⟩ := by
  lift left to ℕ using ne_top_of_le_ne_top (ENat.natCast_ne_top _) late
  rw [Nat.cast_le] at late
  have looks : left ⌈/⌉ options.pollInterval = look := by
    apply eq_of_forall_ge_iff
    intro bound
    rw [ceilDiv_le_iff_le_mul paced, Nat.mul_comm]
    constructor
    · intro covered
      by_contra fewer
      have sooner := Nat.cast_lt.mp (early bound (not_le.mp fewer))
      exact absurd covered (not_le.mpr sooner)
    · exact fun more => late.trans (Nat.mul_le_mul_right _ more)
  have tooLate : ¬ firstDecision answers accepts * options.pollInterval < left := by
    rw [not_lt]
    calc (left : ℕ∞)
        ≤ (look * options.pollInterval : Nat) := Nat.cast_le.mpr late
      _ = look * options.pollInterval := Nat.cast_mul _ _
      _ ≤ firstDecision answers accepts * options.pollInterval := mul_le_mul_left undecided _
  have overdue : ¬ ((options.timeout ⌈/⌉ options.pollInterval * options.pollInterval : Nat) : ℕ∞) <
      left := by
    rw [not_lt, Nat.cast_le]
    exact late.trans (Nat.mul_le_mul_right _ within)
  rw [schedule, if_neg (fun both => tooLate both.2), if_neg overdue, ENat.toNat_natCast, looks]

end Schedule

/-- A run that started at some time ends as foretold: its looks are one interval apart from the
start on. -/
def Ends (start interval : Nat) (ending : Ending ρ) (result : Except ProvisionError ρ)
    (after : World (List Nat)) : Prop :=
  result = ending.result ∧ after.timeline.now = start + ending.duration ∧
    after.store = (List.range ending.looks).map (start + · * interval)

/-- A wait goes on to some look when none of the looks before it has ended it. -/
structure GoesOn (context : Context) (answers : Nat → Except RemoteError ρ) (accepts : ρ → Bool)
    (options : WaitOptions) (start : Nat) (left : ℕ∞) (look : Nat) (world : World (List Nat)) :
    Prop where
  spared : context.Spared world.timeline
  time : world.timeline.now = start + look * options.pollInterval
  looks : world.store = (List.range look).map (start + · * options.pollInterval)
  remains : context.timeLeft world.timeline = left - (look * options.pollInterval : Nat)
  early : 0 < look → (look * options.pollInterval : Nat) < left
  undecided : look ≤ firstDecision answers accepts
  within : look ≤ options.timeout ⌈/⌉ options.pollInterval

section Poll

open Program

variable {context : Context} {action : String} {answers : Nat → Except RemoteError ρ}
  {accepts : ρ → Bool} {options : WaitOptions} {start look : Nat} {left : ℕ∞}
  {world : World (List Nat)}

namespace GoesOn

variable (goesOn : GoesOn context answers accepts options start left look world)

include goesOn

/-- The next look of a wait that goes on is written down. -/
theorem looked : prompt answers context () world =
    (answers look, { world with
      store := (List.range (look + 1)).map (start + · * options.pollInterval) }) := by
  have counted : world.store.length = look := by
    rw [goesOn.looks, List.length_map, List.length_range]
  rw [prompt, counted, goesOn.time, goesOn.looks, List.range_succ, List.map_append,
    List.map_singleton]

/-- The check before a look fails when the deadline is not later than the look. -/
theorem check : context.check world.timeline =
    if left ≤ (look * options.pollInterval : Nat) then some .deadlineExceeded else none := by
  rw [goesOn.spared.check, goesOn.remains]
  simp only [tsub_eq_zero_iff_le]

/-- A failed check is that of the first look, since the pauses after looks end at the deadline. -/
theorem interrupted (paced : 0 < options.pollInterval) {interruption : Interruption}
    (failed : context.check world.timeline = some interruption) :
    Ends start options.pollInterval (schedule action answers accepts options left)
      (.error (interruption.error action)) world := by
  rw [goesOn.check] at failed
  split at failed
  next late =>
    obtain rfl := Option.some.inj failed
    obtain rfl : look = 0 := by
      by_contra later
      exact absurd (goesOn.early (Nat.pos_of_ne_zero later)) (not_lt.mpr late)
    rw [schedule_of_expired paced goesOn.within goesOn.undecided nofun late]
    rw [Nat.zero_mul, Nat.cast_zero, nonpos_iff_eq_zero] at late
    refine ⟨rfl, ?_, goesOn.looks⟩
    rw [goesOn.time, late, Nat.zero_mul]
    rfl
  next => nomatch failed

/-- A check that finds no interruption means that the look comes before the deadline. -/
theorem early_of_check (passed : context.check world.timeline = none) :
    (look * options.pollInterval : Nat) < left := by
  rw [goesOn.check] at passed
  by_contra late
  rw [if_pos (not_lt.mp late)] at passed
  nomatch passed

/-- A decisive look ends the wait as foretold. -/
theorem decided (early : (look * options.pollInterval : Nat) < left)
    (decided : Decides accepts (answers look)) :
    Ends start options.pollInterval (schedule action answers accepts options left)
      ((answers look).mapError (.ofRemote action)) (prompt answers context () world).2 := by
  have first := le_antisymm (firstDecision_le decided) goesOn.undecided
  rw [goesOn.looked, schedule_of_decided first goesOn.within early]
  exact ⟨rfl, goesOn.time, rfl⟩

/-- An undecided look ends the wait as foretold when the budget is spent. -/
theorem spent (paced : 0 < options.pollInterval)
    (early : (look * options.pollInterval : Nat) < left)
    (undecided : ¬ Decides accepts (answers look))
    (spent : options.timeout ≤ look * options.pollInterval) :
    Ends start options.pollInterval (schedule action answers accepts options left)
      (.error (.timeout action)) (prompt answers context () world).2 := by
  have limit : options.timeout ⌈/⌉ options.pollInterval = look := by
    refine le_antisymm ?_ goesOn.within
    rwa [ceilDiv_le_iff_le_mul paced, Nat.mul_comm]
  rw [goesOn.looked, schedule_of_spent limit (lt_firstDecision undecided goesOn.undecided) early]
  exact ⟨rfl, goesOn.time, rfl⟩

/-- The pause after a look that decides nothing leads to the next look before the deadline, and
otherwise to the deadline. -/
theorem paused (paced : 0 < options.pollInterval)
    (early : (look * options.pollInterval : Nat) < left)
    (undecided : ¬ Decides accepts (answers look))
    (unspent : look * options.pollInterval < options.timeout) :
    Yields context (prompt answers) (Provision.pause options.pollInterval action)
      (prompt answers context () world).2
      (fun _ rested => GoesOn context answers accepts options start left (look + 1) rested)
      (fun error rested => Ends start options.pollInterval
        (schedule action answers accepts options left) (.error error) rested) := by
  have undecided := lt_firstDecision undecided goesOn.undecided
  have within := PowerSwitch.lt_ceilDiv paced unspent
  have sooner : options.pollInterval < context.timeLeft world.timeline ↔
      ((look + 1) * options.pollInterval : Nat) < left := by
    rw [goesOn.remains, lt_tsub_iff_right, ← Nat.cast_add, Nat.add_one_mul, Nat.add_comm]
  rw [goesOn.looked, yields_pause]
  by_cases inTime : ((look + 1) * options.pollInterval : Nat) < left
  · dsimp only
    rw [goesOn.spared.sleep_of_lt (sooner.mpr inTime)]
    refine ⟨goesOn.spared.advanceTo _, ?_, rfl, ?_, fun _ => inTime, undecided, within⟩
    · rw [Timeline.now_advanceTo, goesOn.time, Nat.add_one_mul]
      omega
    · rw [Context.timeLeft_advanceTo, goesOn.remains, tsub_tsub, ← Nat.cast_add, Nat.add_one_mul]
  · have late := not_lt.mp inTime
    have before : ∀ sooner < look + 1, (sooner * options.pollInterval : Nat) < left := by
      intro sooner earlier
      refine lt_of_le_of_lt (Nat.cast_le.mpr ?_) early
      exact Nat.mul_le_mul_right _ (Nat.le_of_lt_succ earlier)
    dsimp only
    rw [goesOn.spared.sleep_of_le (not_lt.mp (mt sooner.mp inTime)),
      schedule_of_expired paced within undecided before late]
    refine ⟨rfl, ?_, rfl⟩
    lift left to ℕ using ne_top_of_le_ne_top (ENat.natCast_ne_top _) late
    rw [Nat.cast_lt] at early
    rw [Timeline.now_advanceTo, goesOn.remains, ← ENat.natCast_sub, ENat.toNat_natCast,
      ENat.toNat_natCast, goesOn.time, Nat.max_eq_right (Nat.le_add_right _ _), Nat.add_assoc,
      Nat.add_sub_cancel' (Nat.le_of_lt early)]

end GoesOn

/-- A look is one request, and the remote answers it. -/
theorem yields_look {remote : Remote (Probe ρ) (List Nat)}
    {succeeds : ρ × Unit → World (List Nat) → Prop}
    {fails : RemoteError → World (List Nat) → Prop} :
    Yields context remote (do return (← Attempt.request (), ())) world succeeds fails ↔
      match (remote context () world).1 with
      | .ok state => succeeds (state, ()) (remote context () world).2
      | .error error => fails error (remote context () world).2 := by
  rw [yields_bind, yields_request]
  rcases remote context () world with ⟨answer, after⟩
  cases answer <;> rfl

/-- A wait that goes on to some look, with a round left for each look that its budget allows, ends
on schedule. -/
theorem pollUntil_ends (paced : 0 < options.pollInterval) (rounds : Nat)
    (enough : look + rounds = options.timeout ⌈/⌉ options.pollInterval + 1)
    (goesOn : GoesOn context answers accepts options start left look world) :
    Yields context (prompt answers)
      (pollUntil action options.pollInterval (start + options.timeout)
        (fun _ => do return (← Attempt.request (), ())) accepts rounds ()) world
      (fun state after => Ends start options.pollInterval
        (schedule action answers accepts options left) (.ok state) after)
      (fun error after => Ends start options.pollInterval
        (schedule action answers accepts options left) (.error error) after) := by
  apply pollUntil_rounds
    (fun rounds _ world => ∃ look, look + rounds = options.timeout ⌈/⌉ options.pollInterval + 1 ∧
      GoesOn context answers accepts options start left look world) _ _ ?_ ?_ ?_ rounds
    ⟨look, enough, goesOn⟩
  · rintro rounds _ world ⟨look, enough, goesOn⟩ passed
    have early := goesOn.early_of_check passed
    have asked : (prompt answers context () world).1 = answers look := by rw [goesOn.looked]
    have time : (prompt answers context () world).2.timeline.now =
        start + look * options.pollInterval := goesOn.time
    have found (decided : Decides accepts (answers look)) :
        Ends start options.pollInterval (schedule action answers accepts options left)
          ((answers look).mapError (.ofRemote action)) (prompt answers context () world).2 :=
      goesOn.decided early decided
    rw [yields_look, asked]
    cases answer : answers look with
    | error error =>
        rw [answer] at found
        exact found trivial
    | ok state =>
        rw [answer] at found
        dsimp only
        split
        next accepted => exact found accepted
        next missed =>
          have undecided : ¬ Decides accepts (answers look) := by
            rw [answer]
            exact missed
          rw [time]
          split
          next late => exact goesOn.spent paced early undecided (by omega)
          next more =>
            apply (goesOn.paused paced early undecided (by omega)).mono
            · exact fun _ rested goesOn => ⟨look + 1, by omega, goesOn⟩
            · exact fun _ _ ends => ends
  · rintro _ world ⟨look, enough, goesOn⟩
    have within := goesOn.within
    omega
  · rintro _ _ world ⟨look, enough, goesOn⟩ interruption failed
    exact goesOn.interrupted paced failed

end Poll

/-- A wait ends on schedule. Take any positive interval, any budget and any answers that are given
at once, and any context that nothing cancels, with whatever time until its deadline. The wait ends
with the first answer that decides it when its budget allows that look and the look is before the
deadline, else with a timeout when the look at which the budget is spent is before the deadline, and
else at the deadline. The schedule tells the exact time of the end and the exact number of looks. -/
theorem forState_ends_on_schedule (action : String) (answers : Nat → Except RemoteError ρ)
    (accepts : ρ → Bool) (options : WaitOptions) (context : Context) (timeline : Timeline)
    (paced : 0 < options.pollInterval) (spared : context.Spared timeline) :
    let run := (forState action (Attempt.request ()) accepts options).run.run context
      (prompt answers) ⟨timeline, []⟩
    Ends timeline.now options.pollInterval
      (schedule action answers accepts options (context.timeLeft timeline)) run.1 run.2 := by
  intro run
  have goesOn : GoesOn context answers accepts options timeline.now (context.timeLeft timeline) 0
      ⟨timeline, []⟩ := by
    refine ⟨spared, by rw [Nat.zero_mul]; rfl, rfl, ?_, nofun, zero_le, Nat.zero_le _⟩
    rw [Nat.zero_mul, Nat.cast_zero, tsub_zero]
  have limit := options.pollLimit_eq paced
  apply Program.Yields.outcome
  rw [forState, forStateWith, Program.yields_bind, Program.yields_now]
  exact pollUntil_ends paced options.pollLimit (by omega) goesOn

/-- The first decision is a look that decides the wait after looks that do not. -/
theorem firstDecision_eq {answers : Nat → Except RemoteError ρ} {accepts : ρ → Bool} {look : Nat}
    (decided : Decides accepts (answers look))
    (first : ∀ sooner, Decides accepts (answers sooner) → look ≤ sooner) :
    firstDecision answers accepts = look :=
  firstNumber_eq decided first

/-- The fourth look at an interval of 5 decides a wait whose budget of 15 allows just that look, but
a deadline after 15 comes first. -/
theorem tied_waits_end_on_schedule :
    let options : WaitOptions := ⟨5, 15⟩
    let answers : Nat → Except RemoteError Bool := fun look => .ok (look == 3)
    let timeline : Timeline := ⟨100, 1, [], none⟩
    let run := fun deadline => (forState "wait" (Attempt.request ()) id options).run.run
      ⟨⟨[0]⟩, deadline⟩ (prompt answers) ⟨timeline, []⟩
    0 < options.pollInterval ∧ (∀ deadline, Context.Spared ⟨⟨[0]⟩, deadline⟩ timeline) ∧
    Ends 100 5 ⟨.ok true, 15, 4⟩ (run none).1 (run none).2 ∧
    Ends 100 5 ⟨.error (.deadlineExceeded "wait"), 15, 3⟩ (run (some 115)).1
      (run (some 115)).2 := by
  intro options answers timeline run
  have paced : 0 < options.pollInterval := by decide
  have spared : ∀ deadline, Context.Spared ⟨⟨[0]⟩, deadline⟩ timeline :=
    fun deadline => ⟨rfl, nofun⟩
  have first : firstDecision answers id = (3 : Nat) := by
    refine firstDecision_eq rfl fun sooner decided => ?_
    have third : sooner = 3 := beq_iff_eq.mp decided
    omega
  have within : 3 ≤ options.timeout ⌈/⌉ options.pollInterval := by decide
  refine ⟨paced, spared, ?_, ?_⟩
  · have ends := forState_ends_on_schedule "wait" answers id options ⟨⟨[0]⟩, none⟩ timeline paced
      (spared none)
    have left : Context.timeLeft ⟨⟨[0]⟩, none⟩ timeline = ⊤ := rfl
    rwa [left, schedule_of_decided first within (ENat.natCast_lt_top _)] at ends
  · have ends := forState_ends_on_schedule "wait" answers id options ⟨⟨[0]⟩, some 115⟩ timeline
      paced (spared (some 115))
    have left : Context.timeLeft ⟨⟨[0]⟩, some 115⟩ timeline = (15 : Nat) := rfl
    have early : ∀ sooner < 3, (sooner * options.pollInterval : Nat) < ((15 : Nat) : ℕ∞) := by
      intro sooner earlier
      exact Nat.cast_lt.mpr (Nat.mul_lt_mul_of_pos_right earlier paced)
    rwa [left, schedule_of_expired paced within (le_of_eq first.symm) early le_rfl] at ends

end Wait

end Provisioning
