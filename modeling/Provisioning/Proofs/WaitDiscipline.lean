import Mathlib.Data.List.Chain
import Provisioning.Proofs.PollSchedule

/-!
The discipline of a wait. The looks may be answered with anything and may take any time, and the
context may be cancelled at any instant and may have any deadline. The main statement says what a
wait keeps to all the same: how many looks it has and when they start, which of them ends it, and
how a pause between two looks is cut short.
-/

namespace Provisioning

open Program

namespace Context

/-- This is the instant at which an interruption is due, and it is infinite if it is not due. -/
def dueAt (context : Context) (timeline : Timeline) : Interruption → ℕ∞
  | .cancelled =>
      match timeline.alarm with
      | some alarm => if context.token.isBelow alarm.token then alarm.time else ⊤
      | none => ⊤
  | .deadlineExceeded =>
      match context.deadline with
      | some deadline => deadline
      | none => ⊤

/-- An interruption cuts a pause short when it is due strictly inside the pause and before the other
one. -/
structure Cuts (context : Context) (timeline : Timeline) (span : Nat) (interruption : Interruption)
    (instant : Nat) : Prop where
  running : context.isCancelled timeline = false
  due : context.dueAt timeline interruption = instant
  first : ∀ other, other ≠ interruption → (instant : ℕ∞) < context.dueAt timeline other
  begun : timeline.now < instant
  unfinished : instant < timeline.now + span

variable {context : Context} {timeline : Timeline} {span instant : Nat}

/-- A sleep lasts beyond every instant before its deadline and before the end of its span. -/
theorem lt_sleepEnd (early : (instant : ℕ∞) < context.dueAt timeline .deadlineExceeded)
    (unfinished : instant < timeline.now + span) :
    instant < (context.sleepEnd span timeline).1 := by
  rw [sleepEnd]
  rw [dueAt] at early
  cases present : context.deadline with
  | none => exact unfinished
  | some deadline =>
      rw [present, Nat.cast_lt] at early
      dsimp only
      split
      · exact lt_of_lt_of_le early (Nat.le_max_left _ _)
      · exact unfinished

/-- A sleep that is cut short ends at the very instant at which the interruption is due. -/
theorem Cuts.sleep {interruption : Interruption}
    (cuts : context.Cuts timeline span interruption instant) :
    context.sleep span timeline = (some interruption, timeline.advanceTo instant) := by
  have due := cuts.due
  rw [Context.sleep, cuts.running, if_neg Bool.false_ne_true]
  cases interruption with
  | cancelled =>
      rw [dueAt] at due
      cases present : timeline.alarm with
      | none =>
          rw [present] at due
          exact absurd due.symm (ENat.natCast_ne_top instant)
      | some alarm =>
          rw [present] at due
          dsimp only at due ⊢
          split at due
          next reaches =>
            obtain rfl : alarm.time = instant := Nat.cast_inj.mp due
            have sooner := cuts.first .deadlineExceeded (by decide)
            rw [if_pos ⟨reaches, lt_sleepEnd sooner cuts.unfinished⟩]
          next => exact absurd due.symm (ENat.natCast_ne_top instant)
  | deadlineExceeded =>
      have wake : context.sleepEnd span timeline = (instant, some .deadlineExceeded) := by
        rw [sleepEnd]
        rw [dueAt] at due
        cases present : context.deadline with
        | none =>
            rw [present] at due
            exact absurd due.symm (ENat.natCast_ne_top instant)
        | some deadline =>
            rw [present] at due
            obtain rfl : deadline = instant := Nat.cast_inj.mp due
            dsimp only
            rw [if_pos (Nat.le_of_lt cuts.unfinished), Nat.max_eq_left (Nat.le_of_lt cuts.begun)]
      have later := cuts.first .cancelled (by decide)
      rw [wake]
      rw [dueAt] at later
      cases present : timeline.alarm with
      | none => rfl
      | some alarm =>
          rw [present] at later
          dsimp only at later ⊢
          rw [if_neg]
          rintro ⟨reaches, sooner⟩
          rw [if_pos reaches, Nat.cast_lt] at later
          omega

/-- A pause that is cut short ends with the interruption that cuts it, at the instant at which it is
due. -/
theorem Cuts.of_sleep {cause interruption : Interruption} {later : Timeline}
    (cuts : context.Cuts timeline span cause instant)
    (slept : context.sleep span timeline = (some interruption, later)) :
    interruption = cause ∧ later.now = instant := by
  obtain ⟨same, rfl⟩ := Prod.mk.inj (slept.symm.trans cuts.sleep)
  rw [Timeline.now_advanceTo]
  exact ⟨Option.some.inj same, Nat.max_eq_right (Nat.le_of_lt cuts.begun)⟩

end Context

namespace Wait

variable {σ : Signature} {ρ Store : Type}

/-- This wait has a limit of its own for its rounds. -/
def forStateWithin (action : String) (probe : Attempt σ ρ) (accepts : ρ → Bool)
    (options : WaitOptions) (rounds : Nat) : Provision σ ρ := do
  let start ← Provision.now
  pollUntil action options.pollInterval (start + options.timeout)
    (fun _ => do return (← probe, ())) accepts rounds ()

/-- A wait has the limit for its rounds from its options. -/
theorem forState_eq (action : String) (probe : Attempt σ ρ) (accepts : ρ → Bool)
    (options : WaitOptions) :
    forState action probe accepts options =
      forStateWithin action probe accepts options options.pollLimit := rfl

/-- A wait is disciplined when it looks one interval after the last look ended, has no more looks
than its budget allows, looks only in a live context, and ends when a look decides it or when an
interruption cuts a pause short. -/
structure Disciplined (context : Context) (action : String) (accepts : ρ → Bool)
    (options : WaitOptions) (start : Timeline) (outcome : Except ProvisionError ρ)
    (ended : Timeline) (journal : List (Entry (Probe ρ))) : Prop where
  few : journal.length ≤ options.timeout ⌈/⌉ options.pollInterval + 1
  begins : ∀ look ∈ journal.head?, look.started = start
  spaced : journal.IsChain fun former look =>
    look.started.now = former.completed.now + options.pollInterval
  inTime : ∀ look ∈ journal, look.started.now < start.now + options.timeout + options.pollInterval
  live : ∀ look ∈ journal, context.check look.started = none
  cut : ∀ history look later, journal = history ++ look :: later →
    ¬ Decides accepts look.answer → look.completed.now < start.now + options.timeout →
    ∀ interruption instant,
      context.Cuts look.completed options.pollInterval interruption instant →
      later = [] ∧ outcome = .error (interruption.error action) ∧ ended.now = instant
  decided : ∀ history look later, journal = history ++ look :: later →
    Decides accepts look.answer → later = [] ∧ outcome = look.answer.mapError (.ofRemote action)
  found : ∀ state, outcome = .ok state → ∃ history look, journal = history ++ [look] ∧
    look.answer = .ok state ∧ accepts state = true ∧
      ∀ former ∈ history, ¬ Decides accepts former.answer

/-- A wait goes on after a look that decides nothing when nothing cuts the pause short. -/
structure Passed (context : Context) (accepts : ρ → Bool) (options : WaitOptions)
    (start : Timeline) (look : Entry (Probe ρ)) : Prop where
  inTime : look.started.now < start.now + options.timeout + options.pollInterval
  live : context.check look.started = none
  undecided : ¬ Decides accepts look.answer
  uncut : ∀ interruption instant,
    ¬ context.Cuts look.completed options.pollInterval interruption instant

/-- A wait is under way when all of its looks were passed, each with an interval after it. -/
structure Underway (context : Context) (accepts : ρ → Bool) (options : WaitOptions)
    (start : Timeline) (world : World (Observed (Probe ρ) Store)) : Prop where
  begins : ∀ look ∈ world.store.journal.head?, look.started = start
  fresh : world.store.journal = [] → world.timeline = start
  spaced : world.store.journal.IsChain fun former look =>
    look.started.now = former.completed.now + options.pollInterval
  rested : ∀ look ∈ world.store.journal.getLast?,
    world.timeline.now = look.completed.now + options.pollInterval
  passed : ∀ look ∈ world.store.journal, Passed context accepts options start look
  elapsed : start.now + world.store.journal.length * options.pollInterval ≤ world.timeline.now
  early : world.timeline.now < start.now + options.timeout + options.pollInterval

namespace Underway

variable {context : Context} {action : String} {accepts : ρ → Bool} {options : WaitOptions}
  {start : Timeline} {world : World (Observed (Probe ρ) Store)}

/-- A wait is under way when it begins. -/
theorem initial {world : World Store} (paced : 0 < options.pollInterval) :
    Underway context accepts options world.timeline world.watched where
  begins := by simp [World.watched]
  fresh _ := rfl
  spaced := .nil
  rested := by simp [World.watched]
  passed := List.forall_mem_nil _
  elapsed := by simp [World.watched]
  early := by
    simp only [World.watched]
    omega

/-- The looks so far are no more than the budget has intervals. -/
theorem few (underway : Underway context accepts options start world)
    (paced : 0 < options.pollInterval) :
    world.store.journal.length ≤ options.timeout ⌈/⌉ options.pollInterval := by
  have elapsed := underway.elapsed
  have early := underway.early
  exact PowerSwitch.le_ceilDiv paced (by omega)

/-- A wait that stops before its next look has a failure of its own. -/
theorem stops (underway : Underway context accepts options start world)
    (paced : 0 < options.pollInterval) (error : ProvisionError) (ended : Timeline) :
    Disciplined context action accepts options start (.error error) ended
      world.store.journal where
  few := Nat.le_succ_of_le (underway.few paced)
  begins := underway.begins
  spaced := underway.spaced
  inTime look member := (underway.passed look member).inTime
  live look member := (underway.passed look member).live
  cut history look later divided undecided early interruption instant cuts :=
    absurd cuts ((underway.passed look (by simp [divided])).uncut interruption instant)
  decided history look later divided decides :=
    absurd decides (underway.passed look (by simp [divided])).undecided
  found := nofun

/-- The next look of a wait starts one interval after the last one has ended. -/
theorem spaced_append (underway : Underway context accepts options start world)
    {look : Entry (Probe ρ)} (starts : look.started = world.timeline) :
    (world.store.journal ++ [look]).IsChain fun former look =>
      look.started.now = former.completed.now + options.pollInterval := by
  refine underway.spaced.append (.singleton look) fun former last next member => ?_
  cases member
  rw [starts]
  exact underway.rested former last

/-- The first look of a wait starts with the wait. -/
theorem begins_append (underway : Underway context accepts options start world)
    {look : Entry (Probe ρ)} (starts : look.started = world.timeline) :
    ∀ first ∈ (world.store.journal ++ [look]).head?, first.started = start := by
  intro first member
  cases before : world.store.journal with
  | nil =>
      rw [before] at member
      cases member
      exact starts.trans (underway.fresh before)
  | cons former others =>
      rw [before] at member
      exact underway.begins first (before ▸ member)

/-- A wait that ends after its next look ends as the look or the pause after it has it. -/
theorem ends (underway : Underway context accepts options start world)
    (paced : 0 < options.pollInterval) (live : context.check world.timeline = none)
    {look : Entry (Probe ρ)} (starts : look.started = world.timeline)
    {outcome : Except ProvisionError ρ} {ended : Timeline}
    (cut : ¬ Decides accepts look.answer → look.completed.now < start.now + options.timeout →
      ∀ interruption instant,
        context.Cuts look.completed options.pollInterval interruption instant →
        outcome = .error (interruption.error action) ∧ ended.now = instant)
    (decided : Decides accepts look.answer → outcome = look.answer.mapError (.ofRemote action))
    (found : ∀ state, outcome = .ok state → look.answer = .ok state ∧ accepts state = true) :
    Disciplined context action accepts options start outcome ended
      (world.store.journal ++ [look]) where
  few := by
    rw [List.length_append, List.length_singleton]
    exact Nat.succ_le_succ (underway.few paced)
  begins := underway.begins_append starts
  spaced := underway.spaced_append starts
  inTime other member := by
    rcases List.mem_append.mp member with former | last
    · exact (underway.passed other former).inTime
    · rw [List.mem_singleton.mp last, starts]
      exact underway.early
  live other member := by
    rcases List.mem_append.mp member with former | last
    · exact (underway.passed other former).live
    · rw [List.mem_singleton.mp last, starts]
      exact live
  cut history other later divided undecided early interruption instant cuts := by
    rcases Entry.division_of_append divided with ⟨-, rfl, rfl⟩ | ⟨earlier, -, before⟩
    · exact ⟨rfl, cut undecided early interruption instant cuts⟩
    · exact absurd cuts ((underway.passed other (by simp [before])).uncut interruption instant)
  decided history other later divided decides := by
    rcases Entry.division_of_append divided with ⟨-, rfl, rfl⟩ | ⟨earlier, -, before⟩
    · exact ⟨rfl, decided decides⟩
    · exact absurd decides (underway.passed other (by simp [before])).undecided
  found state succeeded :=
    ⟨world.store.journal, look, rfl, (found state succeeded).1, (found state succeeded).2,
      fun former member => (underway.passed former member).undecided⟩

/-- A wait that pauses after a look that decides nothing goes on with its next look. -/
theorem goesOn (underway : Underway context accepts options start world)
    (look : Entry (Probe ρ)) (live : context.check world.timeline = none)
    (starts : look.started = world.timeline) (forward : look.started.now ≤ look.completed.now)
    (undecided : ¬ Decides accepts look.answer)
    (early : look.completed.now < start.now + options.timeout)
    {rested : World (Observed (Probe ρ) Store)}
    (written : rested.store.journal = world.store.journal ++ [look])
    (slept : context.sleep options.pollInterval look.completed = (none, rested.timeline)) :
    Underway context accepts options start rested := by
  have later := (Context.of_sleep slept).2
  refine ⟨?_, ?_, ?_, ?_, ?_, ?_, by omega⟩
  · rw [written]
    exact underway.begins_append starts
  · intro empty
    rw [written] at empty
    exact absurd empty (List.append_ne_nil_of_right_ne_nil _ nofun)
  · rw [written]
    exact underway.spaced_append starts
  · intro last member
    rw [written, List.getLast?_concat] at member
    cases member
    exact later
  · intro other member
    rw [written] at member
    rcases List.mem_append.mp member with former | last
    · exact underway.passed other former
    · rw [List.mem_singleton.mp last]
      refine ⟨starts ▸ underway.early, starts ▸ live, undecided,
        fun interruption instant cuts => ?_⟩
      nomatch cuts.sleep.symm.trans slept
  · have elapsed := underway.elapsed
    rw [starts] at forward
    rw [written, List.length_append, List.length_singleton, Nat.add_one_mul]
    omega

end Underway

section Run

variable {context : Context} {action : String} {accepts : ρ → Bool} {options : WaitOptions}
  {start : Timeline} {world : World (Observed (Probe ρ) Store)} {remote : Remote (Probe ρ) Store}

/-- A wait that is under way, with a round left for each look that its budget allows, is
disciplined. -/
theorem pollUntil_disciplined (paced : 0 < options.pollInterval)
    (forward : remote.Forward context) (rounds : Nat)
    (enough : options.timeout ⌈/⌉ options.pollInterval + 1 ≤
      world.store.journal.length + rounds)
    (underway : Underway context accepts options start world) :
    Yields context remote.observed
      (pollUntil action options.pollInterval (start.now + options.timeout)
        (fun _ => do return (← Attempt.request (), ())) accepts rounds ()) world
      (fun state after => Disciplined context action accepts options start (.ok state)
        after.timeline after.store.journal)
      (fun error after => Disciplined context action accepts options start (.error error)
        after.timeline after.store.journal) := by
  apply pollUntil_rounds
    (fun rounds _ (world : World (Observed (Probe ρ) Store)) =>
      options.timeout ⌈/⌉ options.pollInterval + 1 ≤ world.store.journal.length + rounds ∧
        Underway context accepts options start world) _ _ ?_ ?_ ?_ rounds ⟨enough, underway⟩
  · rintro rounds _ world ⟨enough, underway⟩ live
    rw [yields_bind]
    apply ((MovesForward.call forward.observed () world).and (Yields.answered
      (fun _ _ written => written) fun _ _ written => written)).mono
    · rintro state after ⟨moved, written⟩
      let look : Entry (Probe ρ) := ⟨(), .ok state, world.timeline, after.timeline⟩
      rw [yields_pure]
      dsimp only
      split
      next accepted =>
        rw [written]
        apply underway.ends paced live rfl
        · exact fun undecided => absurd accepted undecided
        · exact fun _ => rfl
        · rintro _ ⟨⟩
          exact ⟨rfl, accepted⟩
      next missed =>
        split
        next late =>
          rw [written]
          apply underway.ends paced live rfl
          · intro _ early
            exact absurd late (Nat.not_le_of_lt early)
          · exact fun decides => absurd decides missed
          · exact nofun
        next more =>
          have early := Nat.lt_of_not_le more
          rw [yields_pause]
          split
          next timeline slept =>
            refine ⟨?_, underway.goesOn look live rfl moved missed early written slept⟩
            dsimp only
            rw [written, List.length_append, List.length_singleton]
            omega
          next interruption timeline slept =>
            dsimp only
            rw [written]
            apply underway.ends paced live rfl
            · intro _ _ cause instant cuts
              obtain ⟨rfl, ended⟩ := cuts.of_sleep slept
              exact ⟨rfl, ended⟩
            · exact fun decides => absurd decides missed
            · exact nofun
    · rintro error after ⟨-, written⟩
      rw [written]
      apply underway.ends paced live rfl
      · exact fun undecided => absurd trivial undecided
      · exact fun _ => rfl
      · exact nofun
  · rintro _ world ⟨enough, underway⟩
    have few := underway.few paced
    omega
  · rintro _ _ world ⟨-, underway⟩ interruption -
    exact underway.stops paced _ _

/-- The limit on the rounds of a wait does not matter while it covers the looks that the budget
allows. -/
theorem forStateWithin_run_eq {world : World Store} (paced : 0 < options.pollInterval)
    (forward : remote.Forward context) {rounds : Nat}
    (enough : options.timeout ⌈/⌉ options.pollInterval + 1 ≤ rounds) :
    (forStateWithin action (Attempt.request ()) accepts options rounds).run.run context remote
        world =
      (forState action (Attempt.request ()) accepts options).run.run context remote world := by
  have limit := options.pollLimit_eq paced
  have covered := options.pollLimit_covers paced
  have looks : ∀ memory : Unit, MovesForward context remote
      (do return (← Attempt.request (), memory) : Attempt (Probe ρ) (ρ × Unit)) := by
    intro memory world
    rw [yields_bind]
    exact MovesForward.call forward () world
  rw [forState_eq, forStateWithin, forStateWithin]
  apply run_bind_congr rfl
  rw [yields_now]
  exact pollUntil_run_eq looks (limit ▸ enough) (by omega) (by omega)

end Run

/-- A wait is disciplined, and it ends by itself. Take any positive interval, any budget, any
answers that take any time, and any context, whenever it is cancelled or its deadline passes. The
wait ends before any limit on its rounds matters. It looks once and again one interval after each
look has ended, no more often than its budget has intervals and one, never later than one interval
after its budget, and only in a live context. It ends with the first look that decides it, and it
succeeds only with a state that it accepts. When a cancellation or the deadline falls inside a
pause, whichever comes first ends the wait at that instant. -/
theorem forState_is_disciplined (action : String) (accepts : ρ → Bool) (options : WaitOptions)
    (paced : 0 < options.pollInterval) (context : Context) (remote : Remote (Probe ρ) Store)
    (forward : remote.Forward context) (world : World Store) :
    let wait := forState action (Attempt.request ()) accepts options
    let run := wait.run.run context remote world
    (∀ rounds, options.timeout ⌈/⌉ options.pollInterval + 1 ≤ rounds →
      (forStateWithin action (Attempt.request ()) accepts options rounds).run.run context remote
        world = run) ∧
    Disciplined context action accepts options world.timeline run.1 run.2.timeline
      (wait.run.journal context remote world) := by
  intro wait run
  refine ⟨fun rounds enough => forStateWithin_run_eq paced forward enough, ?_⟩
  have limit := options.pollLimit_eq paced
  apply Yields.journal (fun outcome (after : World Store) journal =>
    Disciplined context action accepts options world.timeline outcome after.timeline journal)
  change Yields context remote.observed (forState action _ accepts options) world.watched _ _
  rw [forState, forStateWith, yields_bind, yields_now]
  apply pollUntil_disciplined paced forward options.pollLimit
  · exact limit.ge.trans (Nat.le_add_left _ _)
  · exact .initial paced

/-- A scripted probe takes the time of its cues. -/
theorem forward_script (context : Context) : (ProbeScript.remote (ρ := ρ)).Forward context := by
  rintro ⟨⟩ ⟨timeline, cues, looks⟩
  cases cues with
  | nil => exact Nat.le_refl _
  | cons cue rest =>
      have later : timeline.now ≤ (timeline.elapse cue.delay).now := by
        rw [Timeline.elapse]
        split
        · exact Nat.le_refl _
        · rw [Timeline.now_advanceTo]
          exact Nat.le_max_left _ _
      simp only [ProbeScript.remote, Cue.play]
      split
      · exact later
      · exact later

/-- The second look of this wait takes from 17 to 22, and the cancellation at 25 falls inside the
pause until 32, before the deadline at 28. -/
theorem slow_wait_is_cut :
    let options : WaitOptions := ⟨10, 100⟩
    let context : Context := ⟨⟨[0]⟩, some 28⟩
    let script : ProbeScript Bool := ⟨[⟨7, false, .ok false⟩, ⟨5, false, .ok false⟩], []⟩
    let world : World (ProbeScript Bool) := ⟨⟨0, 1, [], some ⟨25, ⟨[0]⟩⟩⟩, script⟩
    let run := (forState "wait" (Attempt.request ()) id options).run.run context
      ProbeScript.remote world
    0 < options.pollInterval ∧ (ProbeScript.remote (ρ := Bool)).Forward context ∧
    run.1 = .error (.cancelled "wait") ∧ run.2.timeline.now = 25 := by
  intro options context script world run
  have paced : 0 < options.pollInterval := by decide
  have forward := forward_script (ρ := Bool) context
  obtain ⟨-, disciplined⟩ := forState_is_disciplined "wait" id options paced context
    ProbeScript.remote forward world
  let looked (now : Nat) : Timeline := ⟨now, 1, [], some ⟨25, ⟨[0]⟩⟩⟩
  let first : Entry (Probe Bool) := ⟨(), .ok false, looked 0, looked 7⟩
  let second : Entry (Probe Bool) := ⟨(), .ok false, looked 17, looked 22⟩
  have written : (forState "wait" (Attempt.request ()) id options).run.journal context
      ProbeScript.remote world = [first, second] := by
    dsimp only [options, context, script, world, first, second, looked]
    rfl
  have cuts : context.Cuts second.completed options.pollInterval .cancelled 25 := by
    refine ⟨rfl, rfl, ?_, by decide, by decide⟩
    rintro (_ | _) other
    · exact absurd rfl other
    · exact Nat.cast_lt.mpr (by decide)
  obtain ⟨-, outcome, ended⟩ := disciplined.cut [first] second [] written nofun
    (by decide) .cancelled 25 cuts
  exact ⟨paced, forward, outcome, ended⟩

end Wait

end Provisioning
