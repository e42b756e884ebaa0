import Provisioning.Proofs.ProgramLogic
import Provisioning.Power

/-!
Journals. An observer stands between a program and its remote and writes down every call with its
answer, its start and its end. The observer changes nothing, so what it has written down tells what
a program does whatever the remote answers. The rules for waits and for power requests keep an
invariant from round to round.
-/

namespace Provisioning

/-- An entry has a request, its answer, and the timelines at which the call began and ended. -/
structure Entry (σ : Signature) where
  request : σ.Request
  answer : Except RemoteError (σ.Answer request)
  started : Timeline
  completed : Timeline

/-- An observed store is a store with the journal of the calls so far, earliest first. -/
structure Observed (σ : Signature) (Store : Type) where
  store : Store
  journal : List (Entry σ)

variable {σ : Signature} {Store α : Type}

/-- An observed remote answers as before, and each call is written down. -/
def Remote.observed (remote : Remote σ Store) : Remote σ (Observed σ Store) :=
  fun context request world =>
    let (answer, after) := remote context request ⟨world.timeline, world.store.store⟩
    let entry : Entry σ := ⟨request, answer, world.timeline, after.timeline⟩
    (answer, ⟨after.timeline, ⟨after.store, world.store.journal ++ [entry]⟩⟩)

/-- The observer begins with an empty journal. -/
def World.watched (world : World Store) : World (Observed σ Store) :=
  ⟨world.timeline, ⟨world.store, []⟩⟩

/-- This world is the one that the program itself meets. -/
def World.unwatched (world : World (Observed σ Store)) : World Store :=
  ⟨world.timeline, world.store.store⟩

/-- A journal that grows by one entry is divided by it, or by an entry that it had before. -/
theorem Entry.division_of_append {journal history later : List (Entry σ)} {last entry : Entry σ}
    (grown : journal ++ [last] = history ++ entry :: later) :
    journal = history ∧ last = entry ∧ later = [] ∨
      ∃ earlier, later = earlier ++ [last] ∧ journal = history ++ entry :: earlier := by
  rcases List.eq_nil_or_concat later with rfl | ⟨earlier, final, rfl⟩
  · obtain ⟨same, final⟩ := List.append_inj' grown rfl
    exact .inl ⟨same, (List.cons.inj final).1, rfl⟩
  · rw [List.concat_eq_append, ← List.cons_append, ← List.append_assoc] at grown
    obtain ⟨same, final⟩ := List.append_inj' grown rfl
    obtain ⟨rfl, -⟩ := List.cons.inj final
    exact .inr ⟨earlier, List.concat_eq_append, same⟩

namespace Program

/-- The journal of a run has all its calls in order. -/
def journal (context : Context) (remote : Remote σ Store) (program : Program σ α)
    (world : World Store) : List (Entry σ) :=
  (program.run context remote.observed world.watched).2.store.journal

/-- The observer changes neither the outcome of a run nor the world that it leaves behind. -/
theorem run_observed (context : Context) (remote : Remote σ Store) (program : Program σ α)
    (world : World (Observed σ Store)) :
    program.run context remote world.unwatched =
      ((program.run context remote.observed world).1,
        (program.run context remote.observed world).2.unwatched) := by
  induction program generalizing world with
  | done value => rfl
  | call request next inductionHypothesis =>
      let answered := remote.observed context request world
      exact inductionHypothesis answered.1 answered.2
  | clock next inductionHypothesis => exact inductionHypothesis world.timeline.now world
  | check next inductionHypothesis =>
      exact inductionHypothesis (context.check world.timeline) world
  | sleep span next inductionHypothesis =>
      let slept := context.sleep span world.timeline
      exact inductionHypothesis slept.1 { world with timeline := slept.2 }

/-- A run adds its journal to what was written down before it. -/
theorem run_observed_journal (context : Context) (remote : Remote σ Store) (program : Program σ α)
    (world : World (Observed σ Store)) :
    (program.run context remote.observed world).2.store.journal =
      world.store.journal ++ program.journal context remote world.unwatched := by
  suffices grows : ∀ (timeline : Timeline) (store : Store) (earlier journal : List (Entry σ)),
      (program.run context remote.observed
          ⟨timeline, ⟨store, earlier ++ journal⟩⟩).2.store.journal =
        earlier ++
          (program.run context remote.observed ⟨timeline, ⟨store, journal⟩⟩).2.store.journal by
    have grown := grows world.timeline world.store.store world.store.journal []
    rwa [List.append_nil] at grown
  intro timeline store earlier journal
  induction program generalizing timeline store journal with
  | done value => rfl
  | call request next inductionHypothesis =>
      simp only [run, Remote.observed, List.append_assoc]
      exact inductionHypothesis _ _ _ _
  | clock next inductionHypothesis => exact inductionHypothesis _ _ _ _
  | check next inductionHypothesis => exact inductionHypothesis _ _ _ _
  | sleep span next inductionHypothesis => exact inductionHypothesis _ _ _ _

/-- The journal of a program that begins with a call begins with the entry of that call. -/
theorem journal_call (context : Context) (remote : Remote σ Store) (request : σ.Request)
    (next : Except RemoteError (σ.Answer request) → Program σ α) (world : World Store) :
    (Program.call request next).journal context remote world =
      ⟨request, (remote context request world).1, world.timeline,
          (remote context request world).2.timeline⟩ ::
        (next (remote context request world).1).journal context remote
          (remote context request world).2 :=
  run_observed_journal context remote (next (remote context request world).1)
    (remote.observed context request world.watched).2

/-- The journal of a sequence has the calls of its first part and then those of its second part. -/
theorem journal_bind {β : Type} (context : Context) (remote : Remote σ Store)
    (program : Program σ α) (continuation : α → Program σ β) (world : World Store) :
    (program >>= continuation).journal context remote world =
      program.journal context remote world ++
        (continuation (program.run context remote world).1).journal context remote
          (program.run context remote world).2 := by
  have same := run_observed context remote program world.watched
  change program.run context remote world = _ at same
  rw [journal, run_bind, run_observed_journal, same]
  rfl

section Sequence

variable {ε β : Type} {context : Context} {remote : Remote σ Store} {world after : World Store}
  {program : ExceptT ε (Program σ) α}

/-- A sequence goes on to its second part when its first part succeeds, and so does its journal. -/
theorem run_bind_of_ok {value : α} (rest : α → ExceptT ε (Program σ) β)
    (succeeded : program.run.run context remote world = (.ok value, after)) :
    (program >>= rest).run.run context remote world =
        (rest value).run.run context remote after ∧
      (program >>= rest).run.journal context remote world =
        program.run.journal context remote world ++
          (rest value).run.journal context remote after := by
  rw [ExceptT.run_bind, run_bind, journal_bind, succeeded]
  exact ⟨rfl, rfl⟩

/-- A sequence stops when its first part fails, and so does its journal. -/
theorem run_bind_of_error {error : ε} (rest : α → ExceptT ε (Program σ) β)
    (failed : program.run.run context remote world = (.error error, after)) :
    (program >>= rest).run.run context remote world = (.error error, after) ∧
      (program >>= rest).run.journal context remote world =
        program.run.journal context remote world := by
  rw [ExceptT.run_bind, run_bind, journal_bind, failed]
  exact ⟨rfl, List.append_nil _⟩

end Sequence

section Rules

variable {ε : Type} {context : Context} {remote : Remote σ Store}

/-- What an observed run yields holds of the outcome of the run itself, of the world that it leaves
behind, and of its journal. -/
theorem Yields.journal {program : ExceptT ε (Program σ) α} {world : World Store}
    (holds : Except ε α → World Store → List (Entry σ) → Prop)
    (yields : Yields context remote.observed program world.watched
      (fun value after => holds (.ok value) after.unwatched after.store.journal)
      (fun error after => holds (.error error) after.unwatched after.store.journal)) :
    holds (program.run.run context remote world).1 (program.run.run context remote world).2
      (program.run.journal context remote world) := by
  have same := run_observed context remote program.run world.watched
  change program.run.run context remote world = _ at same
  unfold Yields at yields
  rw [same, Program.journal]
  generalize program.run.run context remote.observed world.watched = result at yields
  obtain ⟨outcome, after⟩ := result
  cases outcome <;> exact yields

/-- What a run yields, it yields while it is observed. -/
theorem Yields.watched {program : ExceptT ε (Program σ) α} {world : World (Observed σ Store)}
    {succeeds : α → World Store → Prop} {fails : ε → World Store → Prop}
    (yields : Yields context remote program world.unwatched succeeds fails) :
    Yields context remote.observed program world (fun value after => succeeds value after.unwatched)
      (fun error after => fails error after.unwatched) := by
  have same := run_observed context remote program.run world
  change program.run.run context remote world.unwatched = _ at same
  unfold Yields at yields ⊢
  rw [same] at yields
  generalize program.run.run context remote.observed world = result at yields ⊢
  obtain ⟨outcome, after⟩ := result
  cases outcome <;> exact yields

/-- An observed call is written down, whatever its answer is. -/
theorem Yields.answered {request : σ.Request} {world : World (Observed σ Store)}
    {succeeds : σ.Answer request → World (Observed σ Store) → Prop}
    {fails : RemoteError → World (Observed σ Store) → Prop}
    (onSuccess : ∀ value after, after.store.journal = world.store.journal ++
      [⟨request, .ok value, world.timeline, after.timeline⟩] → succeeds value after)
    (onFailure : ∀ error after, after.store.journal = world.store.journal ++
      [⟨request, .error error, world.timeline, after.timeline⟩] → fails error after) :
    Yields context remote.observed (Attempt.request request) world succeeds fails := by
  rw [yields_request, Remote.observed]
  rcases remote context request ⟨world.timeline, world.store.store⟩ with ⟨answer, after⟩
  cases answer with
  | ok value => exact onSuccess value _ rfl
  | error error => exact onFailure error _ rfl

end Rules

end Program

open Program

section Rounds

variable {ρ μ : Type} {context : Context} {remote : Remote σ Store} {fails : World Store → Prop}

/-- What holds however late it is holds after a pause, whether or not the pause is interrupted. -/
theorem Program.yields_rested {span : Nat} {action : String} {world : World Store}
    {succeeds : World Store → Prop}
    (rests : ∀ timeline, succeeds { world with timeline })
    (breaks : ∀ timeline, fails { world with timeline }) :
    Yields context remote (Provision.pause span action) world (fun _ after => succeeds after)
      (fun _ after => fails after) := by
  rw [yields_pause]
  split
  · exact rests _
  · exact breaks _

/-- A poll is followed round by round, with the errors that end it. The invariant knows how many
rounds are left, each look starts in a live context, and the pause after it leads to the next round
or ends the poll. -/
theorem Wait.pollUntil_rounds {action : String} {interval deadline : Nat}
    {probe : μ → Attempt σ (ρ × μ)} {accepts : ρ → Bool}
    (invariant : Nat → μ → World Store → Prop) (accepted : ρ → World Store → Prop)
    (failed : ProvisionError → World Store → Prop)
    (looks : ∀ rounds memory world, invariant (rounds + 1) memory world →
      context.check world.timeline = none →
      Yields context remote (probe memory) world
        (fun seen after =>
          if accepts seen.1 then accepted seen.1 after
          else if deadline ≤ after.timeline.now then failed (.timeout action) after
          else Yields context remote (Provision.pause interval action) after
            (fun _ rested => invariant rounds seen.2 rested) failed)
        (fun error after => failed (.ofRemote action error) after))
    (exhausted : ∀ memory world, invariant 0 memory world → failed (.timeout action) world)
    (interrupted : ∀ rounds memory world, invariant (rounds + 1) memory world →
      ∀ interruption, context.check world.timeline = some interruption →
        failed (interruption.error action) world)
    (rounds : Nat) {memory : μ} {world : World Store} (here : invariant rounds memory world) :
    Yields context remote (pollUntil action interval deadline probe accepts rounds memory) world
      accepted failed := by
  -- Each round starts with the memory of the look before it.
  induction rounds generalizing memory world with
  | zero => exact exhausted memory world here
  | succ rounds inductionHypothesis =>
      rw [pollUntil, yields_bind, yields_check]
      split
      next live =>
        rw [yields_bind, yields_during]
        apply (looks rounds memory world here live).mono _ fun _ _ error => error
        rintro ⟨state, memory⟩ after seen
        dsimp only at seen ⊢
        split at seen
        next found =>
          rw [if_pos found]
          exact seen
        next missed =>
          rw [if_neg missed, yields_bind, yields_now, yields_ite]
          split at seen
          next late =>
            rw [if_pos late]
            exact seen
          next early =>
            rw [if_neg early]
            exact seen.bind fun _ _ rested => inductionHypothesis rested
      next interruption dead => exact interrupted rounds memory world here interruption dead

/-- Where the error does not matter, all the ends of a poll without an accepted state are alike. -/
theorem Wait.pollUntil_byRound {action : String} {interval deadline : Nat}
    {probe : μ → Attempt σ (ρ × μ)} {accepts : ρ → Bool}
    (invariant : Nat → μ → World Store → Prop) (accepted : ρ → World Store → Prop)
    (looks : ∀ rounds memory world, invariant (rounds + 1) memory world →
      context.check world.timeline = none →
      Yields context remote (probe memory) world
        (fun seen after =>
          if accepts seen.1 then accepted seen.1 after
          else if deadline ≤ after.timeline.now then fails after
          else Yields context remote (Provision.pause interval action) after
            (fun _ rested => invariant rounds seen.2 rested) (fun _ rested => fails rested))
        (fun _ after => fails after))
    (stops : ∀ rounds memory world, invariant rounds memory world →
      rounds = 0 ∨ context.check world.timeline ≠ none → fails world)
    (rounds : Nat) {memory : μ} {world : World Store} (here : invariant rounds memory world) :
    Yields context remote (pollUntil action interval deadline probe accepts rounds memory) world
      accepted (fun _ after => fails after) := by
  refine pollUntil_rounds invariant accepted (fun _ after => fails after) looks ?_ ?_ rounds here
  · exact fun memory world here => stops 0 memory world here (.inl rfl)
  · intro rounds memory world here interruption dead
    exact stops _ memory world here (.inr fun live => nomatch live.symm.trans dead)

/-- A poll keeps an invariant that holds from look to look and while time passes. -/
theorem Wait.pollUntil_keeps {action : String} {interval deadline : Nat}
    {probe : μ → Attempt σ (ρ × μ)} {accepts : ρ → Bool}
    (invariant : μ → World Store → Prop) (accepted : ρ → World Store → Prop)
    (looks : ∀ memory world, invariant memory world →
      Yields context remote (probe memory) world
        (fun seen after =>
          if accepts seen.1 then accepted seen.1 after else invariant seen.2 after)
        (fun _ after => fails after))
    (rests : ∀ memory world timeline, invariant memory world →
      invariant memory { world with timeline })
    (stops : ∀ memory world, invariant memory world → fails world)
    (rounds : Nat) {memory : μ} {world : World Store} (here : invariant memory world) :
    Yields context remote (pollUntil action interval deadline probe accepts rounds memory) world
      accepted (fun _ after => fails after) := by
  apply pollUntil_byRound (fun _ => invariant) accepted _
    (fun _ memory world here _ => stops memory world here) rounds here
  intro _ memory world here _
  apply (looks memory world here).mono _ fun _ _ failed => failed
  intro seen after goesOn
  split at goesOn
  next found =>
    rw [if_pos found]
    exact goesOn
  next missed =>
    rw [if_neg missed]
    split
    · exact stops _ after goesOn
    · apply yields_rested (fun timeline => rests _ after timeline goesOn)
      exact fun timeline => stops _ _ (rests _ after timeline goesOn)

/-- A wait keeps the invariant of its polls. -/
theorem Wait.forStateWith_keeps {action : String} {probe : μ → Attempt σ (ρ × μ)}
    {accepts : ρ → Bool} {options : WaitOptions} (invariant : μ → World Store → Prop)
    (accepted : ρ → World Store → Prop)
    (looks : ∀ memory world, invariant memory world →
      Yields context remote (probe memory) world
        (fun seen after =>
          if accepts seen.1 then accepted seen.1 after else invariant seen.2 after)
        (fun _ after => fails after))
    (rests : ∀ memory world timeline, invariant memory world →
      invariant memory { world with timeline })
    (stops : ∀ memory world, invariant memory world → fails world)
    {memory : μ} {world : World Store} (here : invariant memory world) :
    Yields context remote (forStateWith action probe accepts options memory) world accepted
      (fun _ after => fails after) := by
  rw [forStateWith, yields_bind, yields_now]
  exact pollUntil_keeps invariant accepted looks rests stops options.pollLimit here

/-- A request that is repeated is followed round by round with the errors that end it, as a poll
is. -/
theorem PowerHandler.requestRounds_rounds {handler : PowerHandler σ}
    {operation : PowerOperation} {policy : RetryPolicy} {start : Nat}
    (invariant : Nat → World Store → Prop) (accepted : World Store → Prop)
    (failed : ProvisionError → World Store → Prop)
    (asks : ∀ rounds world, invariant (rounds + 1) world → context.check world.timeline = none →
      Yields context remote (handler.request operation) world (fun _ after => accepted after)
        (fun error after =>
          if error.isStillCreating then
            Yields context remote
              (Provision.pause policy.initialRetrySpan (handler.action operation)) after
              (fun _ rested =>
                if start + policy.initialRequestTimeout ≤ rested.timeline.now then
                  failed (.timeout (handler.action operation)) rested
                else invariant rounds rested)
              failed
          else failed (.ofRemote (handler.action operation) error) after))
    (exhausted : ∀ world, invariant 0 world → failed (.timeout (handler.action operation)) world)
    (interrupted : ∀ rounds world, invariant (rounds + 1) world →
      ∀ interruption, context.check world.timeline = some interruption →
        failed (interruption.error (handler.action operation)) world)
    (rounds : Nat) {world : World Store} (here : invariant rounds world) :
    Yields context remote (handler.requestRounds operation policy start rounds) world
      (fun _ after => accepted after) failed := by
  induction rounds generalizing world with
  | zero => exact exhausted world here
  | succ rounds inductionHypothesis =>
      rw [requestRounds, yields_bind, yields_check]
      split
      next live =>
        rw [yields_bind, yields_outcome]
        apply (asks rounds world here live).mono
        · exact fun _ _ done => done
        · intro error after refused
          dsimp only
          split at refused
          next creating =>
            rw [if_pos creating]
            apply refused.bind
            intro _ rested goesOn
            rw [yields_bind, yields_now, yields_ite]
            split at goesOn
            next late =>
              rw [if_pos late]
              exact goesOn
            next early =>
              rw [if_neg early]
              exact inductionHypothesis goesOn
          next final =>
            rw [if_neg final]
            exact refused
      next interruption dead => exact interrupted rounds world here interruption dead

/-- Where the error does not matter, all the ends without an accepted request are alike. -/
theorem PowerHandler.requestRounds_byRound {handler : PowerHandler σ}
    {operation : PowerOperation} {policy : RetryPolicy} {start : Nat}
    (invariant : Nat → World Store → Prop) (accepted : World Store → Prop)
    (asks : ∀ rounds world, invariant (rounds + 1) world → context.check world.timeline = none →
      Yields context remote (handler.request operation) world (fun _ after => accepted after)
        (fun error after =>
          if error.isStillCreating then
            Yields context remote
              (Provision.pause policy.initialRetrySpan (handler.action operation)) after
              (fun _ rested =>
                if start + policy.initialRequestTimeout ≤ rested.timeline.now then fails rested
                else invariant rounds rested)
              (fun _ rested => fails rested)
          else fails after))
    (stops : ∀ rounds world, invariant rounds world →
      rounds = 0 ∨ context.check world.timeline ≠ none → fails world)
    (rounds : Nat) {world : World Store} (here : invariant rounds world) :
    Yields context remote (handler.requestRounds operation policy start rounds) world
      (fun _ after => accepted after) (fun _ after => fails after) := by
  refine requestRounds_rounds invariant accepted (fun _ after => fails after) asks ?_ ?_ rounds here
  · exact fun world here => stops 0 world here (.inl rfl)
  · intro rounds world here interruption dead
    exact stops _ world here (.inr fun live => nomatch live.symm.trans dead)

/-- A request that is repeated while it is refused keeps an invariant until it is accepted. -/
theorem PowerHandler.requestUntilAccepted_keeps {handler : PowerHandler σ}
    {operation : PowerOperation} {policy : RetryPolicy} (invariant accepted : World Store → Prop)
    (asks : ∀ world, invariant world →
      Yields context remote (handler.request operation) world (fun _ after => accepted after)
        (fun error after => if error.isStillCreating then invariant after else fails after))
    (rests : ∀ world timeline, invariant world → invariant { world with timeline })
    (stops : ∀ world, invariant world → fails world)
    {world : World Store} (here : invariant world) :
    Yields context remote (handler.requestUntilAccepted operation policy) world
      (fun _ after => accepted after) (fun _ after => fails after) := by
  rw [requestUntilAccepted, yields_bind, yields_now]
  apply requestRounds_byRound (fun _ => invariant) accepted _
    (fun _ world here _ => stops world here) policy.requestLimit here
  intro _ world here _
  apply (asks world here).mono (fun _ _ done => done)
  intro error after refused
  split at refused
  next creating =>
    rw [if_pos creating]
    apply yields_rested
    · intro timeline
      have rested := rests after timeline refused
      dsimp only
      split
      · exact stops _ rested
      · exact rested
    · exact fun timeline => stops _ (rests after timeline refused)
  next final =>
    rw [if_neg final]
    exact refused

/-- A switch that takes effect with its request keeps the effect. The first look confirms it, so no
request is issued again. -/
theorem PowerHandler.switch_keeps {handler : PowerHandler σ} {operation : PowerOperation}
    {timing : Timing} {noWait : Bool} (before after : Store → Prop)
    (requests : ∀ world, before world.store →
      Yields context remote (handler.request operation) world (fun _ now => after now.store)
        (fun error now => error.isStillCreating → before now.store))
    (statuses : ∀ world, after world.store →
      Yields context remote handler.status world
        (fun status now => status = operation.target ∧ after now.store) (fun _ _ => True))
    {world : World Store} (here : before world.store) :
    Yields context remote (handler.switch operation timing noWait) world
      (fun _ now => after now.store) (fun _ _ => True) := by
  have accepted : Yields context remote
      (handler.requestUntilAccepted operation timing.power) world
      (fun _ now => after now.store) (fun _ _ => True) := by
    apply requestUntilAccepted_keeps (fun now => before now.store) (fun now => after now.store) _
      (fun _ _ kept => kept) (fun _ _ => trivial) here
    intro now kept
    apply (requests now kept).mono (fun _ _ done => done)
    intro error last refused
    split
    next creating => exact refused creating
    next => trivial
  have other : operation.target ≠ operation.opposite := by cases operation <;> nofun
  apply accepted.bind
  intro _ switched effect
  split
  · exact effect
  · rw [confirm, yields_bind, yields_now]
    apply Yields.bind (Wait.forStateWith_keeps (fun _ now => after now.store)
      (fun _ now => after now.store) _ (fun _ _ _ kept => kept) (fun _ _ _ => trivial) effect)
    · exact fun _ _ confirmed => confirmed
    · intro lastRequest now effect
      rw [confirmation]
      apply (statuses now effect).bind
      rintro status last ⟨rfl, effect⟩
      rw [yields_bind, yields_clock, if_neg fun both => other both.1, yields_pure]
      split
      · exact effect
      · exact effect

/-- A re-issue passes over a conflict and fails with every other failure of its request. -/
theorem PowerHandler.yields_reissue {handler : PowerHandler σ} {operation : PowerOperation}
    {world : World Store} {succeeds : Unit → World Store → Prop}
    {fails : RemoteError → World Store → Prop} :
    Yields context remote (handler.reissue operation) world succeeds fails ↔
      Yields context remote (handler.request operation) world succeeds
        (fun error after => if error.isConflict then succeeds () after else fails error after) := by
  unfold Yields PowerHandler.reissue
  rw [ExceptT.run_mk, run_bind]
  rcases (handler.request operation).run.run context remote world with ⟨answer, after⟩
  cases answer with
  | ok value => rfl
  | error error =>
      dsimp only
      cases error.isConflict <;> rfl

end Rounds

end Provisioning
