import Provisioning.Proofs.Reissue

/-!
Power requests and the end of their context. The context is checked before each request of the first
phase and before each status read, but not between a status read and the re-issue that follows it.
The main statement says exactly which requests begin when the context is already over.
-/

namespace Provisioning

/-- Each call of a journal has a property, given the calls before it. -/
def EachCall {σ : Signature} (property : List (Entry σ) → Entry σ → Prop)
    (journal : List (Entry σ)) : Prop :=
  ∀ history entry later, journal = history ++ entry :: later → property history entry

theorem EachCall.nil {σ : Signature} {property : List (Entry σ) → Entry σ → Prop} :
    EachCall property [] :=
  fun _ _ _ divided => absurd divided.symm (List.append_ne_nil_of_right_ne_nil _ nofun)

/-- A property of each call of a journal holds of one more call that has it. -/
theorem EachCall.append {σ : Signature} {property : List (Entry σ) → Entry σ → Prop}
    {journal : List (Entry σ)} {last : Entry σ} (each : EachCall property journal)
    (holds : property journal last) : EachCall property (journal ++ [last]) := by
  intro history entry later divided
  rcases Entry.division_of_append divided with ⟨rfl, rfl, -⟩ | ⟨earlier, -, before⟩
  · exact holds
  · exact each history entry earlier before

namespace PowerSwitch

open Program

/-- A request right after a status read begins as the read ends. Every other call begins in a live
context, and so did the call before it end. -/
def Prompt (context : Context) (history : List (Entry PowerSwitch)) (entry : Entry PowerSwitch) :
    Prop :=
  match history.getLast? with
  | none => context.check entry.started = none
  | some last =>
      if asked? last = none ∧ asked? entry ≠ none then last.completed = entry.started
      else context.check entry.started = none ∧ context.check last.completed = none

variable {Store : Type} {context : Context} {remote : Remote PowerSwitch Store} {name : String}
  {operation : PowerOperation} {world : World (Observed PowerSwitch Store)}

/-- Before the next call, a live context was live when the last call ended. -/
structure Ready (context : Context) (world : World (Observed PowerSwitch Store)) : Prop where
  prompt : EachCall (Prompt context) world.store.journal
  last : context.check world.timeline = none → ∀ last ∈ world.store.journal.getLast?,
    context.check last.completed = none

/-- Right after a call no time has passed since. -/
structure Called (context : Context) (world : World (Observed PowerSwitch Store)) : Prop where
  prompt : EachCall (Prompt context) world.store.journal
  last : ∀ last ∈ world.store.journal.getLast?, last.completed = world.timeline

/-- Right after a call the context is ready for the next one. -/
theorem Called.ready (called : Called context world) : Ready context world where
  prompt := called.prompt
  last live last member := called.last last member ▸ live

/-- A pause that nothing interrupts starts in a live context. -/
theorem Called.rests (called : Called context world) {span : Nat} {timeline : Timeline}
    (slept : context.sleep span world.timeline = (none, timeline)) :
    Ready context { world with timeline } where
  prompt := called.prompt
  last _ last member := called.last last member ▸ (Context.of_sleep slept).1

/-- A call after a check is prompt unless it is a request right after a status read. -/
theorem Ready.calls (ready : Ready context world) (live : context.check world.timeline = none)
    {entry : Entry PowerSwitch} (starts : entry.started = world.timeline)
    (other : asked? entry = none ∨ ∀ last ∈ world.store.journal.getLast?, asked? last ≠ none) :
    EachCall (Prompt context) (world.store.journal ++ [entry]) := by
  apply ready.prompt.append
  unfold Prompt
  have ended := ready.last live
  cases before : world.store.journal.getLast? with
  | none =>
      rw [starts]
      exact live
  | some last =>
      have separate : ¬ (asked? last = none ∧ asked? entry ≠ none) := by
        rintro ⟨reads, asks⟩
        rcases other with looks | requests
        · exact asks looks
        · exact requests last before reads
      dsimp only
      rw [if_neg separate, starts]
      exact ⟨live, ended last before⟩

/-- A program has just called when the last entry of the journal ends at the present time. -/
theorem Called.of_append {after : World (Observed PowerSwitch Store)}
    {journal : List (Entry PowerSwitch)} {entry : Entry PowerSwitch}
    (written : after.store.journal = journal ++ [entry]) (ends : entry.completed = after.timeline)
    (prompt : EachCall (Prompt context) (journal ++ [entry])) : Called context after where
  prompt := written ▸ prompt
  last last member := by
    rw [written, List.getLast?_concat] at member
    cases member
    exact ends

/-- The first request and its repetitions begin in a live context. -/
theorem requests_called (policy : RetryPolicy) (empty : world.store.journal = []) :
    Yields context remote.observed ((handler name).requestUntilAccepted operation policy) world
      (fun _ after => Called context after)
      (fun _ after => EachCall (Prompt context) after.store.journal) := by
  rw [PowerHandler.requestUntilAccepted, yields_bind, yields_now]
  apply PowerHandler.requestRounds_byRound
    (fun _ world => Ready context world ∧
      ∀ last ∈ world.store.journal.getLast?, asked? last ≠ none)
    (Called context) _ (fun _ _ here _ => here.1.prompt) policy.requestLimit
  · have ready : Ready context world := ⟨empty ▸ .nil, by simp [empty]⟩
    exact ⟨ready, by simp [empty]⟩
  · rintro _ world ⟨ready, requests⟩ live
    have called : ∀ answer (after : World (Observed PowerSwitch Store)),
        after.store.journal =
          world.store.journal ++ [⟨.operate operation, answer, world.timeline, after.timeline⟩] →
        Called context after :=
      fun _ _ written => .of_append written rfl (ready.calls live rfl (.inr requests))
    apply Yields.answered
    · exact fun value after written => called (.ok value) after written
    · intro error after written
      have refused := called (.error error) after written
      split
      next =>
        rw [yields_pause]
        split
        next timeline slept =>
          have rested := refused.rests slept
          split
          · exact rested.prompt
          · refine ⟨rested, fun last member => ?_⟩
            rw [written, List.getLast?_concat] at member
            cases member
            exact Option.some_ne_none _
        next => exact refused.prompt
      next => exact refused.prompt

/-- A status read begins in a live context, and a re-issue begins as the read ends. -/
theorem confirmation_called {span lastRequest : Nat} (ready : Ready context world)
    (live : context.check world.timeline = none) :
    Yields context remote.observed ((handler name).confirmation operation span lastRequest) world
      (fun _ after => Called context after)
      (fun _ after => EachCall (Prompt context) after.store.journal) := by
  rw [PowerHandler.confirmation, yields_bind]
  apply Yields.answered
  · intro status seen written
    have looked : Called context seen := .of_append written rfl (ready.calls live rfl (.inl rfl))
    rw [yields_bind, yields_clock, yields_ite]
    split
    next =>
      simp only [yields_bind, yields_clock, yields_pure]
      rw [PowerHandler.yields_reissue]
      -- No check stands between the look and the request, so only their times are known to meet.
      have reissued : ∀ answer (after : World (Observed PowerSwitch Store)),
          after.store.journal =
            seen.store.journal ++ [⟨.operate operation, answer, seen.timeline, after.timeline⟩] →
          Called context after := by
        intro answer after issued
        apply Called.of_append issued rfl
        apply looked.prompt.append
        rw [written, Prompt, List.getLast?_concat]
        exact rfl
      apply Yields.answered
      · exact fun value after issued => reissued (.ok value) after issued
      · intro error after issued
        split
        · exact reissued (.error error) after issued
        · exact (reissued (.error error) after issued).prompt
    next => exact looked
  · intro error after written
    rw [written]
    exact ready.calls live rfl (.inl rfl)

/-- Every call of a switch is prompt. -/
theorem switch_prompt (timing : Timing) (noWait : Bool) (empty : world.store.journal = []) :
    Yields context remote.observed ((handler name).switch operation timing noWait) world
      (fun _ after => EachCall (Prompt context) after.store.journal)
      (fun _ after => EachCall (Prompt context) after.store.journal) := by
  rw [PowerHandler.switch, yields_bind]
  apply (requests_called timing.power empty).mono _ fun _ _ prompt => prompt
  intro _ after accepted
  cases noWait with
  | true => exact accepted.prompt
  | false =>
      rw [if_neg Bool.false_ne_true, PowerHandler.confirm, yields_bind, yields_now, yields_bind]
      rw [Wait.forStateWith, yields_bind, yields_now]
      apply Wait.pollUntil_byRound (fun _ _ world => Ready context world)
        (fun _ world => EachCall (Prompt context) world.store.journal) _
        (fun _ _ _ ready _ => ready.prompt) timing.wait.pollLimit accepted.ready
      intro _ lastRequest world ready live
      apply (confirmation_called ready live).mono _ fun _ _ prompt => prompt
      intro seen after called
      split
      · exact called.prompt
      · split
        · exact called.prompt
        · rw [yields_pause]
          split
          next timeline slept => exact called.rests slept
          next => exact called.prompt

section Journals

variable {history later journal : List (Entry PowerSwitch)} {entry : Entry PowerSwitch}

/-- A call of a prompt journal that does not follow a status read by a request begins live. -/
theorem Prompt.live_or_overtaken (prompt : Prompt context history entry) :
    context.check entry.started = none ∨ asked? entry ≠ none ∧ ∃ earlier look,
      history = earlier ++ [look] ∧ asked? look = none ∧ look.completed = entry.started := by
  rcases List.eq_nil_or_concat history with rfl | ⟨earlier, last, rfl⟩
  · exact .inl prompt
  · rw [List.concat_eq_append, Prompt, List.getLast?_concat] at prompt
    dsimp only at prompt
    split at prompt
    next separate =>
      exact .inr ⟨separate.2, earlier, last, List.concat_eq_append, separate.1, prompt⟩
    next => exact .inl prompt.1

/-- A look of a prompt journal begins live. -/
theorem Prompt.look_live (prompt : Prompt context history entry) (looks : asked? entry = none) :
    context.check entry.started = none := by
  rcases prompt.live_or_overtaken with live | ⟨asks, -⟩
  · exact live
  · exact absurd looks asks

/-- A request right after a look begins as the look ends. -/
theorem Prompt.follows {look : Entry PowerSwitch}
    (prompt : Prompt context (history ++ [look]) entry)
    (looks : asked? look = none) (asks : asked? entry ≠ none) :
    look.completed = entry.started := by
  rw [Prompt, List.getLast?_concat] at prompt
  dsimp only at prompt
  rwa [if_pos ⟨looks, asks⟩] at prompt

/-- A call after a request finds that the request ended in a live context. -/
theorem Prompt.ended_live {request : Entry PowerSwitch}
    (prompt : Prompt context (history ++ [request]) entry) (asks : asked? request ≠ none) :
    context.check request.completed = none := by
  rw [Prompt, List.getLast?_concat] at prompt
  dsimp only at prompt
  rw [if_neg fun both => asks both.1] at prompt
  exact prompt.2

end Journals

/-- A request that begins after the end of its context is overtaken by it. Take any switch, whatever
it answers, however long it takes and whenever the context ends. A call begins in a context that is
over exactly when it is a request right after a status read that began in the live context, and the
context ended during that read. A request that ends in a context that is over is the last call. -/
theorem begins_late_iff_overtaken (name : String) (operation : PowerOperation) (timing : Timing)
    (noWait : Bool) (context : Context) (remote : Remote PowerSwitch Store) (world : World Store) :
    let journal := ((handler name).switch operation timing noWait).run.journal context remote world
    (∀ history entry later, journal = history ++ entry :: later →
      (context.check entry.started ≠ none ↔ asked? entry ≠ none ∧ ∃ earlier look,
        history = earlier ++ [look] ∧ asked? look = none ∧ context.check look.started = none ∧
          context.check look.completed ≠ none)) ∧
    ∀ history request later, journal = history ++ request :: later → asked? request ≠ none →
      context.check request.completed ≠ none → later = [] := by
  intro journal
  have each : EachCall (Prompt context) journal :=
    Yields.journal (fun _ (_ : World Store) journal => EachCall (Prompt context) journal)
      (switch_prompt timing noWait rfl)
  constructor
  · intro history entry later divided
    have prompt := each history entry later divided
    constructor
    · intro late
      obtain live | ⟨asks, earlier, look, rfl, looks, meets⟩ := prompt.live_or_overtaken
      · exact absurd live late
      · have before : journal = earlier ++ look :: entry :: later := by
          rw [divided, List.append_assoc, List.singleton_append]
        have began := (each earlier look _ before).look_live looks
        exact ⟨asks, earlier, look, rfl, looks, began, meets ▸ late⟩
    · rintro ⟨asks, earlier, look, rfl, looks, -, ended⟩
      exact prompt.follows looks asks ▸ ended
  · intro history request later divided asks ended
    cases later with
    | nil => rfl
    | cons next rest =>
        have after : journal = (history ++ [request]) ++ next :: rest := by
          rw [divided, List.append_assoc, List.singleton_append]
        exact absurd ((each _ next rest after).ended_live asks) ended

/-- A boot is issued again although its context was cancelled during the status read. -/
theorem boot_is_overtaken :
    let context : Context := ⟨⟨[0]⟩, none⟩
    let script : PowerScript := ⟨[], [⟨10, true, .ok .down⟩], []⟩
    let journal := ((handler "server 1").switch .boot (Timing.uniform 10 100) false).run.journal
      context PowerScript.remote ⟨⟨0, 1, [], none⟩, script⟩
    ¬ ∀ request ∈ journal, asked? request ≠ none → context.check request.started = none := by
  decide

end PowerSwitch

end Provisioning
