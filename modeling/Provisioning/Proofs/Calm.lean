import Provisioning.Proofs.Footprint
import Provisioning.Proofs.ProgramLogic

/-!
Calm runs on a cloud. A run is calm when nothing interferes with it, provided that the circumstances
are quiet: its context stays live and no failure is announced. A statement about calm runs therefore
says what quiet circumstances guarantee, and what holds in any circumstances.
-/

namespace Provisioning

namespace Context

/-- A spared context is not cancelled, and no alarm is going to cancel it. -/
structure Spared (context : Context) (timeline : Timeline) : Prop where
  running : context.isCancelled timeline = false
  undisturbed : ∀ alarm, timeline.alarm = some alarm → context.token.isBelow alarm.token = false

/-- A live context is not cancelled, has no deadline, and no alarm is going to cancel it. -/
structure Live (context : Context) (timeline : Timeline) : Prop where
  running : context.isCancelled timeline = false
  endless : context.deadline = none
  undisturbed : ∀ alarm, timeline.alarm = some alarm → context.token.isBelow alarm.token = false

variable {context : Context} {timeline : Timeline}

namespace Spared

/-- A spared context is spared at any later instant. -/
theorem advanceTo (spared : context.Spared timeline) (instant : Nat) :
    context.Spared (timeline.advanceTo instant) := by
  obtain ⟨now, issued, cancelled, alarm⟩ := timeline
  cases alarm with
  | none => exact ⟨spared.running, spared.undisturbed⟩
  | some alarm =>
      rw [Timeline.advanceTo]
      dsimp only
      split
      · refine ⟨?_, by rintro _ ⟨⟩⟩
        have other := spared.undisturbed alarm rfl
        have running := spared.running
        simp only [isCancelled, Timeline.isCancelled, Timeline.cancel, Timeline.dropAlarm,
          List.any_cons, other, Bool.false_or] at running ⊢
        exact running
      · exact ⟨spared.running, spared.undisturbed⟩

/-- Nothing but its deadline ends a sleep of a spared context early. -/
theorem sleep (spared : context.Spared timeline) (span : Nat) :
    context.sleep span timeline =
      ((context.sleepEnd span timeline).2,
        timeline.advanceTo (context.sleepEnd span timeline).1) := by
  rw [Context.sleep, spared.running, if_neg Bool.false_ne_true]
  cases present : timeline.alarm with
  | none => rfl
  | some alarm =>
      dsimp only
      rw [spared.undisturbed alarm present, if_neg (fun both => Bool.false_ne_true both.1)]

end Spared

namespace Live

/-- A live context is spared. -/
theorem spared (live : context.Live timeline) : context.Spared timeline :=
  ⟨live.running, live.undisturbed⟩

/-- A check of a live context finds no interruption. -/
theorem check (live : context.Live timeline) : context.check timeline = none := by
  rw [Context.check, live.running, isExpired, live.endless]
  rfl

/-- A live context is live at any later instant. -/
theorem advanceTo (live : context.Live timeline) (instant : Nat) :
    context.Live (timeline.advanceTo instant) := by
  have later := live.spared.advanceTo instant
  exact ⟨later.running, live.endless, later.undisturbed⟩

/-- A sleep of a live context runs to its end. -/
theorem sleep (live : context.Live timeline) (span : Nat) :
    context.sleep span timeline = (none, timeline.advanceTo (timeline.now + span)) := by
  rw [live.spared.sleep, sleepEnd, live.endless]

end Live

end Context

/-- In quiet circumstances the context is live and no failure is announced. -/
structure Calm (quiet : Prop) (context : Context) (world : World Cloud) : Prop where
  live : quiet → context.Live world.timeline
  silent : quiet → world.store.failures = []

/-- In circumstances that are not quiet every run is calm. -/
theorem Calm.of_noisy {quiet : Prop} {context : Context} {world : World Cloud} (noisy : ¬ quiet) :
    Calm quiet context world :=
  ⟨fun silent => absurd silent noisy, fun silent => absurd silent noisy⟩

/-- A call never announces a failure. -/
theorem Request.Footprint.failures {request : Request} {before after : Cloud}
    (written : request.Footprint before after) : after.failures = before.failures := by
  cases request <;> rw [written]

/-- No call changes how many reads a new record needs. -/
theorem Request.Footprint.settleReads {request : Request} {before after : Cloud}
    (written : request.Footprint before after) : after.settleReads = before.settleReads := by
  cases request <;> rw [written]

namespace Program

variable {quiet : Prop} {context : Context} {world : World Cloud} {request : Request}

/-- The effect of an attempt matters in quiet circumstances only. -/
theorem Yields.when_quiet {α : Type} {attempt : Attempt CloudService α}
    {succeeds : α → World Cloud → Prop}
    (yields : quiet → Yields context Cloud.remote attempt world
      (fun value after => Calm quiet context after ∧ succeeds value after) (fun _ _ => ¬ quiet)) :
    Yields context Cloud.remote attempt world
      (fun value after => Calm quiet context after ∧ (quiet → succeeds value after))
      (fun _ _ => ¬ quiet) := by
  by_cases silent : quiet
  · exact (yields silent).mono (fun _ _ holds => ⟨holds.1, fun _ => holds.2⟩)
      (fun _ _ noisy => noisy)
  · exact .of_forall (fun _ _ => ⟨.of_noisy silent, fun quiet => absurd quiet silent⟩)
      (fun _ _ => silent)

/-- A call of a calm run is answered, or it fails because the circumstances are not quiet. -/
theorem yields_calm_attempt (calm : Calm quiet context world)
    {succeeds : request.Answer → World Cloud → Prop} {fails : RemoteError → World Cloud → Prop}
    (answered : (Cloud.answerRequest request).Yields
      (world.store.logging request world.store.failures)
      (fun value after => Calm quiet context { world with store := after } →
        succeeds value { world with store := after })
      (fun error after => Calm quiet context { world with store := after } →
        fails error { world with store := after }))
    (announced : ¬ quiet → ∀ error failures,
      fails error { world with store := world.store.logging request failures }) :
    Yields context Cloud.remote (Build.attempt request) world succeeds fails := by
  have outcome : match (Cloud.call request world.store).1 with
      | .ok value => succeeds value { world with store := (Cloud.call request world.store).2 }
      | .error error =>
          fails error { world with store := (Cloud.call request world.store).2 } := by
    refine Cloud.call_elim (motive := fun answer after =>
      match answer with
      | .ok value => succeeds value { world with store := after }
      | .error error => fails error { world with store := after }) ?_ ?_
    · intro error failures found
      apply announced
      intro quiet
      rw [calm.silent quiet] at found
      nomatch found
    · intro _
      have calmAfter : ∀ after, request.Footprint
          (world.store.logging request world.store.failures) after →
            Calm quiet context { world with store := after } := by
        intro after written
        refine ⟨calm.live, fun silent => ?_⟩
        exact written.failures.trans (calm.silent silent)
      apply (answered.and (Cloud.answerRequest_footprint request)).mono
      · rintro value after ⟨holds, written⟩
        exact holds (calmAfter after written)
      · rintro error after ⟨holds, written⟩
        exact holds (calmAfter after written)
  rw [yields_attempt, Cloud.remote]
  generalize Cloud.call request world.store = result at outcome ⊢
  obtain ⟨answer, after⟩ := result
  cases answer <;> exact outcome

/-- What a call keeps, an attempt to make the call keeps. -/
theorem yields_attempt_kept {invariant : Cloud → Prop}
    (kept : invariant (Cloud.call request world.store).2) :
    Yields context Cloud.remote (Build.attempt request) world (fun _ after => invariant after.store)
      (fun _ after => invariant after.store) := by
  rw [yields_attempt, Cloud.remote]
  generalize Cloud.call request world.store = result at kept ⊢
  obtain ⟨answer, after⟩ := result
  cases answer <;> exact kept

/-- A call that the cloud does not refuse in quiet circumstances fails only with an excuse. -/
theorem yields_calm_call (calm : Calm quiet context world) {label : String}
    {succeeds : request.Answer → World Cloud → Prop}
    (answered : (Cloud.answerRequest request).Yields
      (world.store.logging request world.store.failures)
      (fun value after => Calm quiet context { world with store := after } →
        succeeds value { world with store := after })
      (fun _ _ => ¬ quiet)) :
    Yields context Cloud.remote (Build.call label request) world succeeds
      (fun error _ => error.Excused quiet) := by
  rw [Build.call, yields_during]
  apply yields_calm_attempt calm
  · apply answered.mono
    · exact fun value after holds => holds
    · intro error after noisy _
      exact ⟨noisy, ProvisionError.not_isValidation_ofRemote _ _⟩
  · intro noisy error failures
    exact ⟨noisy, ProvisionError.not_isValidation_ofRemote _ _⟩

/-- A call whose failure does not matter is answered by the cloud. -/
theorem yields_calm_look (calm : Calm quiet context world) {label : String}
    {succeeds : request.Answer → World Cloud → Prop}
    (answered : (Cloud.answerRequest request).Yields
      (world.store.logging request world.store.failures)
      (fun value after => Calm quiet context { world with store := after } →
        succeeds value { world with store := after })
      (fun _ _ => True)) :
    Yields context Cloud.remote (Build.call label request) world succeeds (fun _ _ => True) := by
  rw [Build.call, yields_during]
  apply yields_calm_attempt calm
  · exact answered.mono (fun _ _ holds => holds) (fun _ _ _ _ => trivial)
  · exact fun _ _ _ => trivial

/-- The check of a calm run fails only with an excuse. -/
theorem yields_calm_check (calm : Calm quiet context world) (action : String)
    {succeeds : Unit → World Cloud → Prop} {fails : ProvisionError → World Cloud → Prop}
    (goesOn : succeeds () world) (excused : ∀ error, error.Excused quiet → fails error world) :
    Yields context Cloud.remote (Provision.check action) world succeeds fails := by
  rw [yields_check]
  cases checked : context.check world.timeline with
  | none => exact goesOn
  | some interruption =>
      have noisy : ¬ quiet := fun silent => nomatch (calm.live silent).check ▸ checked
      exact excused _ ⟨noisy, Interruption.not_isValidation _ _⟩

/-- A pause of a calm run fails only with an excuse, and time goes on in quiet circumstances. -/
theorem yields_calm_pause (calm : Calm quiet context world) (span : Nat) (action : String)
    {succeeds : Unit → World Cloud → Prop} {fails : ProvisionError → World Cloud → Prop}
    (goesOn : ∀ timeline, Calm quiet context { world with timeline } →
      (quiet → timeline.now = world.timeline.now + span) → succeeds () { world with timeline })
    (excused : ∀ error timeline, error.Excused quiet → fails error { world with timeline }) :
    Yields context Cloud.remote (Provision.pause span action) world succeeds fails := by
  rw [yields_pause]
  by_cases silent : quiet
  · have live := calm.live silent
    rw [live.sleep span]
    apply goesOn
    · exact ⟨fun _ => live.advanceTo _, calm.silent⟩
    · intro _
      rw [Timeline.now_advanceTo]
      exact Nat.max_eq_right (Nat.le_add_right _ _)
  · rcases context.sleep span world.timeline with ⟨interruption, timeline⟩
    cases interruption with
    | none => exact goesOn timeline (.of_noisy silent) (fun quiet => absurd quiet silent)
    | some interruption =>
        exact excused _ timeline ⟨silent, Interruption.not_isValidation _ _⟩

end Program

end Provisioning
