import Provisioning.Proofs.Journal
import Provisioning.Script

/-!
Power requests that are issued again. The switch and its answers are arbitrary. The main statement
says when a request may follow an accepted one: the status read just before shows that nothing has
happened, and the last request is a while ago.
-/

namespace Provisioning

/-- This is the failure that a call reported. -/
def Entry.error? {σ : Signature} (entry : Entry σ) : Option RemoteError :=
  match entry.answer with
  | .ok _ => none
  | .error error => some error

namespace PowerSwitch

open Program

/-- A request asks for an operation, and a status read asks for none. -/
def asked? : Entry PowerSwitch → Option PowerOperation
  | ⟨.operate operation, _, _, _⟩ => some operation
  | ⟨.status, _, _, _⟩ => none

/-- This is the status that a status read showed. -/
def shown? : Entry PowerSwitch → Option RunStatus
  | ⟨.status, .ok status, _, _⟩ => some status
  | _ => none

/-- A request is accepted, or it is refused because another one is under way. -/
def Taken (entry : Entry PowerSwitch) : Prop :=
  ∀ error, entry.error? = some error → error.isConflict

/-- A request is a re-issue when an earlier one was accepted. -/
def IsReissue (history : List (Entry PowerSwitch)) (entry : Entry PowerSwitch) : Prop :=
  (asked? entry).isSome ∧ ∃ first ∈ history, (asked? first).isSome ∧ first.error? = none

/-- A re-issue is justified when it repeats the operation, when the call just before it was a status
read that shows no effect, and when the last request was taken and ended a span ago. -/
structure Justified (operation : PowerOperation) (span : Nat)
    (history : List (Entry PowerSwitch)) (entry : Entry PowerSwitch) : Prop where
  repeats : asked? entry = some operation
  follows : ∃ earlier look, history = earlier ++ [look] ∧
    shown? look = some operation.opposite ∧ look.completed = entry.started
  rested : ∃ earlier last looks, history = earlier ++ last :: looks ∧
    asked? last = some operation ∧ Taken last ∧ (∀ look ∈ looks, asked? look = none) ∧
    last.completed.now + span ≤ entry.started.now

/-- A journal is paced when every re-issue is justified and is the last call unless it was taken. -/
def Paced (operation : PowerOperation) (span : Nat) (journal : List (Entry PowerSwitch)) : Prop :=
  ∀ history entry later, journal = history ++ entry :: later → IsReissue history entry →
    Justified operation span history entry ∧ (¬ Taken entry → later = [])

/-- A journal is refused when each of its calls is a request that failed. -/
def Refused (operation : PowerOperation) (journal : List (Entry PowerSwitch)) : Prop :=
  ∀ entry ∈ journal, asked? entry = some operation ∧ entry.error? ≠ none

variable {operation : PowerOperation} {span lastRequest : Nat}
  {journal : List (Entry PowerSwitch)} {look request : Entry PowerSwitch}

/-- Nothing is issued again before a request was accepted. -/
theorem Refused.no_reissue (refused : Refused operation journal) {entry : Entry PowerSwitch}
    {history later : List (Entry PowerSwitch)} (divided : journal = history ++ entry :: later) :
    ¬ IsReissue history entry := by
  rintro ⟨-, first, member, -, accepted⟩
  refine (refused first ?_).2 accepted
  rw [divided]
  exact List.mem_append_left _ member

/-- A journal in which every request was refused is paced. -/
theorem Refused.paced (refused : Refused operation journal) : Paced operation span journal :=
  fun _ _ _ divided reissue => absurd reissue (refused.no_reissue divided)

/-- A journal is still refused after one more request that failed. -/
theorem Refused.append (refused : Refused operation journal)
    (asks : asked? request = some operation) (failed : request.error? ≠ none) :
    Refused operation (journal ++ [request]) := by
  intro entry member
  rcases List.mem_append.mp member with earlier | last
  · exact refused entry earlier
  · cases List.mem_singleton.mp last
    exact ⟨asks, failed⟩

/-- A journal is accepted at a time when its last call is the only request that succeeded. -/
def Accepted (operation : PowerOperation) (time : Timeline) (journal : List (Entry PowerSwitch)) :
    Prop :=
  ∃ refused request, journal = refused ++ [request] ∧ Refused operation refused ∧
    asked? request = some operation ∧ request.error? = none ∧ request.completed = time

namespace Accepted

variable {time : Timeline}

/-- Every call of an accepted journal asks for the operation. -/
theorem asks (accepted : Accepted operation time journal) {entry : Entry PowerSwitch}
    (member : entry ∈ journal) : asked? entry = some operation := by
  obtain ⟨refused, request, rfl, failed, asks, -, -⟩ := accepted
  rcases List.mem_append.mp member with earlier | last
  · exact (failed entry earlier).1
  · exact List.mem_singleton.mp last ▸ asks

/-- The request that succeeded is the last call and ended at the time. -/
theorem ends (accepted : Accepted operation time journal) {entry : Entry PowerSwitch}
    {history later : List (Entry PowerSwitch)} (divided : journal = history ++ entry :: later)
    (succeeded : entry.error? = none) : later = [] ∧ time = entry.completed := by
  obtain ⟨refused, request, rfl, failed, -, -, rfl⟩ := accepted
  rcases Entry.division_of_append divided with ⟨-, rfl, rfl⟩ | ⟨earlier, -, rfl⟩
  · exact ⟨rfl, rfl⟩
  · exact absurd succeeded (failed entry (List.mem_append_right _ List.mem_cons_self)).2

/-- Some request of an accepted journal has succeeded. -/
theorem succeeds (accepted : Accepted operation time journal) :
    ∃ request ∈ journal, request.error? = none := by
  obtain ⟨refused, request, rfl, -, -, succeeded, -⟩ := accepted
  exact ⟨request, List.mem_append_right _ List.mem_cons_self, succeeded⟩

end Accepted

/-- During the confirmation every re-issue was taken, and the time of the last request is known. -/
structure Confirming (operation : PowerOperation) (span lastRequest : Nat)
    (journal : List (Entry PowerSwitch)) : Prop where
  justified : ∀ history entry later, journal = history ++ entry :: later →
    IsReissue history entry → Justified operation span history entry ∧ Taken entry
  last : ∃ earlier request looks, journal = earlier ++ request :: looks ∧
    asked? request = some operation ∧ Taken request ∧ (∀ look ∈ looks, asked? look = none) ∧
    request.completed.now = lastRequest

namespace Confirming

/-- A journal is paced during the confirmation. -/
theorem paced (confirming : Confirming operation span lastRequest journal) :
    Paced operation span journal := by
  intro history entry later divided reissue
  obtain ⟨justified, taken⟩ := confirming.justified history entry later divided reissue
  exact ⟨justified, fun refused => absurd taken refused⟩

/-- A status read leaves the last request what it was. -/
theorem looks (confirming : Confirming operation span lastRequest journal)
    (reads : asked? look = none) : Confirming operation span lastRequest (journal ++ [look]) := by
  refine ⟨?_, ?_⟩
  · intro history entry later divided reissue
    rcases Entry.division_of_append divided with ⟨rfl, rfl, -⟩ | ⟨earlier, -, before⟩
    · rw [IsReissue, reads] at reissue
      nomatch reissue.1
    · exact confirming.justified history entry earlier before reissue
  · obtain ⟨earlier, request, looks, rfl, asks, taken, others, time⟩ := confirming.last
    refine ⟨earlier, request, looks ++ [look], ?_, asks, taken, ?_, time⟩
    · rw [List.append_assoc, List.cons_append]
    · intro other member
      rcases List.mem_append.mp member with older | newest
      · exact others other older
      · exact (List.mem_singleton.mp newest) ▸ reads

/-- A request right after a status read without effect is justified when the span has passed. -/
theorem justifies (confirming : Confirming operation span lastRequest journal)
    (shows : shown? look = some operation.opposite) (follows : look.completed = request.started)
    (rested : lastRequest + span ≤ request.started.now) (reads : asked? look = none)
    (asks : asked? request = some operation) :
    Justified operation span (journal ++ [look]) request := by
  refine ⟨asks, ⟨journal, look, rfl, shows, follows⟩, ?_⟩
  obtain ⟨earlier, last, looks, divided, asked, taken, others, time⟩ :=
    (confirming.looks reads).last
  exact ⟨earlier, last, looks, divided, asked, taken, others, time ▸ rested⟩

/-- A re-issue that was taken is the last request from then on. -/
theorem reissues (confirming : Confirming operation span lastRequest journal)
    (justified : Justified operation span journal request) (taken : Taken request) :
    Confirming operation span request.completed.now (journal ++ [request]) := by
  refine ⟨?_, journal, request, [], rfl, justified.repeats, taken, nofun, rfl⟩
  intro history entry later divided reissue
  rcases Entry.division_of_append divided with ⟨rfl, rfl, -⟩ | ⟨earlier, -, before⟩
  · exact ⟨justified, taken⟩
  · exact confirming.justified history entry earlier before reissue

/-- A re-issue that was not taken is the end of a paced journal. -/
theorem fails (confirming : Confirming operation span lastRequest journal)
    (justified : Justified operation span journal request) :
    Paced operation span (journal ++ [request]) := by
  intro history entry later divided reissue
  rcases Entry.division_of_append divided with ⟨rfl, rfl, rfl⟩ | ⟨earlier, -, before⟩
  · exact ⟨justified, fun _ => rfl⟩
  · obtain ⟨justified, taken⟩ := confirming.justified history entry earlier before reissue
    exact ⟨justified, fun refused => absurd taken refused⟩

end Confirming

/-- The confirmation begins with the request that was accepted. -/
theorem Accepted.confirming {time : Timeline} (accepted : Accepted operation time journal)
    (span : Nat) : Confirming operation span time.now journal := by
  obtain ⟨refused, request, rfl, failed, asks, succeeded, rfl⟩ := accepted
  have taken : Taken request := fun error failure => nomatch succeeded.symm.trans failure
  refine ⟨?_, refused, request, [], rfl, asks, taken, nofun, rfl⟩
  intro history entry later divided reissue
  rcases Entry.division_of_append divided with ⟨rfl, rfl, -⟩ | ⟨earlier, -, before⟩
  · obtain ⟨-, first, member, -, succeeded⟩ := reissue
    exact absurd succeeded (failed first member).2
  · exact absurd reissue (failed.no_reissue before)

section Run

variable {Store : Type} {context : Context} {remote : Remote PowerSwitch Store} {name : String}
  {world : World (Observed PowerSwitch Store)}

/-- The first request is repeated while it is refused, and nothing else is called. -/
theorem requests_yields (policy : RetryPolicy)
    (refused : Refused operation world.store.journal) :
    Yields context remote.observed ((handler name).requestUntilAccepted operation policy) world
      (fun _ after => Accepted operation after.timeline after.store.journal)
      (fun _ after => Refused operation after.store.journal) := by
  refine PowerHandler.requestUntilAccepted_keeps
    (fun world : World (Observed PowerSwitch Store) => Refused operation world.store.journal)
    (fun world => Accepted operation world.timeline world.store.journal)
    (fun world refused => ?_) (fun _ _ refused => refused) (fun _ refused => refused) refused
  apply Yields.answered
  · intro value after written
    exact ⟨_, _, written, refused, rfl, rfl, rfl⟩
  · intro error after written
    have grown : Refused operation after.store.journal := by
      rw [written]
      exact refused.append rfl nofun
    split <;> exact grown

/-- Each look of the confirmation shows the target, or it keeps what the confirmation knows. -/
theorem confirmation_yields
    (confirming : Confirming operation span lastRequest world.store.journal) :
    Yields context remote.observed ((handler name).confirmation operation span lastRequest) world
      (fun seen after => if seen.1 == operation.target
        then Paced operation span after.store.journal ∧ ∃ earlier look,
          after.store.journal = earlier ++ [look] ∧ shown? look = some operation.target
        else Confirming operation span seen.2 after.store.journal)
      (fun _ after => Paced operation span after.store.journal) := by
  rw [PowerHandler.confirmation, yields_bind]
  apply Yields.answered
  · intro status seen written
    have looked : Confirming operation span lastRequest seen.store.journal := by
      rw [written]
      exact confirming.looks rfl
    rw [yields_bind, yields_clock, yields_ite]
    split
    next without =>
      obtain ⟨rfl, rested⟩ := without
      have missed : ¬ (operation.opposite == operation.target) = true := by
        cases operation <;> simp [PowerOperation.opposite, PowerOperation.target]
      -- The look that has just been written down justifies the re-issue, whatever its answer.
      have justified : ∀ answer completed, Justified operation span seen.store.journal
          ⟨.operate operation, answer, seen.timeline, completed⟩ := by
        intro answer completed
        rw [written]
        exact confirming.justifies rfl rfl rested rfl rfl
      simp only [yields_bind, yields_clock, yields_pure, if_neg missed]
      rw [PowerHandler.yields_reissue]
      apply Yields.answered
      · intro value after issued
        rw [issued]
        apply looked.reissues (justified (.ok value) after.timeline)
        rintro _ ⟨⟩
      · intro error after issued
        rw [issued]
        split
        next conflict =>
          apply looked.reissues (justified (.error error) after.timeline)
          rintro _ ⟨⟩
          exact conflict
        next => exact looked.fails (justified (.error error) after.timeline)
    next otherwise =>
      rw [yields_pure]
      split
      next found =>
        cases eq_of_beq found
        exact ⟨looked.paced, _, _, written, rfl⟩
      next => exact looked
  · intro error after written
    rw [written]
    exact (confirming.looks rfl).paced

/-- The confirmation ends with a status read that shows the target, or it fails. -/
theorem confirm_yields (timing : Timing)
    (confirming : Confirming operation (operation.reissueSpan timing.power) world.timeline.now
      world.store.journal) :
    Yields context remote.observed ((handler name).confirm operation timing) world
      (fun _ after => Paced operation (operation.reissueSpan timing.power) after.store.journal ∧
        ∃ earlier look, after.store.journal = earlier ++ [look] ∧
          shown? look = some operation.target)
      (fun _ after => Paced operation (operation.reissueSpan timing.power)
        after.store.journal) := by
  rw [PowerHandler.confirm, yields_bind, yields_now, yields_bind]
  apply (Wait.forStateWith_keeps
    (fun lastRequest (world : World (Observed PowerSwitch Store)) =>
      Confirming operation (operation.reissueSpan timing.power) lastRequest world.store.journal)
    (fun _ world => Paced operation (operation.reissueSpan timing.power) world.store.journal ∧
      ∃ earlier look, world.store.journal = earlier ++ [look] ∧
        shown? look = some operation.target)
    (fun _ _ confirming => confirmation_yields confirming) (fun _ _ _ confirming => confirming)
    (fun _ _ confirming => confirming.paced) confirming).mono
  · exact fun _ _ confirmed => confirmed
  · exact fun _ _ paced => paced

/-- A switch that succeeds ends with an accepted request or with the target. -/
def Concludes (operation : PowerOperation) (noWait : Bool) (outcome : Except ProvisionError Unit)
    (time : Timeline) (journal : List (Entry PowerSwitch)) : Prop :=
  match noWait, outcome with
  | true, .ok _ => Accepted operation time journal
  | true, .error _ => Refused operation journal
  | false, .ok _ => ∃ earlier look, journal = earlier ++ [look] ∧
      shown? look = some operation.target
  | false, .error _ => True

/-- A switch that starts with refused requests is paced throughout, and when it succeeds it ends
with an accepted request or with the target. -/
theorem switch_yields (timing : Timing) (noWait : Bool)
    (refused : Refused operation world.store.journal) :
    Yields context remote.observed ((handler name).switch operation timing noWait) world
      (fun _ after => Paced operation (operation.reissueSpan timing.power) after.store.journal ∧
        Concludes operation noWait (.ok ()) after.timeline after.store.journal)
      (fun error after => Paced operation (operation.reissueSpan timing.power) after.store.journal ∧
        Concludes operation noWait (.error error) after.timeline after.store.journal) := by
  rw [PowerHandler.switch, yields_bind]
  apply (requests_yields timing.power refused).mono
  · intro _ after accepted
    have confirming := accepted.confirming (operation.reissueSpan timing.power)
    cases noWait with
    | true => exact ⟨confirming.paced, accepted⟩
    | false =>
        apply (confirm_yields timing confirming).mono
        · exact fun _ _ confirmed => confirmed
        · exact fun _ _ paced => ⟨paced, trivial⟩
  · intro error after refused
    cases noWait with
    | true => exact ⟨refused.paced, refused⟩
    | false => exact ⟨refused.paced, trivial⟩

/-- Power requests are issued again with care. Take any switch, whatever it answers and however
long it takes. Every re-issue repeats the operation, comes right after a status read that shows no
effect, and starts a span after the last request, which was taken, has ended. A re-issue that is
not taken is the last call. With a wait the run succeeds only when its last call shows the target.
Without one there is no status read, and the run succeeds exactly when a request is accepted, right
then. -/
theorem switch_is_paced (name : String) (operation : PowerOperation) (timing : Timing)
    (noWait : Bool) (context : Context) (remote : Remote PowerSwitch Store) (world : World Store) :
    let program := ((handler name).switch operation timing noWait).run
    let journal := program.journal context remote world
    let outcome := (program.run context remote world).1
    let after := (program.run context remote world).2
    Paced operation (operation.reissueSpan timing.power) journal ∧
    (noWait = false → outcome = .ok () → ∃ earlier look, journal = earlier ++ [look] ∧
      shown? look = some operation.target) ∧
    (noWait = true → (∀ entry ∈ journal, asked? entry = some operation) ∧
      (outcome = .ok () → ∃ request ∈ journal, request.error? = none) ∧
      ∀ history request later, journal = history ++ request :: later → request.error? = none →
        later = [] ∧ outcome = .ok () ∧ after.timeline = request.completed) := by
  intro program journal outcome after
  have concludes : Paced operation (operation.reissueSpan timing.power) journal ∧
      Concludes operation noWait outcome after.timeline journal :=
    Yields.journal (fun outcome (after : World Store) journal =>
      Paced operation (operation.reissueSpan timing.power) journal ∧
        Concludes operation noWait outcome after.timeline journal)
      (switch_yields timing noWait nofun)
  obtain ⟨paced, concludes⟩ := concludes
  refine ⟨paced, ?_, ?_⟩
  · rintro rfl succeeded
    rw [succeeded] at concludes
    exact concludes
  · rintro rfl
    generalize outcome = outcome, after.timeline = time at concludes ⊢
    cases outcome with
    | ok done =>
        refine ⟨fun _ => concludes.asks, fun _ => concludes.succeeds, ?_⟩
        intro history request later divided succeeded
        obtain ⟨last, ends⟩ := concludes.ends divided succeeded
        exact ⟨last, rfl, ends⟩
    | error error =>
        refine ⟨fun entry member => (concludes entry member).1, nofun, ?_⟩
        rintro history request later divided succeeded
        refine absurd succeeded (concludes request ?_).2
        rw [divided]
        exact List.mem_append_right _ List.mem_cons_self

end Run

end PowerSwitch

end Provisioning
