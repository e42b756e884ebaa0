import Provisioning.Error

/-!
Contexts carry a cancellation token and an optional deadline through a run. Tokens form a tree:
cancelling a token reaches exactly the tokens below it, whenever they were derived. Time is a number
of milliseconds on a timeline, which also knows the cancellation that is due next.
-/

namespace Provisioning

/-- A token is named by its path from a root: its own number first, its root's number last. -/
structure Token where
  path : List Nat
  deriving DecidableEq, Repr, Inhabited

/-- Every token is below itself and below the tokens it was derived from. -/
def Token.isBelow (token ancestor : Token) : Bool := ancestor.path.isSuffixOf token.path

/-- An alarm cancels a token at a time. -/
structure Alarm where
  time : Nat
  token : Token
  deriving DecidableEq, Repr

/-- A timeline holds the time, the numbers given to tokens, the cancelled tokens and the alarm. -/
structure Timeline where
  now : Nat
  issued : Nat
  cancelled : List Token
  alarm : Option Alarm
  deriving DecidableEq, Repr, Inhabited

namespace Timeline

/-- A token counts as cancelled when it or any token above it was cancelled. -/
def isCancelled (timeline : Timeline) (token : Token) : Bool :=
  timeline.cancelled.any token.isBelow

def cancel (timeline : Timeline) (token : Token) : Timeline :=
  { timeline with cancelled := token :: timeline.cancelled }

def rootToken (timeline : Timeline) : Token × Timeline :=
  (⟨[timeline.issued]⟩, { timeline with issued := timeline.issued + 1 })

def childToken (timeline : Timeline) (parent : Token) : Token × Timeline :=
  (⟨timeline.issued :: parent.path⟩, { timeline with issued := timeline.issued + 1 })

def setAlarm (timeline : Timeline) (delay : Nat) (token : Token) : Timeline :=
  { timeline with alarm := some ⟨timeline.now + delay, token⟩ }

def dropAlarm (timeline : Timeline) : Timeline := { timeline with alarm := none }

/-- Time moves on to an instant, and an alarm that is due by then goes off. -/
def advanceTo (timeline : Timeline) (instant : Nat) : Timeline :=
  let later := { timeline with now := max timeline.now instant }
  match timeline.alarm with
  | some alarm => if alarm.time ≤ instant then (later.cancel alarm.token).dropAlarm else later
  | none => later

@[simp] theorem now_advanceTo (timeline : Timeline) (instant : Nat) :
    (timeline.advanceTo instant).now = max timeline.now instant := by
  rw [advanceTo]
  split
  · split <;> rfl
  · rfl

/-- Time passes and nothing can interrupt it. -/
def elapse (timeline : Timeline) (span : Nat) : Timeline :=
  if span = 0 then timeline else timeline.advanceTo (timeline.now + span)

end Timeline

/-- A run is interrupted by a cancellation or by the deadline of its context. -/
inductive Interruption where
  | cancelled
  | deadlineExceeded
  deriving DecidableEq, Repr

def Interruption.error (action : String) : Interruption → ProvisionError
  | cancelled => .cancelled action
  | deadlineExceeded => .deadlineExceeded action

/-- A context is a token with an optional deadline. -/
structure Context where
  token : Token
  deadline : Option Nat
  deriving DecidableEq, Repr, Inhabited

namespace Context

/-- A new context has a token of its own and no deadline. -/
def new (timeline : Timeline) : Context × Timeline :=
  let (token, timeline) := timeline.rootToken
  (⟨token, none⟩, timeline)

/-- A context around a token shares its cancellation and has no deadline. -/
def ofToken (token : Token) : Context := ⟨token, none⟩

/-- The earlier of two deadlines holds. -/
def earliest (deadline : Nat) : Option Nat → Nat
  | none => deadline
  | some current => min current deadline

/-- A derived context has a token below that of its parent and never a later deadline. -/
def withDeadline (context : Context) (deadline : Nat) (timeline : Timeline) : Context × Timeline :=
  let (token, timeline) := timeline.childToken context.token
  (⟨token, some (earliest deadline context.deadline)⟩, timeline)

def withTimeout (context : Context) (timeout : Nat) (timeline : Timeline) : Context × Timeline :=
  context.withDeadline (timeline.now + timeout) timeline

def cancel (context : Context) (timeline : Timeline) : Timeline := timeline.cancel context.token

def isCancelled (context : Context) (timeline : Timeline) : Bool :=
  timeline.isCancelled context.token

/-- The deadline has passed at the very instant of the deadline. -/
def isExpired (context : Context) (timeline : Timeline) : Bool :=
  match context.deadline with
  | some deadline => decide (deadline ≤ timeline.now)
  | none => false

/-- A cancellation is reported before a passed deadline. -/
def check (context : Context) (timeline : Timeline) : Option Interruption :=
  if context.isCancelled timeline then some .cancelled
  else if context.isExpired timeline then some .deadlineExceeded
  else none

/-- Without a cancellation a sleep ends at its wake-up time, or at a deadline that is not later. -/
def sleepEnd (context : Context) (span : Nat) (timeline : Timeline) :
    Nat × Option Interruption :=
  let wake := timeline.now + span
  match context.deadline with
  | some deadline =>
      if deadline ≤ wake then (max deadline timeline.now, some .deadlineExceeded) else (wake, none)
  | none => (wake, none)

/-- A sleep ends early at a cancellation that reaches the context. -/
def sleep (context : Context) (span : Nat) (timeline : Timeline) :
    Option Interruption × Timeline :=
  if context.isCancelled timeline then (some .cancelled, timeline)
  else
    let (wake, interruption) := context.sleepEnd span timeline
    match timeline.alarm with
    | some alarm =>
        if context.token.isBelow alarm.token ∧ alarm.time < wake then
          (some .cancelled, timeline.advanceTo alarm.time)
        else (interruption, timeline.advanceTo wake)
    | none => (interruption, timeline.advanceTo wake)

/-- A sleep that its deadline leaves alone starts before the deadline and takes its whole span. -/
theorem of_sleepEnd {context : Context} {span : Nat} {timeline : Timeline}
    (slept : (context.sleepEnd span timeline).2 = none) :
    context.isExpired timeline = false ∧
      (context.sleepEnd span timeline).1 = timeline.now + span := by
  unfold sleepEnd at slept ⊢
  unfold isExpired
  generalize context.deadline = deadline at slept ⊢
  cases deadline with
  | none => exact ⟨rfl, rfl⟩
  | some deadline =>
      dsimp only at slept ⊢
      by_cases early : deadline ≤ timeline.now + span
      · rw [if_pos early] at slept
        nomatch slept
      · rw [if_neg early]
        exact ⟨decide_eq_false (by omega), rfl⟩

theorem sleepEnd_le (context : Context) (span : Nat) (timeline : Timeline) :
    (context.sleepEnd span timeline).1 ≤ timeline.now + span := by
  unfold sleepEnd
  cases context.deadline with
  | none => exact Nat.le_refl _
  | some deadline =>
      dsimp only
      split
      next early => exact Nat.max_le.mpr ⟨early, Nat.le_add_right _ _⟩
      next => exact Nat.le_refl _

/-- A sleep that nothing interrupts starts in a live context and takes its whole span. -/
theorem of_sleep {context : Context} {span : Nat} {timeline later : Timeline}
    (slept : context.sleep span timeline = (none, later)) :
    context.check timeline = none ∧ later.now = timeline.now + span := by
  have whole : ¬ context.isCancelled timeline ∧ (context.sleepEnd span timeline).2 = none ∧
      later = timeline.advanceTo (context.sleepEnd span timeline).1 := by
    unfold sleep at slept
    by_cases cancelled : context.isCancelled timeline
    · rw [if_pos cancelled] at slept
      nomatch slept
    · rw [if_neg cancelled] at slept
      refine ⟨cancelled, ?_⟩
      generalize timeline.alarm = alarm at slept
      cases alarm with
      | none => exact ⟨congrArg Prod.fst slept, (congrArg Prod.snd slept).symm⟩
      | some alarm =>
          dsimp only at slept
          split at slept
          next => nomatch slept
          next => exact ⟨congrArg Prod.fst slept, (congrArg Prod.snd slept).symm⟩
  obtain ⟨alive, uninterrupted, rfl⟩ := whole
  obtain ⟨early, wake⟩ := of_sleepEnd uninterrupted
  rw [check, if_neg alive, early, Timeline.now_advanceTo, wake]
  exact ⟨rfl, Nat.max_eq_right (Nat.le_add_right _ _)⟩

/-- A sleep never lasts longer than its span. -/
theorem sleep_now_le (context : Context) (span : Nat) (timeline : Timeline) :
    (context.sleep span timeline).2.now ≤ timeline.now + span := by
  have wake := context.sleepEnd_le span timeline
  unfold sleep
  split
  next => exact Nat.le_add_right _ _
  next =>
    cases timeline.alarm with
    | none =>
        rw [Timeline.now_advanceTo]
        omega
    | some alarm =>
        dsimp only
        split <;> rw [Timeline.now_advanceTo] <;> omega

end Context

end Provisioning
