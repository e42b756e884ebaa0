/-!
How long waits and power requests may take. All spans are whole milliseconds.
-/

namespace Provisioning

/-- A wait looks at a resource at a fixed interval and gives up after a budget. -/
structure WaitOptions where
  pollInterval : Nat
  timeout : Nat
  deriving DecidableEq, Repr

instance : Inhabited WaitOptions := ⟨⟨5000, 1200000⟩⟩

/-- A power request is repeated while it is refused and again while it has no effect. -/
structure RetryPolicy where
  initialRetrySpan : Nat
  bootRetrySpan : Nat
  shutdownRetrySpan : Nat
  initialRequestTimeout : Nat
  deriving DecidableEq, Repr

instance : Inhabited RetryPolicy := ⟨⟨20000, 20000, 20000, 30000⟩⟩

/-- The timing of a run covers its waits and its power requests. -/
structure Timing where
  wait : WaitOptions
  power : RetryPolicy
  deriving DecidableEq, Repr, Inhabited

/-- Every interval is one tick and every budget is the same. -/
def Timing.uniform (tick budget : Nat) : Timing :=
  ⟨⟨tick, budget⟩, ⟨tick, tick, tick, budget⟩⟩

/-- This number counts the intervals that begin before a budget has passed. -/
def intervalsWithin (interval budget : Nat) : Nat := (budget + interval - 1) / interval

/-- This is a bound of this program for an interval of zero. By its budget alone such a loop goes on
until the clock passes the budget, however many rounds that takes. This program gives up after so
many rounds at the latest. -/
def unpacedRounds : Nat := 4294967296

/-- After this many polls at a positive interval the budget of a wait is spent. -/
def WaitOptions.pollLimit (options : WaitOptions) : Nat :=
  if options.pollInterval = 0 then unpacedRounds
  else intervalsWithin options.pollInterval options.timeout + 1

/-- After this many requests at a positive span the budget for the first request is spent. -/
def RetryPolicy.requestLimit (policy : RetryPolicy) : Nat :=
  if policy.initialRetrySpan = 0 then unpacedRounds
  else max 1 (intervalsWithin policy.initialRetrySpan policy.initialRequestTimeout)

theorem RetryPolicy.requestLimit_pos (policy : RetryPolicy) : 0 < policy.requestLimit := by
  rw [requestLimit]
  split
  · decide
  · omega

end Provisioning
