import Provisioning.Program

/-!
A session runs programs one after the other in the same world, each in a context of its own.
-/

namespace Provisioning

/-- A plan says how the context of a program comes about and when it is cancelled. -/
structure ContextPlan where
  timeout : Option Nat
  cancelled : Bool
  cancelAfter : Option Nat
  deriving Inhabited

/-- The context is new, then limited in time, then cancelled or due for cancellation. -/
def ContextPlan.enter (plan : ContextPlan) (timeline : Timeline) : Context × Timeline :=
  let (fresh, timeline) := Context.new timeline
  let (context, timeline) :=
    match plan.timeout with
    | none => (fresh, timeline)
    | some timeout => fresh.withTimeout timeout timeline
  let timeline := if plan.cancelled then context.cancel timeline else timeline
  match plan.cancelAfter with
  | none => (context, timeline)
  | some delay => (context, timeline.setAlarm delay context.token)

/-- A cancellation that is still due when the program ends is dropped. -/
def Program.runWith {σ : Signature} {α Store : Type} (plan : ContextPlan)
    (remote : Remote σ Store) (program : Program σ α) (world : World Store) : α × World Store :=
  let (context, timeline) := plan.enter world.timeline
  let (value, after) := program.run context remote { world with timeline }
  (value, { after with timeline := after.timeline.dropAlarm })

end Provisioning
