import Provisioning.Proofs.ApplianceBuild
import Provisioning.Proofs.Arising
import Provisioning.Proofs.Journal
import Provisioning.Proofs.OrderlyPlans

/-!
Histories of one cloud. An errand builds or updates an appliance in circumstances of its own: a
context, a time, and failures that are announced before it. A history is a list of errands that run
one after the other on one cloud, whether they succeed or fail.
-/

namespace Provisioning

open Program

/-- Two kinds of appliances are plugged into switches after they have been created. -/
inductive Appliance where
  | vpcRouter (blueprint : VpcRouterBlueprint)
  | mobileGateway (blueprint : MobileGatewayBlueprint)

/-- An errand is one build or one update with the circumstances under which it starts. -/
structure Errand where
  zone : Zone
  appliance : Appliance
  updates : Bool
  context : Context
  timeline : Timeline
  announced : List (Endpoint × RemoteError)

namespace Errand

def plan (errand : Errand) : Build BuildResult :=
  match errand.appliance, errand.updates with
  | .vpcRouter blueprint, false => blueprint.build errand.zone
  | .vpcRouter blueprint, true => blueprint.update errand.zone
  | .mobileGateway blueprint, false => blueprint.build errand.zone
  | .mobileGateway blueprint, true => blueprint.update errand.zone

/-- Whatever an errand does, it deletes nothing. -/
theorem plan_orderly (errand : Errand) : Orderly Request.Preserves errand.plan.run := by
  obtain ⟨zone, appliance, updates, -, -, -⟩ := errand
  cases appliance with
  | vpcRouter blueprint =>
      cases updates with
      | false => exact blueprint.build_orderly
      | true => exact blueprint.update_orderly
  | mobileGateway blueprint =>
      cases updates with
      | false => exact blueprint.build_orderly
      | true => exact blueprint.update_orderly

/-- The failures of an errand are announced before it starts. -/
def start (errand : Errand) (cloud : Cloud) : World Cloud :=
  ⟨errand.timeline, { cloud with failures := cloud.failures ++ errand.announced }⟩

def run (errand : Errand) (cloud : Cloud) : Except ProvisionError BuildResult × World Cloud :=
  errand.plan.run.run errand.context Cloud.remote (errand.start cloud)

def outcome (errand : Errand) (cloud : Cloud) : Except ProvisionError BuildResult :=
  (errand.run cloud).1

/-- The cloud that an errand leaves behind is there whether or not the errand succeeds. -/
def after (errand : Errand) (cloud : Cloud) : Cloud := (errand.run cloud).2.store

variable {errand : Errand} {cloud : Cloud} {result : BuildResult}

/-- What a plan yields when it succeeds holds after an errand that succeeds. -/
theorem of_yields {succeeds : BuildResult → World Cloud → Prop}
    {fails : ProvisionError → World Cloud → Prop}
    (yields : Yields errand.context Cloud.remote errand.plan (errand.start cloud) succeeds fails)
    (outcome : errand.outcome cloud = .ok result) : succeeds result (errand.run cloud).2 := by
  unfold Yields at yields
  unfold Errand.outcome Errand.run at outcome
  unfold Errand.run
  generalize errand.plan.run.run errand.context Cloud.remote (errand.start cloud) = finished
    at yields outcome ⊢
  obtain ⟨_, last⟩ := finished
  cases outcome
  exact yields

/-- What a plan yields in any case holds after every errand. -/
theorem of_always {holds : Cloud → Prop}
    (yields : Yields errand.context Cloud.remote errand.plan (errand.start cloud)
      (fun _ last => holds last.store) (fun _ last => holds last.store)) :
    holds (errand.after cloud) := by
  unfold Yields at yields
  unfold Errand.after Errand.run
  generalize errand.plan.run.run errand.context Cloud.remote (errand.start cloud) = finished
    at yields ⊢
  obtain ⟨outcome, last⟩ := finished
  cases outcome <;> exact yields

/-- A cloud that an errand has met is one that arises. -/
theorem after_arises (arises : cloud.Arises) : (errand.after cloud).Arises := by
  apply of_always
  exact errand.plan_orderly.keeps Cloud.Arises
    (fun request _ _ arises => arises.called request) (arises.prepared rfl rfl)

end Errand

/-- The errands of a history run one after the other. -/
def Cloud.after (start : Cloud) (errands : List Errand) : Cloud :=
  errands.foldl (fun cloud errand => errand.after cloud) start

/-- A history that is continued starts again where it stopped. -/
theorem Cloud.after_append (start : Cloud) (earlier later : List Errand) :
    start.after (earlier ++ later) = (start.after earlier).after later :=
  List.foldl_append

/-- What no errand breaks holds after every history. -/
theorem Cloud.after_keeps {start : Cloud} (invariant : Cloud → Prop)
    (keeps : ∀ (errand : Errand) cloud, invariant cloud → invariant (errand.after cloud))
    (here : invariant start) (errands : List Errand) : invariant (start.after errands) := by
  induction errands generalizing start with
  | nil => exact here
  | cons errand rest inductionHypothesis => exact inductionHypothesis (keeps errand start here)

/-- A cloud that arises still does after any history. -/
theorem Cloud.Arises.after {start : Cloud} (arises : start.Arises) (errands : List Errand) :
    (start.after errands).Arises :=
  Cloud.after_keeps Cloud.Arises (fun _ _ => Errand.after_arises) arises errands

/-- A wait for a resource keeps what its looks keep, and it answers with what one of them has seen.
-/
theorem Wait.untilReady_keeps {ρ Store : Type} [Lifecycle ρ] {context : Context}
    {remote : Remote CloudService Store} {world : World Store} {resource : String}
    {id : ResourceId} {probe : Attempt CloudService ρ} {options : WaitOptions}
    (invariant : World Store → Prop) (holds : ρ → Prop)
    (looks : ∀ world, invariant world → Yields context remote probe world
      (fun record after => holds record ∧ invariant after) (fun _ _ => True))
    (rests : ∀ world timeline, invariant world → invariant { world with timeline })
    (here : invariant world) :
    Yields context remote (untilReady resource id probe options) world
      (fun record after => holds record ∧ invariant after) (fun _ _ => True) := by
  have probes : ∀ (memory : Unit) (now : World Store), invariant now →
      Yields context remote (do return (← probe, ())) now
        (fun seen after =>
          if !(Lifecycle.availability seen.1).isTransitional then holds seen.1 ∧ invariant after
          else invariant after) (fun _ _ => True) := by
    intro _ now here
    rw [yields_bind]
    apply (looks now here).mono _ fun _ _ _ => trivial
    intro record after seen
    rw [yields_pure]
    split
    · exact seen
    · exact seen.2
  have waits : Yields context remote (forState s!"{resource} {id.text} to become available" probe
      (fun record => !(Lifecycle.availability record).isTransitional) options) world
      (fun record after => holds record ∧ invariant after) (fun _ _ => True) :=
    forStateWith_keeps (fun _ => invariant) (fun record after => holds record ∧ invariant after)
      probes (fun _ => rests) (fun _ _ _ => trivial) here
  apply waits.bind
  intro record after seen
  split
  · trivial
  · exact seen

namespace Program

variable {context : Context} {world : World Cloud} {zone : Zone} {id : ResourceId}

/-- A read of a router answers with the record that is stored then. -/
theorem yields_readVpcRouter :
    Yields context Cloud.remote (Build.attempt (.vpcRouter zone (.read id))) world
      (fun router after => after.store.vpcRouters.get? id = some router) (fun _ _ => True) := by
  have hidden : (VpcRouterCall.read id).Keeps fun _ => () := fun _ _ => rfl
  apply yields_calm_attempt (.of_noisy not_false)
  · exact (Cloud.readVpcRouter_showsSame hidden).mono (fun _ _ shown _ => shown.2)
      fun _ _ _ _ => trivial
  · exact fun _ _ _ => trivial

/-- A read of a gateway answers with the record that is stored then. -/
theorem yields_readMobileGateway :
    Yields context Cloud.remote (Build.attempt (.mobileGateway zone (.read id))) world
      (fun gateway after => after.store.mobileGateways.get? id = some gateway)
      (fun _ _ => True) := by
  have hidden : (MobileGatewayCall.read id).Keeps fun _ => () := fun _ _ => rfl
  apply yields_calm_attempt (.of_noisy not_false)
  · exact (Cloud.readMobileGateway_showsSame hidden).mono (fun _ _ shown _ => shown.2)
      fun _ _ _ _ => trivial
  · exact fun _ _ _ => trivial

end Program

end Provisioning
