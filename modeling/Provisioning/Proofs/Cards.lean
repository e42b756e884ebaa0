import Mathlib.Data.List.Nodup
import Provisioning.Proofs.Errands

/-!
The cards of gateways over a history of builds and updates, some of which fail. A run registers the
cards that the gateway does not list yet and passes over the others. The main statement tells which
cards a gateway lists and which addresses they have after a run that succeeds.
-/

namespace Provisioning

open Program Cloud

namespace Cloud

variable {cloud : Cloud}

/-- These are the cards that a gateway lists. -/
def listed? (cloud : Cloud) (id : ResourceId) : Option (List ResourceId) :=
  (cloud.mobileGateways.get? id).map MobileGateway.simIds

/-- This is the address that a card has been given. -/
def address? (cloud : Cloud) (simId : ResourceId) : Option Ipv4 :=
  (cloud.sims.get? simId).bind Sim.ipAddress

/-- Two clouds have the same cards when they list and address them alike. -/
structure SameCards (before after : Cloud) : Prop where
  listed : after.listed? = before.listed?
  addresses : after.address? = before.address?

theorem SameCards.refl (cloud : Cloud) : cloud.SameCards cloud := ⟨rfl, rfl⟩

theorem SameCards.trans {before middle after : Cloud} (first : before.SameCards middle)
    (second : middle.SameCards after) : before.SameCards after where
  listed := second.listed.trans first.listed
  addresses := second.addresses.trans first.addresses

end Cloud

/-- These requests give a card an address. -/
def Request.assigns : Request → Bool
  | .sim (.assignIp ..) => true
  | _ => false

/-- A request keeps the cards when it neither registers nor addresses one. -/
structure Request.KeepsCards (request : Request) : Prop where
  gateways : request.KeepsGateways MobileGateway.simIds
  assigns : request.assigns = false

/-- A look neither registers nor addresses a card. -/
theorem Request.Looks.keepsCards {request : Request} (looks : request.Looks) :
    request.KeepsCards := by
  cases request with
  | mobileGateway zone call => cases looks
  | sim call =>
      cases call with
      | read id => exact ⟨trivial, rfl⟩
      | assignIp id ipAddress => cases looks
  | _ => exact ⟨trivial, rfl⟩

namespace Cloud

variable {cloud : Cloud}

/-- A call that addresses no card leaves the cards as they are. -/
theorem call_sims {request : Request} (silent : request.assigns = false) (cloud : Cloud) :
    (call request cloud).2.sims = cloud.sims := by
  obtain ⟨failures, written⟩ := call_footprint request cloud
  cases request with
  | sim request =>
      cases request with
      | assignIp id ipAddress => cases silent
      | read id =>
          refine call_elim (motive := fun _ after => after.sims = cloud.sims) (fun _ _ _ => rfl)
            fun _ => ?_
          rw [answerRequest, answerSim, CloudStep.yields_find]
          split <;> rfl
  | _ =>
      rw [written]
      rfl

/-- A call that neither registers nor addresses a card leaves the lists and the addresses as they
are. -/
theorem call_sameCards {request : Request} (keeps : request.KeepsCards) (cloud : Cloud) :
    cloud.SameCards (call request cloud).2 where
  listed := funext (call_showsSame_gateways keeps.gateways cloud)
  addresses := by
    funext simId
    rw [address?, address?, call_sims keeps.assigns]

/-- Storing a card assigns its address to it and keeps the addresses of the other cards. -/
theorem address?_insert {before after : Cloud} {simId : ResourceId} {card : Sim}
    {address : Option Ipv4} (sims : after.sims = before.sims.insert simId card)
    (given : card.ipAddress = address) :
    after.address? = Function.update before.address? simId address := by
  funext other
  rw [Function.update_apply, address?, address?, sims, SortedMap.get?_insert]
  split
  · exact given
  · rfl

/-- A cloud enrolls cards with a gateway when the gateway lists them, and each card has the address
that is assigned to it. -/
structure Enrolls (cloud : Cloud) (id : ResourceId) (listed : List ResourceId)
    (addresses : ResourceId → Option Ipv4) : Prop where
  listed : cloud.listed? id = some listed
  addresses : cloud.address? = addresses

/-- A cloud with the same cards enrolls the same cards. -/
theorem Enrolls.sameCards {after : Cloud} {id : ResourceId} {listed : List ResourceId}
    {addresses : ResourceId → Option Ipv4} (enrolls : cloud.Enrolls id listed addresses)
    (same : cloud.SameCards after) : after.Enrolls id listed addresses where
  listed := (congrFun same.listed id).trans enrolls.listed
  addresses := same.addresses.trans enrolls.addresses

/-- An orderly program that keeps the cards leaves them as they are, whether it succeeds or fails.
-/
theorem SameCards.orderly {start : Cloud} {context : Context} {world : World Cloud} {α : Type}
    {program : Build α} (keeps : Orderly Request.KeepsCards program.run)
    (same : start.SameCards world.store) :
    Yields context Cloud.remote program world (fun _ after => start.SameCards after.store)
      (fun _ after => start.SameCards after.store) :=
  keeps.keeps start.SameCards
    (fun _ tame now same => same.trans (call_sameCards tame now.store)) same

/-- An orderly program that keeps the cards leaves them enrolled. -/
theorem Enrolls.orderly {context : Context} {world : World Cloud} {α : Type} {program : Build α}
    {id : ResourceId} {listed : List ResourceId} {addresses : ResourceId → Option Ipv4}
    (enrolls : world.store.Enrolls id listed addresses)
    (keeps : Orderly Request.KeepsCards program.run) :
    Yields context Cloud.remote program world
      (fun _ after => after.store.Enrolls id listed addresses) (fun _ _ => True) :=
  (SameCards.orderly keeps (.refl world.store)).onSuccess fun _ _ same => enrolls.sameCards same

end Cloud

namespace MobileGatewayBlueprint

variable {context : Context} {world : World Cloud} {zone : Zone} {start : Cloud} {id : ResourceId}
  {listed : List ResourceId} {addresses : ResourceId → Option Ipv4}

/-- A card is listed last, unless it is listed already, and it gets its address. -/
theorem registerSim_enrolls {sim : SimSpec} (enrolls : world.store.Enrolls id listed addresses) :
    Yields context Cloud.remote (registerSim zone id sim) world
      (fun _ after => after.store.Enrolls id (listed ++ [sim.simId])
        (assignAll SimSpec.simId SimSpec.ipAddress addresses [sim])) (fun _ _ => True) := by
  have adds : Yields context Cloud.remote
      (Build.call "add SIM" (.mobileGateway zone (.addSim id sim.simId))) world
      (fun _ after => after.store.Enrolls id (listed ++ [sim.simId]) addresses)
      (fun _ _ => True) := by
    apply yields_calm_look (.of_noisy not_false)
    rw [answerRequest, answerMobileGateway, addSim, CloudStep.yields_bind, CloudStep.yields_find]
    split
    · rw [CloudStep.yields_bind, CloudStep.yields_find]
      split
      next gateway stored =>
        have same : some gateway.simIds = some listed :=
          (congrArg (Option.map MobileGateway.simIds) stored).symm.trans enrolls.listed
        rw [CloudStep.yields_ite]
        split
        · trivial
        · rw [CloudStep.yields_bind]
          apply CloudStep.Yields.change _ _ stored
          refine fun _ => ⟨?_, enrolls.addresses⟩
          rw [← Option.some.inj same]
          exact congrArg (Option.map MobileGateway.simIds) (SortedMap.get?_insert_self _ _ _)
      next => trivial
    · trivial
  apply adds.bind
  intro _ after enrolls
  apply yields_calm_look (.of_noisy not_false)
  rw [answerRequest, answerSim, CloudStep.yields_bind, CloudStep.yields_change]
  split
  next card stored =>
    refine fun _ => ⟨enrolls.listed, ?_⟩
    rw [← enrolls.addresses]
    exact address?_insert rfl rfl
  next => trivial

/-- Registering cards one by one appends them to the list of the gateway and assigns their addresses
in order. -/
theorem forM_registerSim_enrolls {sims : List SimSpec}
    (enrolls : world.store.Enrolls id listed addresses) :
    Yields context Cloud.remote (sims.forM (registerSim zone id)) world
      (fun _ after => after.store.Enrolls id (listed ++ sims.map SimSpec.simId)
        (assignAll SimSpec.simId SimSpec.ipAddress addresses sims)) (fun _ _ => True) := by
  induction sims generalizing world listed addresses with
  | nil =>
      rw [List.map_nil, List.append_nil]
      exact enrolls
  | cons sim rest inductionHypothesis =>
      rw [List.map_cons, List.append_cons, List.forM]
      exact (registerSim_enrolls enrolls).bind fun _ after enrolls => inductionHypothesis enrolls

/-- These are the declared cards that are not registered yet. -/
def newSims (blueprint : MobileGatewayBlueprint) (registered : List ResourceId) : List SimSpec :=
  blueprint.sims.filter fun sim => !registered.contains sim.simId

/-- A card is new when it is declared and not registered yet. -/
theorem mem_newSims {blueprint : MobileGatewayBlueprint} {registered : List ResourceId}
    {sim : SimSpec} : sim ∈ blueprint.newSims registered ↔
      sim ∈ blueprint.sims ∧ sim.simId ∉ registered := by
  rw [newSims, List.mem_filter, Bool.not_eq_true', ← Bool.not_eq_true, List.contains_iff_mem]

/-- No new card is listed twice when no declared card is. -/
theorem newSims_distinct {blueprint : MobileGatewayBlueprint}
    (distinct : (blueprint.sims.map SimSpec.simId).Nodup) (registered : List ResourceId) :
    ((blueprint.newSims registered).map SimSpec.simId).Nodup :=
  distinct.sublist (List.filter_sublist.map _)

/-- New cards are listed after the registered ones and get their addresses. -/
theorem registerSims_enrolls (blueprint : MobileGatewayBlueprint)
    (enrolls : world.store.Enrolls id listed addresses) :
    Yields context Cloud.remote (blueprint.registerSims zone id listed) world
      (fun _ after => after.store.Enrolls id
        (listed ++ (blueprint.newSims listed).map SimSpec.simId)
        (assignAll SimSpec.simId SimSpec.ipAddress addresses (blueprint.newSims listed)))
      (fun _ _ => True) := forM_registerSim_enrolls enrolls

/-- The rest of a build registers all cards and answers with the identifier. -/
theorem conclude_enrolls (blueprint : MobileGatewayBlueprint) (current : MobileGateway)
    (enrolls : world.store.Enrolls id [] addresses) :
    Yields context Cloud.remote (blueprint.conclude zone id current) world
      (fun result after => result = .ofId id ∧ after.store.Enrolls id
        ((blueprint.newSims []).map SimSpec.simId)
        (assignAll SimSpec.simId SimSpec.ipAddress addresses (blueprint.newSims [])))
      (fun _ _ => True) := by
  have configures : Orderly Request.KeepsCards
      (Build.call "apply mobile gateway settings" (.mobileGateway zone (.config current.id))).run :=
    .call rfl ⟨trivial, rfl⟩
  have finishes : Orderly Request.KeepsCards (blueprint.finish zone id).run :=
    blueprint.finish_orderly (fun _ => ⟨trivial, rfl⟩) ⟨fun _ _ => rfl, rfl⟩ ⟨fun _ _ => rfl, rfl⟩
  rw [conclude_eq, yields_bind]
  apply (enrolls.orderly configures).mono _ fun _ _ _ => trivial
  intro _ configured enrolls
  apply (enrolls.orderly (blueprint.resolve_orderly fun _ => ⟨trivial, rfl⟩)).bind
  intro _ resolved enrolls
  apply (blueprint.registerSims_enrolls enrolls).bind
  intro _ registered enrolls
  exact (blueprint.finish_answers.and (enrolls.orderly finishes)).onSuccess
    fun _ _ both => both

/-- A new gateway lists no card. -/
theorem create_enrolls {label : String} {request : MobileGatewayCreateRequest}
    (same : start.SameCards world.store) :
    Yields context Cloud.remote (Build.call label (.mobileGateway zone (.create request))) world
      (fun gateway after => after.store.Enrolls gateway.id [] start.address?)
      (fun _ _ => True) := by
  apply yields_calm_look (.of_noisy not_false)
  intro _
  refine ⟨?_, same.addresses⟩
  exact congrArg (Option.map MobileGateway.simIds) (SortedMap.get?_insert_self _ _ _)

/-- A build registers and addresses all declared cards. -/
theorem build_enrolls (blueprint : MobileGatewayBlueprint) (same : start.SameCards world.store) :
    Yields context Cloud.remote (blueprint.build zone) world
      (fun result after => after.store.Enrolls result.id
        ((blueprint.newSims []).map SimSpec.simId)
        (assignAll SimSpec.simId SimSpec.ipAddress start.address? (blueprint.newSims [])))
      (fun _ _ => True) := by
  have validates : Yields context Cloud.remote (blueprint.validate zone) world
      (fun _ after => start.SameCards after.store) (fun _ after => start.SameCards after.store) :=
    SameCards.orderly (blueprint.validate_orderly.mono fun _ => Request.Looks.keepsCards) same
  rw [build_eq]
  apply (validates.onSuccess fun _ _ same => same).bind
  intro _ checked same
  apply (create_enrolls same).bind
  intro created after enrolls
  have waits : Orderly Request.KeepsCards (Wait.untilReady "mobile gateway" created.id
      (Build.attempt (.mobileGateway zone (.read created.id))) blueprint.timing.wait).run :=
    .untilReady (.inr (.inl rfl)) ⟨fun _ _ => rfl, rfl⟩
  apply (enrolls.orderly waits).bind
  intro ready settled enrolls
  apply (enrolls.orderly (blueprint.connect_orderly fun _ => ⟨trivial, rfl⟩)).bind
  intro _ connected enrolls
  have updates : Orderly Request.KeepsCards (Build.call "update mobile gateway"
      (.mobileGateway zone (.update ready.id (blueprint.updateRequest ready.settingsHash)))).run :=
    .call rfl ⟨fun _ _ => rfl, rfl⟩
  apply (enrolls.orderly updates).bind
  intro _ updated enrolls
  apply (blueprint.conclude_enrolls ready enrolls).onSuccess
  rintro _ last ⟨rfl, enrolls⟩
  exact enrolls

/-- The read of a gateway shows the cards that it has listed from the start. -/
theorem read_enrolls (same : start.SameCards world.store) :
    Yields context Cloud.remote (Build.attempt (.mobileGateway zone (.read id))) world
      (fun gateway after => start.listed? id = some gateway.simIds ∧
        after.store.Enrolls id gateway.simIds start.address?) (fun _ _ => True) := by
  have tame : (Request.mobileGateway zone (.read id)).KeepsCards := ⟨fun _ _ => rfl, rfl⟩
  have kept : Yields context Cloud.remote (Build.attempt (.mobileGateway zone (.read id))) world
      (fun _ after => start.SameCards after.store) (fun _ after => start.SameCards after.store) :=
    yields_attempt_kept (same.trans (call_sameCards tame world.store))
  apply (kept.and yields_readMobileGateway).onSuccess
  rintro gateway after ⟨same, stored⟩
  have listed : after.store.listed? id = some gateway.simIds :=
    congrArg (Option.map MobileGateway.simIds) stored
  exact ⟨same.listed ▸ listed, listed, same.addresses⟩

/-- An update registers and addresses the cards that the gateway does not list yet. -/
theorem update_enrolls (blueprint : MobileGatewayBlueprint) (same : start.SameCards world.store) :
    Yields context Cloud.remote (blueprint.update zone) world
      (fun result after => ∃ registered, start.listed? result.id = some registered ∧
        after.store.Enrolls result.id
          (registered ++ (blueprint.newSims registered).map SimSpec.simId)
          (assignAll SimSpec.simId SimSpec.ipAddress start.address? (blueprint.newSims registered)))
      (fun _ _ => True) := by
  rw [update, yields_bind]
  apply Yields.checked _ fun _ _ => trivial
  intro _
  rw [yields_bind]
  apply Yields.checked _ fun _ _ => trivial
  intro _
  rw [yields_bind, Build.call, yields_during]
  apply (read_enrolls same).mono _ fun _ _ _ => trivial
  rintro current seen ⟨listed, enrolls⟩
  have applies : Orderly Request.KeepsCards (blueprint.applySettings zone current).run :=
    .step rfl ⟨fun _ _ => rfl, rfl⟩ fun _ => .call rfl ⟨trivial, rfl⟩
  apply (enrolls.orderly applies).bind
  intro _ applied enrolls
  -- What the read has shown decides which cards are passed over, not what is listed by now.
  apply (blueprint.registerSims_enrolls enrolls).bind
  intro _ last enrolls
  exact ⟨current.simIds, listed, enrolls⟩

/-- A build that succeeds declares no card twice. -/
theorem build_distinct (blueprint : MobileGatewayBlueprint) :
    Yields context Cloud.remote (blueprint.build zone) world
      (fun _ _ => (blueprint.sims.map SimSpec.simId).Nodup) (fun _ _ => True) := by
  rw [build, validate, yields_bind, yields_bind]
  apply Yields.checked _ fun _ _ => trivial
  intro accepted
  have distinct := checkFields_distinct accepted
  exact .of_forall (fun _ _ => .of_forall (fun _ _ => distinct) fun _ _ => trivial)
    fun _ _ => trivial

/-- An update of a gateway succeeds only when no card is declared twice. -/
theorem update_distinct (blueprint : MobileGatewayBlueprint) :
    Yields context Cloud.remote (blueprint.update zone) world
      (fun _ _ => (blueprint.sims.map SimSpec.simId).Nodup) (fun _ _ => True) := by
  rw [update, yields_bind]
  apply Yields.checked _ fun _ _ => trivial
  intro _
  rw [yields_bind]
  apply Yields.checked _ fun _ _ => trivial
  intro accepted
  exact .of_forall (fun _ _ => checkFields_distinct accepted) fun _ _ => trivial

end MobileGatewayBlueprint

namespace Cloud

/-- A gateway serves a declared card after a run when it lists the card once. A card that it did not
list before has got the declared address, and any other card keeps the address that it had. -/
structure Serves (before after : Cloud) (id : ResourceId) (registered : List ResourceId)
    (sim : SimSpec) : Prop where
  once : ∃ listed, after.listed? id = some listed ∧ listed.count sim.simId = 1
  addressed : sim.simId ∉ registered → after.address? sim.simId = some sim.ipAddress
  kept : sim.simId ∈ registered → ∀ address, before.address? sim.simId = some address →
    after.address? sim.simId = some address

/-- A tidy gateway lists no card twice. -/
theorem Tidy.listed {cloud : Cloud} (tidy : cloud.Tidy) {id : ResourceId} {listed : List ResourceId}
    (found : cloud.listed? id = some listed) : listed.Nodup := by
  obtain ⟨gateway, stored, rfl⟩ := Option.map_eq_some_iff.mp found
  exact (tidy.gateways id gateway stored).2

/-- A gateway that has enrolled the new cards after the registered ones serves every declared card.
-/
theorem Enrolls.serves {before after : Cloud} {id : ResourceId} {registered : List ResourceId}
    {blueprint : MobileGatewayBlueprint} (tidy : after.Tidy)
    (distinct : (blueprint.sims.map SimSpec.simId).Nodup)
    (enrolls : after.Enrolls id (registered ++ (blueprint.newSims registered).map SimSpec.simId)
      (assignAll SimSpec.simId SimSpec.ipAddress before.address? (blueprint.newSims registered))) :
    ∀ sim ∈ blueprint.sims, Serves before after id registered sim := by
  intro sim declared
  refine ⟨⟨_, enrolls.listed, ?_⟩, fun new => ?_, fun old address given => ?_⟩
  · apply List.count_eq_one_of_mem (tidy.listed enrolls.listed)
    by_cases old : sim.simId ∈ registered
    · exact List.mem_append_left _ old
    · have new := MobileGatewayBlueprint.mem_newSims.mpr ⟨declared, old⟩
      exact List.mem_append_right _ (List.mem_map_of_mem new)
  · rw [enrolls.addresses]
    exact assignAll_of_mem (blueprint.newSims_distinct distinct registered) sim
      (MobileGatewayBlueprint.mem_newSims.mpr ⟨declared, new⟩)
  · rw [enrolls.addresses, ← given]
    apply assignAll_of_notMem
    intro again
    obtain ⟨other, member, same⟩ := List.mem_map.mp again
    exact (MobileGatewayBlueprint.mem_newSims.mp member).2 (same ▸ old)

end Cloud

namespace Errand

variable {errand : Errand} {blueprint : MobileGatewayBlueprint} {result : BuildResult}

/-- These are the cards that a run passes over. A build finds none. -/
def registeredBefore (errand : Errand) (cloud : Cloud) (id : ResourceId) : List ResourceId :=
  if errand.updates then (cloud.listed? id).getD [] else []

/-- A run that succeeds enrolls its new cards after the registered ones. -/
theorem enrolls {cloud : Cloud} (gateway : errand.appliance = .mobileGateway blueprint)
    (outcome : errand.outcome cloud = .ok result) :
    (blueprint.sims.map SimSpec.simId).Nodup ∧
      let registered := errand.registeredBefore cloud result.id
      (errand.after cloud).Enrolls result.id
        (registered ++ (blueprint.newSims registered).map SimSpec.simId)
        (assignAll SimSpec.simId SimSpec.ipAddress cloud.address?
          (blueprint.newSims registered)) := by
  have same : cloud.SameCards (errand.start cloud).store := ⟨rfl, rfl⟩
  let enrolled (result : BuildResult) (after : World Cloud) : Prop :=
    (blueprint.sims.map SimSpec.simId).Nodup ∧
      let registered := errand.registeredBefore cloud result.id
      after.store.Enrolls result.id
        (registered ++ (blueprint.newSims registered).map SimSpec.simId)
        (assignAll SimSpec.simId SimSpec.ipAddress cloud.address? (blueprint.newSims registered))
  have yields : Yields errand.context Cloud.remote errand.plan (errand.start cloud) enrolled
      (fun _ _ => True) := by
    obtain ⟨zone, appliance, updates, context, timeline, announced⟩ := errand
    subst gateway
    cases updates with
    | false =>
        exact (blueprint.build_distinct.and (blueprint.build_enrolls same)).onSuccess
          fun _ _ both => both
    | true =>
        apply (blueprint.update_distinct.and (blueprint.update_enrolls same)).onSuccess
        rintro result after ⟨distinct, registered, listed, enrolls⟩
        refine ⟨distinct, ?_⟩
        have before : registeredBefore ⟨zone, .mobileGateway blueprint, true, context, timeline,
            announced⟩ cloud result.id = registered := congrArg (Option.getD · []) listed
        rw [before]
        exact enrolls
  exact of_yields yields outcome

end Errand

/-- After every history of builds and updates, whether they have succeeded or failed, a run of a
gateway that succeeds leaves each declared card listed once. A card that the gateway did not list
before the run has got the declared address, and any other card keeps the address that it had. -/
theorem Cloud.serves_declared_cards {start : Cloud} (arises : start.Arises) (earlier : List Errand)
    {errand : Errand} {blueprint : MobileGatewayBlueprint} {result : BuildResult}
    (gateway : errand.appliance = .mobileGateway blueprint)
    (outcome : errand.outcome (start.after earlier) = .ok result) :
    ∀ sim ∈ blueprint.sims, Serves (start.after earlier) (start.after (earlier ++ [errand]))
      result.id (errand.registeredBefore (start.after earlier) result.id) sim := by
  rw [after_append]
  obtain ⟨distinct, enrolls⟩ := errand.enrolls gateway outcome
  exact enrolls.serves (errand.after_arises (arises.after earlier)).tidy distinct

/-- A gateway is built with a card, and an update lists that card with another address and a second
card. -/
theorem Cloud.second_card_isServed :
    let start := (Cloud.empty.seedSim ⟨800⟩).seedSim ⟨801⟩
    let gateway (sims : List SimSpec) : MobileGatewayBlueprint :=
      { (default : MobileGatewayBlueprint) with
        id := ⟨1001⟩
        name := "gw"
        sims
        timing := .uniform 1 5 }
    let errand (sims : List SimSpec) (updates : Bool) : Errand :=
      ⟨⟨"is1a"⟩, .mobileGateway (gateway sims), updates, default, default, []⟩
    let builds := errand [⟨⟨800⟩, ⟨192, 168, 100, 10⟩⟩] false
    let sims : List SimSpec := [⟨⟨800⟩, ⟨192, 168, 100, 20⟩⟩, ⟨⟨801⟩, ⟨192, 168, 100, 11⟩⟩]
    let updates := errand sims true
    ∃ result, updates.outcome (start.after [builds]) = .ok result ∧ result.id = ⟨1001⟩ ∧
      ∀ sim ∈ sims, Serves (start.after [builds]) (start.after [builds, updates]) ⟨1001⟩
        [⟨800⟩] sim := by
  intro start gateway errand builds sims updates
  have succeeds : (updates.outcome (start.after [builds])).toOption.map BuildResult.id =
      some ⟨1001⟩ := by decide +kernel
  have before : updates.registeredBefore (start.after [builds]) ⟨1001⟩ = [⟨800⟩] := by
    decide +kernel
  have arises : start.Arises := .prepared .empty rfl rfl
  cases outcome : updates.outcome (start.after [builds]) with
  | error error =>
      rw [outcome] at succeeds
      nomatch succeeds
  | ok result =>
      rw [outcome] at succeeds
      have named : result.id = ⟨1001⟩ := Option.some.inj succeeds
      refine ⟨result, rfl, named, ?_⟩
      rw [← before, ← named]
      exact serves_declared_cards arises [builds] rfl outcome

/-- A card is registered, the address of a second card fails, and an update lists both cards with
new addresses. It succeeds, and neither card has the address that it lists. -/
theorem Cloud.registered_cards_arePassedOver :
    let start := (Cloud.empty.seedSim ⟨800⟩).seedSim ⟨801⟩
    let first : SimSpec := ⟨⟨800⟩, ⟨192, 168, 100, 10⟩⟩
    let moved : SimSpec := ⟨⟨800⟩, ⟨192, 168, 100, 20⟩⟩
    let second : SimSpec := ⟨⟨801⟩, ⟨192, 168, 100, 11⟩⟩
    let gateway (sims : List SimSpec) : MobileGatewayBlueprint :=
      { (default : MobileGatewayBlueprint) with
        id := ⟨1001⟩
        name := "gw"
        sims
        timing := .uniform 1 5 }
    let errand (sims : List SimSpec) (updates : Bool)
        (announced : List (Endpoint × RemoteError)) : Errand :=
      ⟨⟨"is1a"⟩, .mobileGateway (gateway sims), updates, default, default, announced⟩
    let builds := errand [first] false []
    let fails := errand [first, second] true [(.assignSimIp, .api 503 "busy" "try again later")]
    let updates := errand [moved, second] true []
    (updates.outcome (start.after [builds, fails])).isOk ∧
      ∀ sim ∈ [moved, second],
        (start.after [builds, fails, updates]).address? sim.simId ≠ some sim.ipAddress := by
  decide +kernel

end Provisioning
