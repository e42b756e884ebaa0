import Provisioning.Proofs.Cards
import Provisioning.Proofs.ServerConvergence

/-!
Missing cards. A build of a gateway looks every card and the switch up before it changes anything.
An update does not: it meets the cards one by one while it registers them. The main statement says
what each of the two has done when something is missing.
-/

namespace Provisioning

open Program Cloud

namespace Cloud

/-- A cloud has a declared card when the card is stored. -/
def hasCard (cloud : Cloud) (sim : SimSpec) : Bool := (cloud.sims.get? sim.simId).isSome

variable {before after : Cloud}

/-- A card that is replaced is still there, and so are all the others. -/
theorem hasCard_insert {simId : ResourceId} {card former : Sim}
    (stored : before.sims.get? simId = some former)
    (sims : after.sims = before.sims.insert simId card) : after.hasCard = before.hasCard := by
  funext sim
  rw [hasCard, hasCard, sims, SortedMap.get?_insert]
  split
  next same => rw [same, stored, Option.isSome_some, Option.isSome_some]
  next => rfl

/-- Mutating calls that are logged are added to the mutating calls. -/
theorem mutatingCalls_of_logged {endpoints : List Endpoint}
    (logged : after.calls = before.calls ++ endpoints)
    (mutate : ∀ endpoint ∈ endpoints, endpoint.isReadOnly = false) :
    after.mutatingCalls = before.mutatingCalls ++ endpoints := by
  have all : endpoints.filter (fun endpoint => !endpoint.isReadOnly) = endpoints :=
    List.filter_eq_self.mpr fun endpoint member => by rw [mutate endpoint member]; rfl
  rw [mutatingCalls, logged, List.filter_append, all, mutatingCalls]

/-- A stored gateway with these settings has admitted the served cards after the registered ones,
each with its address, and only these mutating calls were made for it. -/
structure Admitted (start : Cloud) (id : ResourceId) (settings : MobileGatewaySettings)
    (registered : List ResourceId) (served : List SimSpec) (made : List Endpoint)
    (now : Cloud) : Prop where
  silent : now.failures = []
  made : now.mutatingCalls = start.mutatingCalls ++ made
  gateway : ∃ gateway, now.mobileGateways.get? id = some gateway ∧ gateway.settings = settings ∧
    gateway.simIds = registered ++ served.map SimSpec.simId
  cards : now.hasCard = start.hasCard
  addresses : now.address? = assignAll SimSpec.simId SimSpec.ipAddress start.address? served

end Cloud

namespace World

variable {world now : World Cloud}

theorem Viewed.refl (world : World Cloud) : world.Viewed world := ⟨.refl world.store, rfl⟩

/-- A view of a world is a look at its cloud. -/
theorem Viewed.looked (viewed : world.Viewed now) : world.store.Looked now.store := by
  rw [viewed.same]
  exact ⟨rfl, fun _ => rfl⟩

end World

/-- A lookup only views the world. It says which record is missing when the record is not stored. -/
theorem Program.yields_viewed_lookup {context : Context} {world now : World Cloud} {label : String}
    (silent : world.store.failures = []) (viewed : world.Viewed now) (request : Request)
    (looks : request.endpoint.isReadOnly) (table : Cloud.Table request.Answer) (id : ResourceId)
    (looksUp : answerRequest request = table.find id) (steady : table.Steady) :
    Yields context Cloud.remote (Build.call label request) now
      (fun record after => world.Viewed after ∧
        (table.read world.store).get? id = some record)
      (fun error after => world.Viewed after ∧ (table.read world.store).get? id = none ∧
        error = .notFound table.resource id.text) := by
  have silentNow : now.store.failures = [] := by
    rw [viewed.same]
    exact silent
  have logged : now.Viewed
      { now with store := now.store.logging request now.store.failures } :=
    ⟨⟨[request.endpoint], rfl, List.forall_mem_singleton.mpr looks⟩, rfl⟩
  apply yields_silent_call silentNow
  rw [looksUp, CloudStep.yields_find, steady.read_eq (.logging request now.store.failures),
    steady.read_eq viewed.looked]
  cases (table.read world.store).get? id with
  | none => exact ⟨viewed.trans logged, rfl, rfl⟩
  | some record => exact ⟨viewed.trans logged, rfl⟩

/-- A lookup only views the world, and it fails as not found when the record is not stored. -/
theorem Program.yields_viewed_find {context : Context} {world now : World Cloud} {label : String}
    (silent : world.store.failures = []) (viewed : world.Viewed now) (request : Request)
    (looks : request.endpoint.isReadOnly) (table : Cloud.Table request.Answer) (id : ResourceId)
    (looksUp : answerRequest request = table.find id) (steady : table.Steady) :
    Yields context Cloud.remote (Build.call label request) now
      (fun _ after => world.Viewed after ∧
        ∃ record, (table.read world.store).get? id = some record)
      (fun error after => world.Viewed after ∧ error.isNotFound) := by
  apply (yields_viewed_lookup silent viewed request looks table id looksUp steady).mono
  · exact fun record _ ⟨viewed, stored⟩ => ⟨viewed, record, stored⟩
  · rintro error after ⟨viewed, -, rfl⟩
    exact ⟨viewed, rfl⟩

/-- Each card is registered with one call and addressed with another one. -/
def registering (served : List SimSpec) : List Endpoint :=
  served.flatMap fun _ => [.addSim, .assignSimIp]

theorem registering_cons (sim : SimSpec) (rest : List SimSpec) :
    registering (sim :: rest) = registering [sim] ++ registering rest := rfl

theorem registering_mutates (served : List SimSpec) :
    ∀ endpoint ∈ registering served, endpoint.isReadOnly = false := by
  intro endpoint member
  obtain ⟨sim, _, either⟩ := List.mem_flatMap.mp member
  rcases List.mem_pair.mp either with same | same <;> rw [same] <;> rfl

namespace MobileGatewayBlueprint

variable {context : Context} {world : World Cloud} {zone : Zone} {start : Cloud} {id : ResourceId}
  {settings : MobileGatewaySettings} {registered : List ResourceId} {served : List SimSpec}
  {made : List Endpoint}

/-- A stored card that is new to the gateway is admitted. -/
theorem registerSim_admits {sim : SimSpec}
    (admitted : start.Admitted id settings registered served made world.store)
    (held : start.hasCard sim) (new : sim.simId ∉ registered ++ served.map SimSpec.simId) :
    Yields context Cloud.remote (registerSim zone id sim) world
      (fun _ after => start.Admitted id settings registered (served ++ [sim])
        (made ++ registering [sim]) after.store)
      (fun _ _ => False) := by
  obtain ⟨silent, calls, ⟨gateway, stored, same, listed⟩, cards, addresses⟩ := admitted
  rw [← cards] at held
  obtain ⟨card, present⟩ := Option.isSome_iff_exists.mp held
  rw [registerSim, yields_bind]
  apply yields_silent_call silent
  rw [answerRequest, answerMobileGateway, addSim, CloudStep.yields_bind]
  apply CloudStep.Yields.find _ _ present
  rw [CloudStep.yields_bind]
  apply CloudStep.Yields.find _ _ stored
  rw [if_neg (by rwa [listed, List.contains_iff_mem]), CloudStep.yields_bind]
  apply CloudStep.Yields.change _ _ stored
  rw [CloudStep.yields_pure]
  refine yields_silent_call silent ?_
  rw [answerRequest, answerSim, CloudStep.yields_bind]
  apply CloudStep.Yields.change _ _ present
  rw [CloudStep.yields_pure]
  refine ⟨silent, ?_, ⟨_, SortedMap.get?_insert_self _ _ _, same, ?_⟩, ?_, ?_⟩
  · calc
      _ = world.store.mutatingCalls ++ registering [sim] :=
        mutatingCalls_of_logged (List.append_assoc _ _ _) (registering_mutates [sim])
      _ = _ := by rw [calls, List.append_assoc]
  · rw [List.map_append, ← List.append_assoc, ← listed]
    rfl
  · exact (hasCard_insert present rfl).trans cards
  · rw [assignAll_append, ← addresses]
    exact address?_insert rfl rfl

/-- A card that is not stored is asked for in vain, and nothing changes but the log. -/
theorem registerSim_misses {sim : SimSpec}
    (admitted : start.Admitted id settings registered served made world.store)
    (missing : start.hasCard sim = false) :
    Yields context Cloud.remote (registerSim zone id sim) world (fun _ _ => False)
      (fun error after => error = .notFound "SIM" sim.simId.text ∧
        start.Admitted id settings registered served (made ++ [.addSim]) after.store) := by
  obtain ⟨silent, calls, gateway, cards, addresses⟩ := admitted
  rw [← cards] at missing
  have absent : world.store.sims.get? sim.simId = none :=
    Option.isNone_iff_eq_none.mp (Option.isSome_eq_false_iff.mp missing)
  rw [registerSim, yields_bind]
  apply yields_silent_call silent
  rw [answerRequest, answerMobileGateway, addSim, CloudStep.yields_bind, CloudStep.yields_find]
  have unknown : (simTable.read (world.store.logging (.mobileGateway zone (.addSim id sim.simId))
      world.store.failures)).get? sim.simId = none := absent
  rw [unknown]
  refine ⟨rfl, silent, ?_, gateway, cards, addresses⟩
  calc
    _ = world.store.mutatingCalls ++ [.addSim] :=
      mutatingCalls_of_logged rfl (List.forall_mem_singleton.mpr rfl)
    _ = _ := by rw [calls, List.append_assoc]

/-- Cards are admitted up to the first one that is not stored. There the registration fails. -/
theorem forM_registerSim_admits {sims : List SimSpec}
    (admitted : start.Admitted id settings registered served made world.store)
    (distinct : (sims.map SimSpec.simId).Nodup)
    (new : ∀ sim ∈ sims, sim.simId ∉ registered ++ served.map SimSpec.simId) :
    Yields context Cloud.remote (sims.forM (registerSim zone id)) world
      (fun _ after => sims.find? (fun sim => !start.hasCard sim) = none ∧
        start.Admitted id settings registered (served ++ sims.takeWhile start.hasCard)
          (made ++ registering (sims.takeWhile start.hasCard)) after.store)
      (fun error after => ∃ sim, sims.find? (fun sim => !start.hasCard sim) = some sim ∧
        error = .notFound "SIM" sim.simId.text ∧
        start.Admitted id settings registered (served ++ sims.takeWhile start.hasCard)
          (made ++ registering (sims.takeWhile start.hasCard) ++ [.addSim]) after.store) := by
  -- The served cards and the calls grow along the list, so the induction generalizes both.
  induction sims generalizing world served made with
  | nil =>
      rw [List.takeWhile_nil, List.append_nil]
      exact ⟨rfl, (List.append_nil made).symm ▸ admitted⟩
  | cons sim rest inductionHypothesis =>
      rw [List.forM, yields_bind]
      cases held : start.hasCard sim with
      | false =>
          apply (registerSim_misses admitted held).mono
          · exact fun _ _ => False.elim
          · rintro error after ⟨same, admittedStill⟩
            rw [List.takeWhile_cons_of_neg (by simp [held]), List.append_nil]
            refine ⟨sim, List.find?_cons_of_pos (by simp [held]), same, ?_⟩
            exact (List.append_nil made).symm ▸ admittedStill
      | true =>
          obtain ⟨apart, distinctRest⟩ := List.nodup_cons.mp distinct
          obtain ⟨newHere, newRest⟩ := List.forall_mem_cons.mp new
          have newLater : ∀ other ∈ rest,
              other.simId ∉ registered ++ (served ++ [sim]).map SimSpec.simId := by
            intro other member again
            rw [List.map_append, ← List.append_assoc] at again
            rcases List.mem_append.mp again with before | here
            · exact newRest other member before
            · exact apart (List.mem_singleton.mp here ▸ List.mem_map_of_mem member)
          apply (registerSim_admits admitted held newHere).mono
          · intro _ now admittedNow
            have later := inductionHypothesis admittedNow distinctRest newLater
            rw [List.takeWhile_cons_of_pos held, List.find?_cons_of_neg (by simp [held]),
              List.append_cons served, registering_cons, ← List.append_assoc made]
            exact later
          · exact fun _ _ => False.elim

/-- The read of a stored gateway shows the record that is stored from then on. -/
theorem read_admits {gateway : MobileGateway} (silent : world.store.failures = [])
    (stored : world.store.mobileGateways.get? id = some gateway) (named : gateway.id = id) :
    Yields context Cloud.remote
      (Build.call "read mobile gateway" (.mobileGateway zone (.read id))) world
      (fun current after => current.id = id ∧ current.simIds = gateway.simIds ∧
        after.store.mobileGateways.get? id = some current ∧
        world.store.Admitted id gateway.settings gateway.simIds [] [] after.store)
      (fun _ _ => False) := by
  -- The read may settle the gateway, which leaves its settings and its cards alone.
  have admits (current : MobileGateway) (pending : Records Nat)
      (gateways : Records MobileGateway) (found : gateways.get? id = some current)
      (settings : current.settings = gateway.settings) (listed : current.simIds = gateway.simIds) :
      world.store.Admitted id gateway.settings gateway.simIds [] []
        { world.store.logging (.mobileGateway zone (.read id)) world.store.failures with
          pending := pending
          mobileGateways := gateways } := by
    have browsed : world.store.Browsed
        { world.store.logging (.mobileGateway zone (.read id)) world.store.failures with
          pending := pending
          mobileGateways := gateways } :=
      ⟨[.readMobileGateway], rfl, List.forall_mem_singleton.mpr rfl⟩
    refine ⟨silent, ?_, ⟨current, found, settings, ?_⟩, rfl, rfl⟩
    · rw [browsed.mutatingCalls, List.append_nil]
    · rw [listed, List.map_nil, List.append_nil]
  have here : (mobileGatewayTable.read (world.store.logging (.mobileGateway zone (.read id))
      world.store.failures)).get? id = some gateway := stored
  have settled := SortedMap.get?_insert_self world.store.mobileGateways id
    { gateway with availability := settledAvailability gateway.availability }
  apply yields_silent_call silent
  rw [answerRequest, answerMobileGateway, CloudStep.yields_readSettling, here]
  dsimp only
  split
  · apply CloudStep.Yields.change _ _ stored
    exact ⟨named, rfl, settled, admits _ _ _ settled rfl rfl⟩
  · split
    · apply CloudStep.Yields.find _ _ stored
      exact ⟨named, rfl, stored, admits _ _ _ stored rfl rfl⟩
    · apply CloudStep.Yields.change _ _ stored
      exact ⟨named, rfl, settled, admits _ _ _ settled rfl rfl⟩

/-- The settings of a gateway are written and applied with the hash that the read has shown. -/
theorem applySettings_admits {blueprint : MobileGatewayBlueprint} {current : MobileGateway}
    (named : current.id = id)
    (stored : world.store.mobileGateways.get? id = some current)
    (admitted : start.Admitted id settings registered served made world.store) :
    Yields context Cloud.remote (blueprint.applySettings zone current) world
      (fun _ after => start.Admitted id blueprint.settings registered served
        (made ++ [.updateMobileGateway, .configMobileGateway]) after.store)
      (fun _ _ => False) := by
  obtain ⟨silent, calls, ⟨gateway, here, -, listed⟩, cards, addresses⟩ := admitted
  cases stored.symm.trans here
  subst named
  rw [applySettings, yields_bind]
  refine yields_silent_call silent ?_
  rw [answerRequest, answerMobileGateway, updateMobileGateway, CloudStep.yields_bind,
    CloudStep.yields_freshHash, CloudStep.yields_bind]
  apply CloudStep.Yields.find _ _ stored
  rw [CloudStep.yields_bind, CloudStep.yields_checkHash, updateRequest, if_pos rfl]
  apply CloudStep.Yields.change _ _ stored
  refine yields_silent_call silent ?_
  rw [answerRequest, answerMobileGateway, CloudStep.yields_bind]
  apply CloudStep.Yields.find _ _ (SortedMap.get?_insert_self _ _ _)
  rw [CloudStep.yields_pure]
  refine ⟨silent, ?_, ⟨_, SortedMap.get?_insert_self _ _ _, rfl, listed⟩, cards, addresses⟩
  calc
    _ = world.store.mutatingCalls ++ [.updateMobileGateway, .configMobileGateway] :=
      mutatingCalls_of_logged (List.append_assoc _ _ _) (by decide)
    _ = _ := by rw [calls, List.append_assoc]

section Missing

variable {blueprint : MobileGatewayBlueprint}

/-- A validation that lacks a card or the switch fails as not found after looks alone. -/
theorem validate_views (silent : world.store.failures = [])
    (accepted : blueprint.checkFields = .ok ()) :
    Yields context Cloud.remote (blueprint.validate zone) world
      (fun _ _ => blueprint.PluggedIn world.store ∧ CardsIn blueprint.sims world.store)
      (fun error after => world.Viewed after ∧ error.isNotFound) := by
  have cards (now : World Cloud) (viewed : world.Viewed now) : Yields context Cloud.remote
      (blueprint.sims.forM fun sim => do
        let _ ← Build.call "read SIM" (.sim (.read sim.simId))) now
      (fun _ after => world.Viewed after ∧ CardsIn blueprint.sims world.store)
      (fun error after => world.Viewed after ∧ error.isNotFound) := by
    apply Yields.forM world.Viewed _ _ viewed
    intro sim _ now viewed
    exact (yields_viewed_find silent viewed (.sim (.read sim.simId)) rfl simTable sim.simId rfl
      fun _ _ _ _ _ => rfl).bind fun _ _ found => found
  rw [validate, accepted, yields_bind, yields_liftExcept]
  dsimp only
  split
  next interface present =>
    apply (yields_viewed_find silent (.refl world)
      (.catalogue zone (.readSwitch interface.switchId)) rfl switchTable interface.switchId rfl
      fun _ _ _ _ _ => rfl).bind
    rintro _ now ⟨viewed, plugged⟩
    apply (cards now viewed).mono _ fun _ _ failed => failed
    rintro _ after ⟨-, found⟩
    refine ⟨fun other same => ?_, found⟩
    cases present.symm.trans same
    exact plugged
  next interface absent =>
    apply (cards world (.refl world)).mono _ fun _ _ failed => failed
    rintro _ after ⟨-, found⟩
    exact ⟨fun other same => absurd same (absent other), found⟩

/-- An update admits the new cards up to the first one that is missing. -/
theorem update_admits {gateway : MobileGateway} (silent : world.store.failures = [])
    (set : Check.requireSet "mobile gateway" "id" blueprint.id = .ok ())
    (accepted : blueprint.checkFields = .ok ())
    (stored : world.store.mobileGateways.get? blueprint.id = some gateway)
    (named : gateway.id = blueprint.id) :
    let new := blueprint.newSims gateway.simIds
    let served := new.takeWhile world.store.hasCard
    let made := [.updateMobileGateway, .configMobileGateway] ++ registering served
    Yields context Cloud.remote (blueprint.update zone) world
      (fun result after => new.find? (fun sim => !world.store.hasCard sim) = none ∧
        result = .ofId blueprint.id ∧ world.store.Admitted blueprint.id blueprint.settings
          gateway.simIds served made after.store)
      (fun error after => ∃ sim, new.find? (fun sim => !world.store.hasCard sim) = some sim ∧
        error = .notFound "SIM" sim.simId.text ∧ world.store.Admitted blueprint.id
          blueprint.settings gateway.simIds served (made ++ [.addSim]) after.store) := by
  intro new served made
  rw [update, set, accepted, yields_bind, yields_liftExcept]
  dsimp only
  rw [yields_bind, yields_liftExcept]
  dsimp only
  rw [yields_bind]
  apply (read_admits silent stored named).mono _ fun _ _ => False.elim
  rintro current seen ⟨namedNow, listed, storedNow, admitted⟩
  rw [yields_bind]
  apply (applySettings_admits namedNow storedNow admitted).mono _ fun _ _ => False.elim
  intro _ applied admitted
  have isNew : ∀ sim ∈ new, sim.simId ∉ gateway.simIds ++ [].map SimSpec.simId := by
    intro sim member
    rw [List.map_nil, List.append_nil]
    exact (mem_newSims.mp member).2
  have distinct := newSims_distinct (checkFields_distinct accepted) gateway.simIds
  rw [listed, yields_bind]
  apply (forM_registerSim_admits admitted distinct isNew).mono
  · rintro _ _ ⟨complete, admitted⟩
    exact ⟨complete, rfl, admitted⟩
  · exact fun _ _ missing => missing

/-- A build that lacks a card or the switch of the interface fails as not found after looks alone.
An update of a stored gateway looks neither up. In any case it writes and applies the settings, and
then it admits the new cards one by one. It fails as not found at the first one that is missing,
and then it has admitted all the cards before that one. A switch that is missing goes unnoticed. -/
theorem updates_before_lookups (blueprint : MobileGatewayBlueprint) (context : Context)
    (world : World Cloud) (zone : Zone) {gateway : MobileGateway}
    (silent : world.store.failures = [])
    (set : Check.requireSet "mobile gateway" "id" blueprint.id = .ok ())
    (accepted : blueprint.checkFields = .ok ())
    (stored : world.store.mobileGateways.get? blueprint.id = some gateway)
    (named : gateway.id = blueprint.id) :
    (¬ (blueprint.PluggedIn world.store ∧ CardsIn blueprint.sims world.store) →
      ∃ error after, (blueprint.build zone).run.run context Cloud.remote world =
        (.error error, after) ∧ error.isNotFound ∧ world.Viewed after) ∧
    let new := blueprint.newSims gateway.simIds
    let served := new.takeWhile world.store.hasCard
    let missing := new.find? fun sim => !world.store.hasCard sim
    ∃ after, (blueprint.update zone).run.run context Cloud.remote world =
        (missing.elim (.ok (.ofId blueprint.id)) fun sim => .error (.notFound "SIM" sim.simId.text),
          after) ∧
      world.store.Admitted blueprint.id blueprint.settings gateway.simIds served
        ([.updateMobileGateway, .configMobileGateway] ++ registering served ++
          missing.toList.map fun _ => .addSim) after.store := by
  constructor
  · intro lacking
    have validates : Yields context Cloud.remote (blueprint.validate zone) world _ _ :=
      validate_views silent accepted
    unfold Yields at validates
    split at validates
    next checked after passed => exact absurd validates lacking
    next error after failed =>
      obtain ⟨viewed, notFound⟩ := validates
      exact ⟨error, after, (run_bind_of_error _ failed).1, notFound, viewed⟩
  · intro new served missing
    have updates : Yields context Cloud.remote (blueprint.update zone) world _ _ :=
      update_admits silent set accepted stored named
    unfold Yields at updates
    split at updates
    next result after ran =>
      obtain ⟨complete, rfl, admitted⟩ := updates
      have nothing : missing = none := complete
      rw [nothing, Option.toList_none, List.map_nil, List.append_nil]
      exact ⟨after, ran, admitted⟩
    next error after ran =>
      obtain ⟨sim, found, rfl, admitted⟩ := updates
      have first : missing = some sim := found
      rw [first]
      exact ⟨after, ran, admitted⟩

/-- An update meets a stored card, which it registers, and then a missing one, where it fails. -/
theorem missing_card_stops_update :
    let blueprint : MobileGatewayBlueprint :=
      { (default : MobileGatewayBlueprint) with
        id := ⟨1001⟩
        name := "gw"
        sims := [⟨⟨800⟩, ⟨192, 168, 100, 10⟩⟩, ⟨⟨899⟩, ⟨192, 168, 100, 11⟩⟩] }
    let created := (Cloud.call (.mobileGateway ⟨"is1a"⟩ (.create blueprint.createRequest))
      (Cloud.empty.seedSim ⟨800⟩)).2
    ∃ after, (blueprint.update ⟨"is1a"⟩).run.run default Cloud.remote ⟨default, created⟩ =
        (.error (.notFound "SIM" "899"), after) ∧
      after.store.mutatingCalls = [.createMobileGateway, .updateMobileGateway,
        .configMobileGateway, .addSim, .assignSimIp, .addSim] := by
  intro blueprint created
  obtain ⟨-, after, ran, admitted⟩ :=
    updates_before_lookups blueprint default ⟨default, created⟩ ⟨"is1a"⟩ rfl (by decide)
      (by decide) rfl rfl
  refine ⟨after, ran.trans ?_, admitted.made.trans (by decide)⟩
  exact congrArg (fun outcome => (outcome, after)) (by decide)

/-- The switch of the interface is not stored, and the update succeeds. -/
theorem missing_switch_goes_unnoticed :
    let interface : MobileGatewayInterface :=
      { (default : MobileGatewayInterface) with switchId := ⟨510⟩ }
    let blueprint : MobileGatewayBlueprint :=
      { (default : MobileGatewayBlueprint) with id := ⟨1001⟩, name := "gw", interface }
    let created := (Cloud.call (.mobileGateway ⟨"is1a"⟩ (.create blueprint.createRequest))
      Cloud.empty).2
    let (outcome, after) := (blueprint.update ⟨"is1a"⟩).run.run default Cloud.remote
      ⟨default, created⟩
    created.failures = [] ∧ blueprint.checkFields = .ok () ∧
      created.switches.get? ⟨510⟩ = none ∧ outcome.isOk ∧
      after.store.mutatingCalls =
        [.createMobileGateway, .updateMobileGateway, .configMobileGateway] := by
  decide

end Missing

end MobileGatewayBlueprint

end Provisioning
