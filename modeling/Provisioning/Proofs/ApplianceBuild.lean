import Provisioning.Blueprint.Database
import Provisioning.Blueprint.MobileGateway
import Provisioning.Blueprint.VpcRouter
import Provisioning.Proofs.Look
import Provisioning.Proofs.Waits

/-!
Builds of appliances: databases, routers of a private cloud and mobile gateways. A validation finds
everything that its blueprint refers to, and after that a build does not fail in quiet
circumstances.
-/

namespace Provisioning.DatabaseBlueprint

open Program Cloud

variable {quiet : Prop} {context : Context} {world : World Cloud} {zone : Zone}
  {blueprint : DatabaseBlueprint} {id : ResourceId}

/-- After a validation of a database its switch is found, and the cloud has only been looked at. -/
theorem validate_yields (calm : Calm quiet context world) :
    Yields context Cloud.remote (blueprint.validate zone) world
      (fun _ after => (Calm quiet context after ∧ world.store.Looked after.store) ∧
        ∃ switch, world.store.switches.get? blueprint.switchId = some switch)
      (fun _ _ => True) := by
  rw [validate, yields_bind, yields_liftExcept]
  cases blueprint.checkFields with
  | error error => trivial
  | ok checked =>
      exact (yields_calm_switch calm (.refl _) zone blueprint.switchId).bind fun _ _ found => found

/-- The record of a new database needs as many reads as any other before it settles. -/
theorem create_yields (calm : Calm quiet context world) {switch : Switch}
    (plugged : world.store.switches.get? blueprint.switchId = some switch) :
    Yields context Cloud.remote
      (Build.call "create database" (.database zone (.create blueprint.createRequest))) world
      (fun database after => Calm quiet context after ∧ database.availability = .migrating ∧
        after.store.databases.get? database.id = some database ∧
        after.store.pending.get? database.id = some world.store.settleReads)
      (fun error _ => error.Excused quiet) := by
  apply yields_calm_call calm
  rw [answerRequest, answerDatabase, createDatabase, CloudStep.yields_bind]
  apply CloudStep.Yields.find _ _ plugged
  intro calmAfter
  refine ⟨calmAfter, rfl, ?_, ?_⟩
  · exact SortedMap.get?_insert_self _ _ _
  · exact SortedMap.get?_insert_self _ _ _

/-- In quiet circumstances the parameters of a stored database are applied without a failure. -/
theorem applyParameters_yields (calm : Calm quiet context world) {database : Database}
    (stored : world.store.databases.get? id = some database) :
    Yields context Cloud.remote (blueprint.applyParameters zone id) world
      (fun _ after => Calm quiet context after) (fun error _ => error.Excused quiet) := by
  rw [applyParameters, yields_ite]
  split
  · exact calm
  · apply yields_calm_call calm
    rw [answerRequest, answerDatabase, setDatabaseParameters, CloudStep.yields_bind]
    exact CloudStep.Yields.find _ _ stored fun calmAfter => calmAfter

/-- A build of a database goes on after its validation. -/
theorem build_goesOn (calm : Calm quiet context world)
    (covers : quiet → blueprint.timing.wait.Covers (world.store.settleReads - 1)) :
    GoesOn quiet context Cloud.remote (blueprint.validate zone) (blueprint.build zone) world := by
  refine ⟨_, rfl, (validate_yields calm).mono ?_ fun _ _ _ => trivial⟩
  rintro - checked ⟨⟨calm, looked⟩, switch, plugged⟩
  rw [← looked.settleReads] at covers
  rw [← looked.switches] at plugged
  apply (create_yields calm plugged).bind
  rintro created after ⟨calm, creating, stored, counting⟩
  have settled : (Reader.databases zone).settled created =
      { created with availability := .available, instanceStatus := .up } := by
    change settledDatabase created = _
    rw [settledDatabase, creating]
    rfl
  apply ((Reader.databases zone).untilReady_yields calm stored (.of_counted counting)
    (congrArg _ creating) (congrArg _ settled) covers).bind
  rintro - ready ⟨calm, -, settles⟩
  have settledAgain : Lifecycle.runStatus ((Reader.databases zone).settled
      ((Reader.databases zone).settled created)) == some .up := by
    rw [settled]
    rfl
  apply ((Reader.databases zone).forState_yields calm settles.stored
    (.of_settled settles.counted) settledAgain (fun _ => rfl)
    (fun silent => (covers silent).zero)).bind
  rintro - up ⟨calm, -, settlesAgain⟩
  apply (applyParameters_yields calm settlesAgain.stored).bind
  exact fun _ _ _ => trivial

end Provisioning.DatabaseBlueprint

namespace Provisioning.VpcRouterBlueprint

open Program Cloud

variable {quiet : Prop} {context : Context} {world : World Cloud} {zone : Zone}
  {blueprint : VpcRouterBlueprint} {id : ResourceId} {router : VpcRouter}

/-- After a validation of a router all switches of its private interfaces are found. -/
theorem validate_yields (calm : Calm quiet context world) :
    Yields context Cloud.remote (blueprint.validate zone) world
      (fun _ after => (Calm quiet context after ∧ world.store.Looked after.store) ∧
        ∀ nic ∈ blueprint.nics, ∃ switch, world.store.switches.get? nic.switchId = some switch)
      (fun _ _ => True) := by
  rw [validate, yields_bind, yields_liftExcept]
  cases blueprint.checkFields with
  | error error => trivial
  | ok checked =>
      let switches :=
        blueprint.switchId.set?.toList ++ blueprint.nics.map VpcRouterInterface.switchId
      have all : Yields context Cloud.remote
          (switches.forM fun id => do
            let _ ← Build.call "read switch" (.catalogue zone (.readSwitch id))) world
          (fun _ after => (Calm quiet context after ∧ world.store.Looked after.store) ∧
            ∀ id ∈ switches, ∃ switch, world.store.switches.get? id = some switch)
          (fun _ _ => True) :=
        .forM _ _ (fun id _ now ⟨calmNow, looked⟩ =>
          (yields_calm_switch calmNow looked zone id).bind fun _ _ found => found) ⟨calm, .refl _⟩
      apply all.mono
      · rintro - after ⟨goesOn, found⟩
        refine ⟨goesOn, fun nic member => ?_⟩
        exact found _ (List.mem_append_right _ (List.mem_map_of_mem member))
      · exact fun _ _ _ => trivial

/-- A new router needs as many reads as any other record before it settles. -/
theorem create_yields (calm : Calm quiet context world) :
    Yields context Cloud.remote
      (Build.call "create VPC router" (.vpcRouter zone (.create blueprint.createRequest))) world
      (fun router after => Calm quiet context after ∧ router.availability = .migrating ∧
        after.store.vpcRouters.get? router.id = some router ∧
        after.store.pending.get? router.id = some world.store.settleReads ∧
        after.store.switches = world.store.switches)
      (fun error _ => error.Excused quiet) := by
  apply yields_calm_call calm
  intro calmAfter
  refine ⟨calmAfter, rfl, ?_, ?_, rfl⟩
  · exact SortedMap.get?_insert_self _ _ _
  · exact SortedMap.get?_insert_self _ _ _

/-- A private interface of a stored router is plugged into a switch that is there, and the routers
and the switches stay as they are. -/
theorem connectNic_yields (calm : Calm quiet context world) {nic : VpcRouterInterface}
    {switch : Switch} (stored : world.store.vpcRouters.get? id = some router)
    (plugged : world.store.switches.get? nic.switchId = some switch) :
    Yields context Cloud.remote (connectNic zone id nic) world
      (fun _ after => Calm quiet context after ∧
        after.store.vpcRouters = world.store.vpcRouters ∧
        after.store.switches = world.store.switches)
      (fun error _ => error.Excused quiet) := by
  apply yields_calm_call calm
  rw [answerRequest, answerVpcRouter, connectVpcRouter, CloudStep.yields_bind]
  apply CloudStep.Yields.find _ _ stored
  rw [CloudStep.yields_bind]
  apply CloudStep.Yields.find _ _ plugged
  exact fun calmAfter => ⟨calmAfter, rfl, rfl⟩

/-- Settings are applied with the hash that is stored. -/
theorem applySettings_yields (calm : Calm quiet context world)
    (stored : world.store.vpcRouters.get? router.id = some router) :
    Yields context Cloud.remote (blueprint.applySettings zone router) world
      (fun _ after => Calm quiet context after ∧
        ∃ changed, after.store.vpcRouters.get? router.id = some changed)
      (fun error _ => error.Excused quiet) := by
  have updated : Yields context Cloud.remote
      (Build.call "update VPC router"
        (.vpcRouter zone (.update router.id (blueprint.updateRequest router.settingsHash)))) world
      (fun _ after => Calm quiet context after ∧
        ∃ changed, after.store.vpcRouters.get? router.id = some changed)
      (fun error _ => error.Excused quiet) := by
    apply yields_calm_call calm
    rw [answerRequest, answerVpcRouter, updateVpcRouter, CloudStep.yields_bind,
      CloudStep.yields_freshHash, CloudStep.yields_bind]
    apply CloudStep.Yields.find _ _ stored
    rw [CloudStep.yields_bind, CloudStep.yields_checkHash, updateRequest, if_pos rfl]
    apply CloudStep.Yields.change _ _ stored
    exact fun calmAfter => ⟨calmAfter, _, SortedMap.get?_insert_self _ _ _⟩
  apply updated.bind
  rintro - after ⟨calmAfter, changed, storedAfter⟩
  apply yields_calm_call calmAfter
  rw [answerRequest, answerVpcRouter, CloudStep.yields_bind]
  apply CloudStep.Yields.find _ _ storedAfter
  exact fun calmLast => ⟨calmLast, changed, storedAfter⟩

/-- In quiet circumstances the boot of a stored router does not fail. -/
theorem boot_yields {timing : Timing} {noWait : Bool} {looks : Nat}
    (calm : Calm quiet context world) (stored : world.store.vpcRouters.get? id = some router)
    (covers : quiet → timing.wait.Covers looks) :
    Yields context Cloud.remote ((vpcRouterPower zone id).switch .boot timing noWait) world
      (fun _ after => Calm quiet context after) (fun error _ => error.Excused quiet) := by
  apply (Reader.vpcRouters zone).boot_yields (fun _ => rfl) _ rfl calm stored
    (fun silent => (covers silent).zero)
  intro now record calmNow found
  have storedNow : now.store.vpcRouters.get? id = some record := found
  apply yields_calm_attempt calmNow
  · rw [answerRequest, answerVpcRouter, CloudStep.yields_bind]
    apply CloudStep.Yields.change _ _ storedNow
    exact fun calmAfter => ⟨calmAfter, _, SortedMap.get?_insert_self _ _ _, rfl⟩
  · exact fun noisy _ _ => noisy

/-- All private interfaces are plugged in when their switches are there. -/
theorem connectNics_yields {nics : List VpcRouterInterface} (calm : Calm quiet context world)
    (stored : world.store.vpcRouters.get? id = some router)
    (plugged : ∀ nic ∈ nics, ∃ switch, world.store.switches.get? nic.switchId = some switch) :
    Yields context Cloud.remote (nics.forM (connectNic zone id)) world
      (fun _ after => Calm quiet context after ∧ after.store.vpcRouters = world.store.vpcRouters)
      (fun error _ => error.Excused quiet) := by
  have connected : Yields context Cloud.remote (nics.forM (connectNic zone id)) world
      (fun _ after => (Calm quiet context after ∧
        after.store.vpcRouters = world.store.vpcRouters ∧
        after.store.switches = world.store.switches) ∧ ∀ nic ∈ nics, True)
      (fun error _ => error.Excused quiet) := by
    apply Yields.forM _ _ _ ⟨calm, rfl, rfl⟩
    rintro nic member now ⟨calmNow, routers, switches⟩
    obtain ⟨switch, pluggedNic⟩ := plugged nic member
    rw [← routers] at stored
    rw [← switches] at pluggedNic
    apply (connectNic_yields calmNow stored pluggedNic).mono
    · rintro - after ⟨calmAfter, routersToo, switchesToo⟩
      exact ⟨⟨calmAfter, routersToo.trans routers, switchesToo.trans switches⟩, trivial⟩
    · exact fun _ _ excused => excused
  apply connected.mono
  · exact fun _ _ ⟨⟨calm, routers, _⟩, _⟩ => ⟨calm, routers⟩
  · exact fun _ _ excused => excused

/-- A build of a router goes on after its validation. -/
theorem build_goesOn (calm : Calm quiet context world)
    (covers : quiet → blueprint.timing.wait.Covers (world.store.settleReads - 1)) :
    GoesOn quiet context Cloud.remote (blueprint.validate zone) (blueprint.build zone) world := by
  refine ⟨_, rfl, (validate_yields calm).mono ?_ fun _ _ _ => trivial⟩
  rintro - checked ⟨⟨calm, looked⟩, plugged⟩
  rw [← looked.settleReads] at covers
  rw [← looked.switches] at plugged
  apply (create_yields calm).bind
  rintro created after ⟨calm, creating, stored, counting, kept⟩
  rw [← kept] at plugged
  have settled : Lifecycle.availability ((Reader.vpcRouters zone).settled created) = .available :=
    settledAvailability_of_migrating creating
  apply ((Reader.vpcRouters zone).untilReady_yields calm stored (.of_counted counting)
    (congrArg _ creating) settled covers).bind
  rintro - ready ⟨calm, rfl, settles⟩
  have kept : ready.store.switches = after.store.switches := by
    obtain ⟨middle, waited, -, same⟩ := settles
    rw [same, waited.rest]
    rfl
  rw [← kept] at plugged
  have storedReady : ready.store.vpcRouters.get? created.id =
      some ((Reader.vpcRouters zone).settled created) := settles.stored
  apply (connectNics_yields calm storedReady plugged).bind
  rintro - after ⟨calm, routers⟩
  rw [← routers] at storedReady
  apply (applySettings_yields calm storedReady).bind
  rintro - after ⟨calm, changed, storedAfter⟩
  rw [yields_ite]
  split
  · apply (boot_yields calm storedAfter covers).bind
    exact fun _ _ _ => trivial
  · trivial

end Provisioning.VpcRouterBlueprint

namespace Provisioning.MobileGatewayBlueprint

open Program Cloud

variable {quiet : Prop} {context : Context} {world : World Cloud} {zone : Zone}
  {blueprint : MobileGatewayBlueprint} {id : ResourceId} {gateway : MobileGateway}
  {registered : List ResourceId}

/-- A gateway whose fields pass their check declares no card twice. -/
theorem checkFields_distinct (accepted : blueprint.checkFields = .ok ()) :
    (blueprint.sims.map SimSpec.simId).Nodup := by
  obtain ⟨-, -, accepted⟩ := Check.of_bind accepted
  apply nodup_of_firstDuplicate
  cases duplicate : firstDuplicate (blueprint.sims.map SimSpec.simId) with
  | none => rfl
  | some id =>
      rw [duplicate] at accepted
      dsimp only at accepted
      split at accepted
      · obtain ⟨-, -, rejected⟩ := Check.of_bind accepted
        nomatch rejected
      · nomatch accepted

/-- All cards of a list are there. -/
def CardsIn (sims : List SimSpec) (cloud : Cloud) : Prop :=
  ∀ sim ∈ sims, ∃ card, cloud.sims.get? sim.simId = some card

/-- The switch of the interface is there. -/
def PluggedIn (blueprint : MobileGatewayBlueprint) (cloud : Cloud) : Prop :=
  ∀ interface, blueprint.interface = some interface →
    ∃ switch, cloud.switches.get? interface.switchId = some switch

/-- After a validation of a gateway the declared cards are distinct, and all of them are found
together with the switch. -/
theorem validate_yields (calm : Calm quiet context world) :
    Yields context Cloud.remote (blueprint.validate zone) world
      (fun _ after => (Calm quiet context after ∧ world.store.Looked after.store) ∧
        (blueprint.sims.map SimSpec.simId).Nodup ∧ blueprint.PluggedIn world.store ∧
          CardsIn blueprint.sims world.store)
      (fun _ _ => True) := by
  rw [validate, yields_bind, yields_liftExcept]
  cases accepted : blueprint.checkFields with
  | error error => trivial
  | ok checked =>
      have distinct := checkFields_distinct accepted
      dsimp only
      have cards : ∀ now : World Cloud,
          Calm quiet context now ∧ world.store.Looked now.store →
            Yields context Cloud.remote
              (blueprint.sims.forM fun sim => do
                let _ ← Build.call "read SIM" (.sim (.read sim.simId))) now
              (fun _ after => (Calm quiet context after ∧ world.store.Looked after.store) ∧
                CardsIn blueprint.sims world.store)
              (fun _ _ => True) := fun now here =>
        .forM _ _ (fun sim _ now ⟨calmNow, looked⟩ =>
          ((yields_calm_finds calmNow looked (.sim (.read sim.simId)) simTable sim.simId rfl
            fun _ _ _ _ _ => rfl).mono (fun _ _ found => found) fun _ _ _ => trivial).bind
              fun _ _ found => found) here
      split
      next interface present =>
        apply (yields_calm_switch calm (.refl _) zone interface.switchId).bind
        rintro - after ⟨here, switch, plugged⟩
        apply (cards after here).mono
        · rintro - last ⟨goesOn, found⟩
          refine ⟨goesOn, distinct, ?_, found⟩
          intro other same
          cases present.symm.trans same
          exact ⟨switch, plugged⟩
        · exact fun _ _ _ => trivial
      next absent =>
        apply (cards world ⟨calm, .refl _⟩).mono
        · rintro - last ⟨goesOn, found⟩
          exact ⟨goesOn, distinct, fun interface present => absurd present (absent interface),
            found⟩
        · exact fun _ _ _ => trivial

/-- A new gateway needs as many reads as any other record before it settles. -/
theorem create_yields (calm : Calm quiet context world) :
    Yields context Cloud.remote
      (Build.call "create mobile gateway" (.mobileGateway zone (.create blueprint.createRequest)))
      world
      (fun gateway after => Calm quiet context after ∧ gateway.availability = .migrating ∧
        gateway.simIds = [] ∧ after.store.mobileGateways.get? gateway.id = some gateway ∧
        after.store.pending.get? gateway.id = some world.store.settleReads ∧
        after.store.switches = world.store.switches ∧ after.store.sims = world.store.sims)
      (fun error _ => error.Excused quiet) := by
  apply yields_calm_call calm
  intro calmAfter
  refine ⟨calmAfter, rfl, rfl, ?_, ?_, rfl, rfl⟩
  · exact SortedMap.get?_insert_self _ _ _
  · exact SortedMap.get?_insert_self _ _ _

/-- A stored gateway is plugged into a switch that is there, and the gateways and the cards stay as
they are. -/
theorem connect_yields (calm : Calm quiet context world) {switchId : ResourceId} {switch : Switch}
    (stored : world.store.mobileGateways.get? id = some gateway)
    (plugged : world.store.switches.get? switchId = some switch) :
    Yields context Cloud.remote
      (Build.call "connect mobile gateway to switch"
        (.mobileGateway zone (.connectToSwitch id switchId))) world
      (fun _ after => Calm quiet context after ∧
        after.store.mobileGateways = world.store.mobileGateways ∧
        after.store.sims = world.store.sims)
      (fun error _ => error.Excused quiet) := by
  apply yields_calm_call calm
  rw [answerRequest, answerMobileGateway, CloudStep.yields_bind]
  apply CloudStep.Yields.find _ _ stored
  rw [CloudStep.yields_bind]
  apply CloudStep.Yields.find _ _ plugged
  exact fun calmAfter => ⟨calmAfter, rfl, rfl⟩

/-- A gateway is stored and has some cards, and all declared cards are there. -/
structure Registered (blueprint : MobileGatewayBlueprint) (id : ResourceId)
    (registered : List ResourceId) (cloud : Cloud) : Prop where
  gateway : ∃ gateway, cloud.mobileGateways.get? id = some gateway ∧ gateway.simIds = registered
  cards : CardsIn blueprint.sims cloud

/-- Settings are applied with the hash that is stored. -/
theorem applySettings_yields (calm : Calm quiet context world)
    (stored : world.store.mobileGateways.get? gateway.id = some gateway)
    (cards : CardsIn blueprint.sims world.store) :
    Yields context Cloud.remote (blueprint.applySettings zone gateway) world
      (fun _ after => Calm quiet context after ∧
        blueprint.Registered gateway.id gateway.simIds after.store)
      (fun error _ => error.Excused quiet) := by
  have updated : Yields context Cloud.remote
      (Build.call "update mobile gateway"
        (.mobileGateway zone
          (.update gateway.id (blueprint.updateRequest gateway.settingsHash)))) world
      (fun _ after => Calm quiet context after ∧
        blueprint.Registered gateway.id gateway.simIds after.store)
      (fun error _ => error.Excused quiet) := by
    apply yields_calm_call calm
    rw [answerRequest, answerMobileGateway, updateMobileGateway, CloudStep.yields_bind,
      CloudStep.yields_freshHash, CloudStep.yields_bind]
    apply CloudStep.Yields.find _ _ stored
    rw [CloudStep.yields_bind, CloudStep.yields_checkHash, updateRequest, if_pos rfl]
    apply CloudStep.Yields.change _ _ stored
    exact fun calmAfter =>
      ⟨calmAfter, ⟨_, SortedMap.get?_insert_self _ _ _, rfl⟩, cards⟩
  apply updated.bind
  rintro - after ⟨calmAfter, ⟨changed, storedAfter, listed⟩, cardsAfter⟩
  apply yields_calm_call calmAfter
  rw [answerRequest, answerMobileGateway, CloudStep.yields_bind]
  apply CloudStep.Yields.find _ _ storedAfter
  exact fun calmLast => ⟨calmLast, ⟨changed, storedAfter, listed⟩, cardsAfter⟩

/-- A card that is not registered yet is registered after the others. -/
theorem registerSim_yields (calm : Calm quiet context world) {sim : SimSpec}
    (here : blueprint.Registered id registered world.store) (declared : sim ∈ blueprint.sims)
    (new : sim.simId ∉ registered) :
    Yields context Cloud.remote (registerSim zone id sim) world
      (fun _ after => Calm quiet context after ∧
        blueprint.Registered id (registered ++ [sim.simId]) after.store)
      (fun error _ => error.Excused quiet) := by
  obtain ⟨⟨gateway, stored, listed⟩, cards⟩ := here
  obtain ⟨card, present⟩ := cards sim declared
  have added : Yields context Cloud.remote
      (Build.call "add SIM" (.mobileGateway zone (.addSim id sim.simId))) world
      (fun _ after => Calm quiet context after ∧
        blueprint.Registered id (registered ++ [sim.simId]) after.store)
      (fun error _ => error.Excused quiet) := by
    apply yields_calm_call calm
    rw [answerRequest, answerMobileGateway, addSim, CloudStep.yields_bind]
    apply CloudStep.Yields.find _ _ present
    rw [CloudStep.yields_bind]
    apply CloudStep.Yields.find _ _ stored
    rw [if_neg (by rwa [listed, List.contains_iff_mem]), CloudStep.yields_bind]
    apply CloudStep.Yields.change _ _ stored
    intro calmAfter
    refine ⟨calmAfter, ⟨_, SortedMap.get?_insert_self _ _ _, ?_⟩, cards⟩
    rw [listed]
  apply added.bind
  rintro - after ⟨calmAfter, gatewayAfter, cardsAfter⟩
  obtain ⟨card, present⟩ := cardsAfter sim declared
  apply yields_calm_call calmAfter
  rw [answerRequest, answerSim, CloudStep.yields_bind]
  apply CloudStep.Yields.change _ _ present
  refine fun calmLast => ⟨calmLast, gatewayAfter, fun other declaredToo => ?_⟩
  have kept := cardsAfter other declaredToo
  by_cases same : other.simId = sim.simId
  · exact ⟨_, (SortedMap.get?_insert _ _ _ _).trans (if_pos same)⟩
  · obtain ⟨card, presentToo⟩ := kept
    exact ⟨card, ((SortedMap.get?_insert _ _ _ _).trans (if_neg same)).trans presentToo⟩

/-- Cards that are listed once are registered one after the other. -/
theorem forM_registerSim_yields {sims : List SimSpec} (calm : Calm quiet context world)
    (here : blueprint.Registered id registered world.store)
    (declared : ∀ sim ∈ sims, sim ∈ blueprint.sims)
    (distinct : (registered ++ sims.map SimSpec.simId).Nodup) :
    Yields context Cloud.remote (sims.forM (registerSim zone id)) world
      (fun _ after => Calm quiet context after ∧
        blueprint.Registered id (registered ++ sims.map SimSpec.simId) after.store)
      (fun error _ => error.Excused quiet) := by
  induction sims generalizing world registered with
  | nil =>
      rw [List.map_nil, List.append_nil]
      exact ⟨calm, here⟩
  | cons sim rest inductionHypothesis =>
      rw [List.map_cons, List.append_cons] at distinct ⊢
      have new : sim.simId ∉ registered := by
        intro old
        have apart := (List.nodup_append.mp (List.nodup_append.mp distinct).1).2.2
        exact apart _ old _ List.mem_cons_self rfl
      rw [List.forM]
      apply (registerSim_yields calm here (declared sim List.mem_cons_self) new).bind
      rintro - after ⟨calmAfter, goesOn⟩
      exact inductionHypothesis calmAfter goesOn
        (fun other member => declared other (List.mem_cons_of_mem _ member)) distinct

/-- A gateway without cards gets all of the declared cards, and in quiet circumstances no
registration fails. -/
theorem registerSims_yields (calm : Calm quiet context world)
    (here : blueprint.Registered id [] world.store)
    (distinct : (blueprint.sims.map SimSpec.simId).Nodup) :
    Yields context Cloud.remote (blueprint.registerSims zone id []) world
      (fun _ after => Calm quiet context after ∧
        blueprint.Registered id (blueprint.sims.map SimSpec.simId) after.store)
      (fun error _ => error.Excused quiet) := by
  have all : (blueprint.sims.filter fun sim => !([] : List ResourceId).contains sim.simId) =
      blueprint.sims := List.filter_eq_self.mpr fun _ _ => rfl
  rw [registerSims, all]
  exact forM_registerSim_yields calm here (fun _ member => member) distinct

/-- The resolvers of a stored gateway are set without a change to its cards. -/
theorem setDns_yields (calm : Calm quiet context world) {dns : MobileGatewayDns}
    (here : blueprint.Registered id registered world.store) :
    Yields context Cloud.remote
      (Build.call "set mobile gateway DNS" (.mobileGateway zone (.setDns id dns))) world
      (fun _ after => Calm quiet context after ∧ blueprint.Registered id registered after.store)
      (fun error _ => error.Excused quiet) := by
  obtain ⟨gateway, stored, listed⟩ := here.gateway
  apply yields_calm_call calm
  rw [answerRequest, answerMobileGateway, CloudStep.yields_bind]
  apply CloudStep.Yields.find _ _ stored
  exact fun calmAfter => ⟨calmAfter, ⟨gateway, stored, listed⟩, here.cards⟩

/-- The traffic limits of a stored gateway are set without a change to its cards. -/
theorem setTraffic_yields (calm : Calm quiet context world) {traffic : TrafficConfig}
    (here : blueprint.Registered id registered world.store) :
    Yields context Cloud.remote
      (Build.call "set traffic config" (.mobileGateway zone (.setTrafficConfig id traffic))) world
      (fun _ after => Calm quiet context after ∧ blueprint.Registered id registered after.store)
      (fun error _ => error.Excused quiet) := by
  obtain ⟨gateway, stored, listed⟩ := here.gateway
  apply yields_calm_call calm
  rw [answerRequest, answerMobileGateway, CloudStep.yields_bind]
  apply CloudStep.Yields.find _ _ stored
  exact fun calmAfter => ⟨calmAfter, ⟨gateway, stored, listed⟩, here.cards⟩

/-- In quiet circumstances the boot of a stored gateway does not fail. -/
theorem boot_yields {timing : Timing} {noWait : Bool} {looks : Nat}
    (calm : Calm quiet context world)
    (stored : world.store.mobileGateways.get? id = some gateway)
    (covers : quiet → timing.wait.Covers looks) :
    Yields context Cloud.remote ((mobileGatewayPower zone id).switch .boot timing noWait) world
      (fun _ after => Calm quiet context after) (fun error _ => error.Excused quiet) := by
  apply (Reader.mobileGateways zone).boot_yields (fun _ => rfl) _ rfl calm stored
    (fun silent => (covers silent).zero)
  intro now record calmNow found
  have storedNow : now.store.mobileGateways.get? id = some record := found
  apply yields_calm_attempt calmNow
  · rw [answerRequest, answerMobileGateway, CloudStep.yields_bind]
    apply CloudStep.Yields.change _ _ storedNow
    exact fun calmAfter => ⟨calmAfter, _, SortedMap.get?_insert_self _ _ _, rfl⟩
  · exact fun noisy _ _ => noisy

section Segments

variable {rest : Build BuildResult}

/-- A gateway is connected when it has an interface. -/
theorem connects_yields (gateway : MobileGateway) (calm : Calm quiet context world)
    (stored : world.store.mobileGateways.get? gateway.id = some gateway)
    (plugged : blueprint.PluggedIn world.store) (cards : CardsIn blueprint.sims world.store)
    (goesOn : ∀ now : World Cloud, Calm quiet context now →
      now.store.mobileGateways.get? gateway.id = some gateway → CardsIn blueprint.sims now.store →
        Yields context Cloud.remote rest now (fun _ _ => True)
          (fun error _ => error.Excused quiet)) :
    Yields context Cloud.remote (do
      if let some interface := blueprint.interface then
        Build.call "connect mobile gateway to switch"
          (.mobileGateway zone (.connectToSwitch gateway.id interface.switchId))
      rest) world (fun _ _ => True) (fun error _ => error.Excused quiet) := by
  split
  next interface present =>
    obtain ⟨switch, storedSwitch⟩ := plugged interface present
    apply (connect_yields calm stored storedSwitch).bind
    rintro - after ⟨calm, gateways, sims⟩
    apply goesOn after calm (gateways ▸ stored)
    rw [CardsIn, sims]
    exact cards
  next => exact goesOn world calm stored cards

/-- The settings of a gateway are applied, and its resolvers are set when they are declared. -/
theorem configures_yields (gateway : MobileGateway) (calm : Calm quiet context world)
    (stored : world.store.mobileGateways.get? gateway.id = some gateway)
    (cards : CardsIn blueprint.sims world.store)
    (goesOn : ∀ now : World Cloud, Calm quiet context now →
      blueprint.Registered gateway.id gateway.simIds now.store →
        Yields context Cloud.remote rest now (fun _ _ => True)
          (fun error _ => error.Excused quiet)) :
    Yields context Cloud.remote (do
      blueprint.applySettings zone gateway
      if let some dns := blueprint.dns then
        Build.call "set mobile gateway DNS" (.mobileGateway zone (.setDns gateway.id dns))
      rest) world (fun _ _ => True) (fun error _ => error.Excused quiet) := by
  apply (applySettings_yields calm stored cards).bind
  rintro - after ⟨calm, here⟩
  split
  · exact (setDns_yields calm here).bind fun _ last ⟨calm, here⟩ => goesOn last calm here
  · exact goesOn after calm here

/-- All cards are registered, and the traffic is limited when a limit is declared. -/
theorem registers_yields (calm : Calm quiet context world)
    (here : blueprint.Registered id [] world.store)
    (distinct : (blueprint.sims.map SimSpec.simId).Nodup)
    (goesOn : ∀ now : World Cloud, Calm quiet context now →
      (∃ gateway, now.store.mobileGateways.get? id = some gateway) →
        Yields context Cloud.remote rest now (fun _ _ => True)
          (fun error _ => error.Excused quiet)) :
    Yields context Cloud.remote (do
      blueprint.registerSims zone id []
      if let some traffic := blueprint.trafficConfig then
        Build.call "set traffic config" (.mobileGateway zone (.setTrafficConfig id traffic))
      rest) world (fun _ _ => True) (fun error _ => error.Excused quiet) := by
  apply (registerSims_yields calm here distinct).bind
  rintro - after ⟨calm, here⟩
  split
  · apply (setTraffic_yields calm here).bind
    rintro - last ⟨calm, ⟨gateway, stored, -⟩, -⟩
    exact goesOn last calm ⟨gateway, stored⟩
  · obtain ⟨gateway, stored, -⟩ := here.gateway
    exact goesOn after calm ⟨gateway, stored⟩

end Segments

/-- A gateway that has become ready is stored, and the switches and cards are still there. -/
theorem ready_of_settles {created : MobileGateway} {middle ready : Cloud}
    (settles : (Reader.mobileGateways zone).Settles created.id created middle ready)
    (switches : middle.switches = world.store.switches) (sims : middle.sims = world.store.sims)
    (plugged : blueprint.PluggedIn world.store) (cards : CardsIn blueprint.sims world.store) :
    ready.mobileGateways.get? created.id = some ((Reader.mobileGateways zone).settled created) ∧
      blueprint.PluggedIn ready ∧ CardsIn blueprint.sims ready := by
  have stored := settles.stored
  obtain ⟨last, waited, -, same⟩ := settles
  have keptSwitches : ready.switches = world.store.switches := by
    rw [same, waited.rest]
    exact switches
  have keptSims : ready.sims = world.store.sims := by
    rw [same, waited.rest]
    exact sims
  refine ⟨stored, ?_, ?_⟩
  · rw [PluggedIn, keptSwitches]
    exact plugged
  · rw [CardsIn, keptSims]
    exact cards

/-- A build of a gateway goes on after its validation. -/
theorem build_goesOn (calm : Calm quiet context world)
    (covers : quiet → blueprint.timing.wait.Covers (world.store.settleReads - 1)) :
    GoesOn quiet context Cloud.remote (blueprint.validate zone) (blueprint.build zone) world := by
  refine ⟨_, rfl, (validate_yields calm).mono ?_ fun _ _ _ => trivial⟩
  rintro - checked ⟨⟨calm, looked⟩, distinct, plugged, cards⟩
  rw [← looked.settleReads] at covers
  apply (create_yields calm).bind
  rintro created after ⟨calm, creating, bare, stored, counting, switches, sims⟩
  have settled : Lifecycle.availability ((Reader.mobileGateways zone).settled created) =
      .available :=
    settledAvailability_of_migrating creating
  apply ((Reader.mobileGateways zone).untilReady_yields calm stored (.of_counted counting)
    (congrArg _ creating) settled covers).bind
  rintro - ready ⟨calm, rfl, settles⟩
  obtain ⟨stored, plugged, cards⟩ := ready_of_settles settles (switches.trans looked.switches)
    (sims.trans looked.sims) plugged cards
  apply connects_yields ((Reader.mobileGateways zone).settled created) calm stored plugged cards
  intro now calm stored cards
  apply configures_yields ((Reader.mobileGateways zone).settled created) calm stored cards
  intro now calm here
  have here : blueprint.Registered created.id [] now.store := bare ▸ here
  apply registers_yields calm here distinct
  rintro now calm ⟨gateway, stored⟩
  rw [yields_ite]
  split
  · exact (boot_yields calm stored covers).bind fun _ _ _ => trivial
  · trivial

end Provisioning.MobileGatewayBlueprint
