import Provisioning.Proofs.Wiring

/-!
The plugs of routers and gateways over a history of builds and updates. A build plugs every declared
interface in, and an update writes settings only. The main statement says after which histories the
plugs of an appliance agree with its settings.
-/

namespace Provisioning

open Program Cloud

variable {context : Context} {world : World Cloud} {zone : Zone} {start : Cloud} {id : ResourceId}
  {site : Site} {wires : List Wire} {plugs : UInt8 → Option ResourceId} {label : String}

namespace Cloud

/-- The wiring of a tidy appliance has its identifier. -/
theorem Tidy.wiring {cloud : Cloud} (tidy : cloud.Tidy) {wiring : Wiring}
    (stored : cloud.wiring? site = some wiring) : wiring.id = site.id := by
  obtain ⟨kind, id⟩ := site
  cases kind with
  | vpcRouter =>
      obtain ⟨router, found, rfl⟩ := Option.map_eq_some_iff.mp stored
      exact tidy.routers id router found
  | mobileGateway =>
      obtain ⟨gateway, found, rfl⟩ := Option.map_eq_some_iff.mp stored
      exact (tidy.gateways id gateway found).1

/-- An orderly program that keeps the wires leaves them as they are, whether it succeeds or fails.
-/
theorem SameWiring.orderly {α : Type} {program : Build α}
    (keeps : Orderly Request.KeepsWires program.run) (same : start.SameWiring world.store) :
    Yields context Cloud.remote program world (fun _ after => start.SameWiring after.store)
      (fun _ after => start.SameWiring after.store) :=
  keeps.keeps start.SameWiring
    (fun _ tame now same => same.trans (call_sameWiring tame now.store)) same

/-- An orderly program that keeps the wires leaves the cloud wired as it was. -/
theorem Rewired.orderly {α : Type} {program : Build α}
    (rewired : Rewired start site wires plugs world.store)
    (keeps : Orderly Request.KeepsWires program.run) :
    Yields context Cloud.remote program world
      (fun _ after => Rewired start site wires plugs after.store) (fun _ _ => True) :=
  (SameWiring.orderly keeps (.refl world.store)).onSuccess fun _ _ same => rewired.sameWiring same

/-- A read of a tidy appliance shows the identifier that it is read under. -/
theorem Rewired.of_read {cloud : Cloud} {wiring : Wiring} (tidy : start.Tidy)
    (same : start.SameWiring cloud) (shown : cloud.wiring? site = some wiring) :
    wiring.id = site.id ∧ Rewired start site wiring.wires (start.plugs site) cloud := by
  rw [same.wiring] at shown
  have named := tidy.wiring shown
  exact ⟨named, (Rewired.refl (named ▸ shown)).sameWiring same⟩

/-- An appliance that has become ready has the identifier that it is read under. -/
theorem Rewired.untilReady {ρ : Type} [Lifecycle ρ] {resource : String}
    {probe : Attempt CloudService ρ} {options : WaitOptions} {wiring : ρ → Wiring}
    (reads : ∀ now : World Cloud, Yields context Cloud.remote probe now
      (fun record after => now.store.SameWiring after.store ∧
        after.store.wiring? site = some (wiring record)) (fun _ _ => True))
    (rewired : Rewired start site wires plugs world.store) :
    Yields context Cloud.remote (Wait.untilReady resource id probe options) world
      (fun record after =>
        (wiring record).id = site.id ∧ Rewired start site wires plugs after.store)
      (fun _ _ => True) := by
  apply Wait.untilReady_keeps
    (fun now : World Cloud => Rewired start site wires plugs now.store)
    (fun record : ρ => (wiring record).id = site.id) _ (fun _ _ rewired => rewired) rewired
  intro now rewired
  apply (reads now).onSuccess
  rintro record after ⟨same, shown⟩
  have rewired := rewired.sameWiring same
  exact ⟨congrArg Wiring.id (Option.some.inj (shown.symm.trans rewired.stored)), rewired⟩

/-- An appliance has been wired up when it has wires of distinct indexes to switches that are there,
and when all of them have been plugged in. -/
structure WiredUp (start : Cloud) (site : Site) (wires : List Wire) (cloud : Cloud) : Prop where
  rewired : Rewired start site wires (plugIn (start.plugs site) wires) cloud
  distinct : (wires.map Wire.index).Nodup
  switches : ∀ wire ∈ wires, ∃ switch, start.switches.get? wire.switchId = some switch

/-- An appliance that has been wired up carries every declared wire, and the switches of the wires
are there. -/
theorem WiredUp.carries {cloud : Cloud} (wired : WiredUp start site wires cloud) :
    ∀ wire ∈ wires, plugIn (start.plugs site) wires wire.index = some wire.switchId ∧
      ∃ switch, start.switches.get? wire.switchId = some switch :=
  fun wire declared =>
    ⟨assignAll_of_mem wired.distinct wire declared, wired.switches wire declared⟩

end Cloud

namespace VpcRouterBlueprint

/-- A read shows the wiring of a router and leaves it as it is. -/
theorem read_wiring : Yields context Cloud.remote (Build.attempt (.vpcRouter zone (.read id))) world
    (fun router after => world.store.SameWiring after.store ∧
      after.store.wiring? ⟨.vpcRouter, id⟩ = some router.wiring) (fun _ _ => True) := by
  have tame : (Request.vpcRouter zone (.read id)).KeepsWires := ⟨fun _ _ => rfl, trivial, rfl⟩
  have kept : Yields context Cloud.remote (Build.attempt (.vpcRouter zone (.read id))) world
      (fun _ after => world.store.SameWiring after.store)
      (fun _ after => world.store.SameWiring after.store) :=
    yields_attempt_kept (call_sameWiring tame _)
  apply (kept.and yields_readVpcRouter).onSuccess
  exact fun router after both => ⟨both.1, congrArg (Option.map VpcRouter.wiring) both.2⟩

/-- A new router has its declared wires, and its plugs are those that were there. -/
theorem create_rewired {request : VpcRouterCreateRequest} (same : start.SameWiring world.store) :
    Yields context Cloud.remote (Build.call label (.vpcRouter zone (.create request))) world
      (fun router after => Rewired start ⟨.vpcRouter, router.id⟩ request.settings.wires
        (start.plugs ⟨.vpcRouter, router.id⟩) after.store) (fun _ _ => True) := by
  apply yields_calm_look (.of_noisy not_false)
  intro _
  refine ⟨same.switches, ?_, ?_⟩
  · rw [← same.wiring]
    exact wiring?_insert_router rfl rfl rfl
  · rw [Function.update_eq_self]
    exact same.plugs

/-- An update declares other wires. -/
theorem update_rewired {request : VpcRouterUpdateRequest}
    (rewired : Rewired start ⟨.vpcRouter, id⟩ wires plugs world.store) :
    Yields context Cloud.remote (Build.call label (.vpcRouter zone (.update id request))) world
      (fun _ after => Rewired start ⟨.vpcRouter, id⟩ request.settings.wires plugs after.store)
      (fun _ _ => True) := by
  apply yields_calm_look (.of_noisy not_false)
  rw [answerRequest, answerVpcRouter, updateVpcRouter, CloudStep.yields_bind,
    CloudStep.yields_freshHash, CloudStep.yields_bind, CloudStep.yields_find]
  split
  next router stored =>
    have named : router.wiring = ⟨id, wires⟩ := by
      have found : world.store.wiring? ⟨.vpcRouter, id⟩ = some router.wiring :=
        congrArg (Option.map VpcRouter.wiring) stored
      exact Option.some.inj (found.symm.trans rewired.stored)
    rw [CloudStep.yields_bind, CloudStep.yields_checkHash]
    split
    · apply CloudStep.Yields.change _ _ stored
      intro _
      refine rewired.write rfl (wiring?_insert_router rfl rfl ?_) rfl
      exact congrArg (Wiring.mk · request.settings.wires) (congrArg Wiring.id named)
    · trivial
  next => trivial

/-- An interface is plugged into a switch that is there. -/
theorem connectNic_rewired {nic : VpcRouterInterface}
    (rewired : Rewired start ⟨.vpcRouter, id⟩ wires plugs world.store) :
    Yields context Cloud.remote (connectNic zone id nic) world
      (fun _ after => Rewired start ⟨.vpcRouter, id⟩ wires (plugIn plugs [nic.wire]) after.store ∧
        ∃ switch, start.switches.get? nic.switchId = some switch) (fun _ _ => True) := by
  apply yields_calm_look (.of_noisy not_false)
  rw [answerRequest, answerVpcRouter, connectVpcRouter, CloudStep.yields_bind,
    CloudStep.yields_find]
  split
  · rw [CloudStep.yields_bind, CloudStep.yields_find]
    split
    next switch found =>
      refine fun _ => ⟨rewired.plug rfl rfl (plugs_insert_router rfl rfl), switch, ?_⟩
      rw [← rewired.switches]
      exact found
    next => trivial
  · trivial

/-- Connecting private interfaces one by one plugs in their wires, and the switches of all of them
are there. -/
theorem connectNics_rewired {nics : List VpcRouterInterface}
    (rewired : Rewired start ⟨.vpcRouter, id⟩ wires plugs world.store) :
    Yields context Cloud.remote (nics.forM (connectNic zone id)) world
      (fun _ after =>
        Rewired start ⟨.vpcRouter, id⟩ wires
          (plugIn plugs (nics.map VpcRouterInterface.wire)) after.store ∧
        ∀ nic ∈ nics, ∃ switch, start.switches.get? nic.switchId = some switch)
      (fun _ _ => True) := by
  induction nics generalizing world plugs with
  | nil => exact ⟨rewired, List.forall_mem_nil _⟩
  | cons nic rest inductionHypothesis =>
      rw [List.forM]
      apply (connectNic_rewired rewired).bind
      rintro - after ⟨rewired, found⟩
      apply (inductionHypothesis rewired).onSuccess
      rintro - last ⟨rewired, others⟩
      exact ⟨rewired, List.forall_mem_cons.mpr ⟨found, others⟩⟩

/-- A router whose fields pass their check declares no index twice. -/
theorem checkFields_distinct {blueprint : VpcRouterBlueprint}
    (accepted : blueprint.checkFields = .ok ()) :
    (blueprint.settings.wires.map Wire.index).Nodup := by
  obtain ⟨-, -, accepted⟩ := Check.of_bind accepted
  obtain ⟨-, -, accepted⟩ := Check.of_bind accepted
  rw [VpcRouterSettings.wires, List.map_map]
  apply nodup_of_firstDuplicate
  change firstDuplicate (blueprint.nics.map VpcRouterInterface.index) = none
  cases duplicate : firstDuplicate (blueprint.nics.map VpcRouterInterface.index) with
  | none => rfl
  | some index =>
      rw [duplicate] at accepted
      nomatch accepted

/-- A validation only looks, and it accepts no interface twice. -/
theorem validate_distinct (blueprint : VpcRouterBlueprint) (same : start.SameWiring world.store) :
    Yields context Cloud.remote (blueprint.validate zone) world
      (fun _ after => start.SameWiring after.store ∧
        (blueprint.settings.wires.map Wire.index).Nodup) (fun _ _ => True) := by
  have kept : Yields context Cloud.remote (blueprint.validate zone) world
      (fun _ after => start.SameWiring after.store) (fun _ after => start.SameWiring after.store) :=
    SameWiring.orderly (blueprint.validate_orderly.mono fun _ => Request.Looks.keepsWires) same
  have distinct : Yields context Cloud.remote (blueprint.validate zone) world
      (fun _ _ => (blueprint.settings.wires.map Wire.index).Nodup) (fun _ _ => True) := by
    rw [validate, yields_bind]
    apply Yields.checked _ fun _ _ => trivial
    exact fun accepted => .of_forall (fun _ _ => checkFields_distinct accepted) fun _ _ => trivial
  exact (kept.and distinct).onSuccess fun _ _ both => both

/-- The rest of a build keeps the wires, and the build answers with the identifier. -/
theorem conclude_rewired (blueprint : VpcRouterBlueprint) (current : VpcRouter)
    (rewired : Rewired start ⟨.vpcRouter, id⟩ wires plugs world.store) :
    Yields context Cloud.remote (blueprint.conclude zone id current) world
      (fun result after =>
        result = .ofId id ∧ Rewired start ⟨.vpcRouter, id⟩ wires plugs after.store)
      (fun _ _ => True) := by
  have answers : Yields context Cloud.remote (blueprint.conclude zone id current) world
      (fun result _ => result = .ofId id) (fun _ _ => True) := by
    refine .last fun _ _ => ?_
    split
    · exact .last fun _ _ => rfl
    · rfl
  have kept : Yields context Cloud.remote (blueprint.conclude zone id current) world
      (fun _ after => Rewired start ⟨.vpcRouter, id⟩ wires plugs after.store) (fun _ _ => True) :=
    rewired.orderly (blueprint.conclude_orderly current ⟨trivial, trivial, rfl⟩
      ⟨fun _ _ => rfl, trivial, rfl⟩ ⟨fun _ _ => rfl, trivial, rfl⟩)
  exact (answers.and kept).onSuccess fun _ _ both => both

/-- A build gives a router its wires and plugs them all in. -/
theorem build_rewired (blueprint : VpcRouterBlueprint) (same : start.SameWiring world.store) :
    Yields context Cloud.remote (blueprint.build zone) world
      (fun result after =>
        WiredUp start ⟨.vpcRouter, result.id⟩ blueprint.settings.wires after.store)
      (fun _ _ => True) := by
  rw [build_eq]
  apply (blueprint.validate_distinct same).bind
  rintro - checked ⟨same, distinct⟩
  apply (create_rewired same).bind
  intro created after rewired
  apply (rewired.untilReady fun _ => read_wiring).bind
  rintro ready settled ⟨named, rewired⟩
  change ready.id = created.id at named
  apply (connectNics_rewired rewired).bind
  rintro - connected ⟨rewired, found⟩
  rw [named]
  apply (update_rewired rewired).bind
  intro _ updated rewired
  apply (blueprint.conclude_rewired ready rewired).onSuccess
  rintro _ last ⟨rfl, rewired⟩
  refine ⟨rewired, distinct, fun wire declared => ?_⟩
  obtain ⟨nic, member, rfl⟩ := List.mem_map.mp declared
  exact found nic member

/-- An update gives a router other wires and leaves its plugs as they are. -/
theorem update_keepsPlugs (blueprint : VpcRouterBlueprint) (tidy : start.Tidy)
    (same : start.SameWiring world.store) :
    Yields context Cloud.remote (blueprint.update zone) world
      (fun result after => Rewired start ⟨.vpcRouter, result.id⟩ blueprint.settings.wires
        (start.plugs ⟨.vpcRouter, result.id⟩) after.store)
      (fun _ _ => True) := by
  rw [update, yields_bind]
  apply Yields.checked _ fun _ _ => trivial
  intro _
  rw [yields_bind]
  apply Yields.checked _ fun _ _ => trivial
  intro _
  rw [yields_bind, Build.call, yields_during]
  apply read_wiring.mono _ fun _ _ _ => trivial
  rintro current seen ⟨sameToo, shown⟩
  obtain ⟨named, rewired⟩ := Rewired.of_read tidy (same.trans sameToo) shown
  change current.id = blueprint.id at named
  have configures : Orderly Request.KeepsWires
      (Build.call "apply VPC router settings" (.vpcRouter zone (.config blueprint.id))).run :=
    .call rfl ⟨trivial, trivial, rfl⟩
  rw [yields_bind, applySettings, named, yields_bind]
  apply (update_rewired rewired).mono _ fun _ _ _ => trivial
  exact fun _ updated rewired => rewired.orderly configures

end VpcRouterBlueprint

namespace MobileGatewayBlueprint

/-- A read shows the wiring of a gateway and leaves it as it is. -/
theorem read_wiring :
    Yields context Cloud.remote (Build.attempt (.mobileGateway zone (.read id))) world
      (fun gateway after => world.store.SameWiring after.store ∧
        after.store.wiring? ⟨.mobileGateway, id⟩ = some gateway.wiring) (fun _ _ => True) := by
  have tame : (Request.mobileGateway zone (.read id)).KeepsWires := ⟨trivial, fun _ _ => rfl, rfl⟩
  have kept : Yields context Cloud.remote (Build.attempt (.mobileGateway zone (.read id))) world
      (fun _ after => world.store.SameWiring after.store)
      (fun _ after => world.store.SameWiring after.store) :=
    yields_attempt_kept (call_sameWiring tame _)
  apply (kept.and yields_readMobileGateway).onSuccess
  exact fun gateway after both => ⟨both.1, congrArg (Option.map MobileGateway.wiring) both.2⟩

/-- A new gateway has its declared wires, and its plug is the one that was there. -/
theorem create_rewired {request : MobileGatewayCreateRequest}
    (same : start.SameWiring world.store) :
    Yields context Cloud.remote (Build.call label (.mobileGateway zone (.create request))) world
      (fun gateway after => Rewired start ⟨.mobileGateway, gateway.id⟩ request.settings.wires
        (start.plugs ⟨.mobileGateway, gateway.id⟩) after.store) (fun _ _ => True) := by
  apply yields_calm_look (.of_noisy not_false)
  intro _
  refine ⟨same.switches, ?_, ?_⟩
  · rw [← same.wiring]
    exact wiring?_insert_gateway rfl rfl rfl
  · rw [Function.update_eq_self]
    exact same.plugs

/-- An update declares another wire. -/
theorem update_rewired {request : MobileGatewayUpdateRequest}
    (rewired : Rewired start ⟨.mobileGateway, id⟩ wires plugs world.store) :
    Yields context Cloud.remote (Build.call label (.mobileGateway zone (.update id request))) world
      (fun _ after => Rewired start ⟨.mobileGateway, id⟩ request.settings.wires plugs after.store)
      (fun _ _ => True) := by
  apply yields_calm_look (.of_noisy not_false)
  rw [answerRequest, answerMobileGateway, updateMobileGateway, CloudStep.yields_bind,
    CloudStep.yields_freshHash, CloudStep.yields_bind, CloudStep.yields_find]
  split
  next gateway stored =>
    have named : gateway.wiring = ⟨id, wires⟩ := by
      have found : world.store.wiring? ⟨.mobileGateway, id⟩ = some gateway.wiring :=
        congrArg (Option.map MobileGateway.wiring) stored
      exact Option.some.inj (found.symm.trans rewired.stored)
    rw [CloudStep.yields_bind, CloudStep.yields_checkHash]
    split
    · apply CloudStep.Yields.change _ _ stored
      intro _
      refine rewired.write rfl (wiring?_insert_gateway rfl rfl ?_) rfl
      exact congrArg (Wiring.mk · request.settings.wires) (congrArg Wiring.id named)
    · trivial
  next => trivial

/-- The interface is plugged into a switch that is there, if there is an interface. -/
theorem connect_rewired (blueprint : MobileGatewayBlueprint)
    (rewired : Rewired start ⟨.mobileGateway, id⟩ wires plugs world.store) :
    Yields context Cloud.remote (blueprint.connect zone id) world
      (fun _ after =>
        Rewired start ⟨.mobileGateway, id⟩ wires (plugIn plugs blueprint.settings.wires)
          after.store ∧
        ∀ wire ∈ blueprint.settings.wires,
          ∃ switch, start.switches.get? wire.switchId = some switch)
      (fun _ _ => True) := by
  rw [connect, MobileGatewaySettings.wires, settings]
  cases blueprint.interface with
  | none => exact ⟨rewired, List.forall_mem_nil _⟩
  | some interface =>
      apply yields_calm_look (.of_noisy not_false)
      rw [answerRequest, answerMobileGateway, CloudStep.yields_bind, CloudStep.yields_find]
      split
      · rw [CloudStep.yields_bind, CloudStep.yields_find]
        split
        next switch found =>
          refine fun _ => ⟨rewired.plug rfl rfl (plugs_insert_gateway rfl rfl), ?_⟩
          refine List.forall_mem_singleton.mpr ⟨switch, ?_⟩
          rw [← rewired.switches]
          exact found
        next => trivial
      · trivial

/-- The rest of a build keeps the wires, and the build answers with the identifier. -/
theorem conclude_rewired (blueprint : MobileGatewayBlueprint) (current : MobileGateway)
    (rewired : Rewired start ⟨.mobileGateway, id⟩ wires plugs world.store) :
    Yields context Cloud.remote (blueprint.conclude zone id current) world
      (fun result after =>
        result = .ofId id ∧ Rewired start ⟨.mobileGateway, id⟩ wires plugs after.store)
      (fun _ _ => True) := by
  have answers : Yields context Cloud.remote (blueprint.conclude zone id current) world
      (fun result _ => result = .ofId id) (fun _ _ => True) := by
    rw [conclude_eq]
    refine .last fun _ _ => .last fun _ _ => .last fun _ _ => ?_
    exact blueprint.finish_answers
  have kept : Yields context Cloud.remote (blueprint.conclude zone id current) world
      (fun _ after => Rewired start ⟨.mobileGateway, id⟩ wires plugs after.store)
      (fun _ _ => True) :=
    rewired.orderly (blueprint.conclude_orderly current ⟨trivial, trivial, rfl⟩
      (fun _ => ⟨trivial, trivial, rfl⟩) (fun _ => ⟨trivial, fun _ _ => rfl, rfl⟩)
      (fun _ _ => ⟨trivial, trivial, rfl⟩) (fun _ => ⟨trivial, trivial, rfl⟩)
      ⟨trivial, fun _ _ => rfl, rfl⟩ ⟨trivial, fun _ _ => rfl, rfl⟩)
  exact (answers.and kept).onSuccess fun _ _ both => both

/-- A gateway has one interface at most. -/
theorem wires_distinct (settings : MobileGatewaySettings) :
    (settings.wires.map Wire.index).Nodup := by
  rw [MobileGatewaySettings.wires]
  cases settings.interface with
  | none => exact List.nodup_nil
  | some interface => exact List.pairwise_singleton _ _

/-- A build gives a gateway its wire and plugs it in. -/
theorem build_rewired (blueprint : MobileGatewayBlueprint)
    (same : start.SameWiring world.store) :
    Yields context Cloud.remote (blueprint.build zone) world
      (fun result after =>
        WiredUp start ⟨.mobileGateway, result.id⟩ blueprint.settings.wires after.store)
      (fun _ _ => True) := by
  have validates : Yields context Cloud.remote (blueprint.validate zone) world
      (fun _ after => start.SameWiring after.store) (fun _ after => start.SameWiring after.store) :=
    SameWiring.orderly (blueprint.validate_orderly.mono fun _ => Request.Looks.keepsWires) same
  rw [build_eq]
  apply (validates.onSuccess fun _ _ same => same).bind
  intro _ checked same
  apply (create_rewired same).bind
  intro created after rewired
  apply (rewired.untilReady fun _ => read_wiring).bind
  rintro ready settled ⟨named, rewired⟩
  change ready.id = created.id at named
  apply (blueprint.connect_rewired rewired).bind
  rintro - connected ⟨rewired, found⟩
  rw [named]
  apply (update_rewired rewired).bind
  intro _ updated rewired
  apply (blueprint.conclude_rewired ready rewired).onSuccess
  rintro _ last ⟨rfl, rewired⟩
  exact ⟨rewired, wires_distinct blueprint.settings, found⟩

/-- An update gives a gateway another wire and leaves its plug as it is. -/
theorem update_keepsPlugs (blueprint : MobileGatewayBlueprint) (tidy : start.Tidy)
    (same : start.SameWiring world.store) :
    Yields context Cloud.remote (blueprint.update zone) world
      (fun result after => Rewired start ⟨.mobileGateway, result.id⟩ blueprint.settings.wires
        (start.plugs ⟨.mobileGateway, result.id⟩) after.store)
      (fun _ _ => True) := by
  rw [update, yields_bind]
  apply Yields.checked _ fun _ _ => trivial
  intro _
  rw [yields_bind]
  apply Yields.checked _ fun _ _ => trivial
  intro _
  rw [yields_bind, Build.call, yields_during]
  apply read_wiring.mono _ fun _ _ _ => trivial
  rintro current seen ⟨sameToo, shown⟩
  obtain ⟨named, rewired⟩ := Rewired.of_read tidy (same.trans sameToo) shown
  change current.id = blueprint.id at named
  have configures : Orderly Request.KeepsWires
      (Build.call "apply mobile gateway settings"
        (.mobileGateway zone (.config blueprint.id))).run :=
    .call rfl ⟨trivial, trivial, rfl⟩
  have registers : Orderly Request.KeepsWires
      (blueprint.registerSims zone blueprint.id current.simIds).run :=
    blueprint.registerSims_orderly _ (fun _ => ⟨trivial, fun _ _ => rfl, rfl⟩)
      fun _ _ => ⟨trivial, trivial, rfl⟩
  rw [yields_bind, applySettings, named, yields_bind]
  apply (update_rewired rewired).mono _ fun _ _ _ => trivial
  intro _ updated rewired
  apply (rewired.orderly configures).mono _ fun _ _ _ => trivial
  intro _ configured rewired
  exact (rewired.orderly registers).bind fun _ _ rewired => rewired

end MobileGatewayBlueprint

namespace Cloud.Rewired

/-- The plugs of a rewired appliance agree with its wires when they are its plugs and all switches
are there. -/
theorem plugsAgree_self_iff {cloud : Cloud} (rewired : Rewired start site wires plugs cloud) :
    cloud.PlugsAgree site ↔ ∀ wire ∈ wires, plugs wire.index = some wire.switchId ∧
      ∃ switch, start.switches.get? wire.switchId = some switch := by
  have plugged : cloud.plugs site = plugs := by rw [rewired.plugs, Function.update_self]
  have carries (wire : Wire) : cloud.Carries site wire ↔ plugs wire.index = some wire.switchId ∧
      ∃ switch, start.switches.get? wire.switchId = some switch := by
    rw [← plugged, ← rewired.switches]
    exact ⟨fun carried => ⟨carried.plugged, carried.switch⟩, fun both => ⟨both.1, both.2⟩⟩
  rw [PlugsAgree, rewired.stored]
  simp only [Option.some.injEq, exists_eq_left', carries]

end Cloud.Rewired

namespace Errand

variable {errand : Errand} {cloud : Cloud}

/-- An errand rewires its appliance. A build plugs all its wires in, and an update leaves the plugs
as they are. -/
theorem rewires (arises : cloud.Arises) (settled : errand.site? cloud = some site) :
    ∃ plugs, Rewired cloud site errand.wires plugs (errand.after cloud) ∧
      if errand.updates then plugs = cloud.plugs site
      else ∀ wire ∈ errand.wires, plugs wire.index = some wire.switchId ∧
        ∃ switch, cloud.switches.get? wire.switchId = some switch := by
  obtain ⟨result, found, rfl⟩ := Option.map_eq_some_iff.mp settled
  have outcome : errand.outcome cloud = .ok result := by
    cases ended : errand.outcome cloud with
    | ok other =>
        rw [ended] at found
        exact congrArg Except.ok (Option.some.inj found)
    | error error =>
        rw [ended] at found
        nomatch found
  have same : cloud.SameWiring (errand.start cloud).store := ⟨rfl, rfl, rfl⟩
  let rewired (result : BuildResult) (after : World Cloud) : Prop :=
    ∃ plugs, Rewired cloud ⟨errand.kind, result.id⟩ errand.wires plugs after.store ∧
      if errand.updates then plugs = cloud.plugs ⟨errand.kind, result.id⟩
      else ∀ wire ∈ errand.wires, plugs wire.index = some wire.switchId ∧
        ∃ switch, cloud.switches.get? wire.switchId = some switch
  have yields : Yields errand.context Cloud.remote errand.plan (errand.start cloud) rewired
      (fun _ _ => True) := by
    obtain ⟨zone, appliance, updates, context, timeline, announced⟩ := errand
    cases appliance with
    | vpcRouter blueprint =>
        cases updates with
        | false =>
            apply (blueprint.build_rewired same).onSuccess
            exact fun _ _ wired => ⟨_, wired.rewired, wired.carries⟩
        | true =>
            apply (blueprint.update_keepsPlugs arises.tidy same).onSuccess
            exact fun _ _ rewired => ⟨_, rewired, rfl⟩
    | mobileGateway blueprint =>
        cases updates with
        | false =>
            apply (blueprint.build_rewired same).onSuccess
            exact fun _ _ wired => ⟨_, wired.rewired, wired.carries⟩
        | true =>
            apply (blueprint.update_keepsPlugs arises.tidy same).onSuccess
            exact fun _ _ rewired => ⟨_, rewired, rfl⟩
  exact of_yields yields outcome

/-- After a build the plugs agree with the settings. After an update they do when every declared
wire was carried before. -/
theorem plugsAgree_iff (arises : cloud.Arises) (settled : errand.site? cloud = some site) :
    (errand.after cloud).PlugsAgree site ↔
      (errand.updates = true → ∀ wire ∈ errand.wires, cloud.Carries site wire) := by
  obtain ⟨plugs, rewired, plugged⟩ := errand.rewires arises settled
  rw [rewired.plugsAgree_self_iff]
  split at plugged
  next updates =>
    subst plugged
    rw [imp_iff_right updates]
    exact forall₂_congr fun wire _ =>
      ⟨fun both => ⟨both.1, both.2⟩, fun carried => ⟨carried.plugged, carried.switch⟩⟩
  next builds => exact iff_of_true plugged fun updates => absurd updates builds

/-- An errand leaves the plugs and the settings of every other appliance as they are. -/
theorem plugsAgree_other_iff (arises : cloud.Arises) (settled : errand.site? cloud = some site)
    {other : Site} (apart : site ≠ other) :
    (errand.after cloud).PlugsAgree other ↔ cloud.PlugsAgree other := by
  obtain ⟨plugs, rewired, -⟩ := errand.rewires arises settled
  exact rewired.plugsAgree_iff apart.symm

end Errand

namespace Cloud

/-- Errands pass by an appliance when they all succeed with other appliances. -/
def PassedBy (start : Cloud) (site : Site) : List Errand → Prop
  | [] => True
  | errand :: rest =>
      (∃ other, errand.site? start = some other ∧ other ≠ site) ∧
        (errand.after start).PassedBy site rest

/-- Errands that pass by an appliance do not change whether its plugs agree with its settings. -/
theorem PassedBy.plugsAgree_iff {cloud : Cloud} (arises : cloud.Arises) {errands : List Errand}
    (passed : cloud.PassedBy site errands) :
    (cloud.after errands).PlugsAgree site ↔ cloud.PlugsAgree site := by
  induction errands generalizing cloud with
  | nil => exact Iff.rfl
  | cons errand rest inductionHypothesis =>
      obtain ⟨⟨other, settled, apart⟩, passedRest⟩ := passed
      exact (inductionHypothesis (errand.after_arises arises) passedRest).trans
        (errand.plugsAgree_other_iff arises settled apart)

/-- The last errand about an appliance decides whether its plugs agree with its settings. They do
after a build. After an update they do exactly when the update met every wire that it declares
already plugged into a switch that is there. -/
theorem plugsAgree_after_iff {start : Cloud} (arises : start.Arises) (earlier later : List Errand)
    {errand : Errand} {site : Site} (settled : errand.site? (start.after earlier) = some site)
    (passed : (start.after (earlier ++ [errand])).PassedBy site later) :
    (start.after (earlier ++ errand :: later)).PlugsAgree site ↔
      (errand.updates = true → ∀ wire ∈ errand.wires, (start.after earlier).Carries site wire) := by
  rw [List.append_cons, after_append]
  refine (passed.plugsAgree_iff (arises.after _)).trans ?_
  rw [after_append]
  exact errand.plugsAgree_iff (arises.after earlier) settled

/-- An update keeps the plugs of a router that it declares again, and then a gateway is built. -/
theorem redeclared_router_keepsPlugs :
    let start := (Cloud.empty.seedSwitch ⟨500⟩).seedSwitch ⟨510⟩
    let router : VpcRouterBlueprint :=
      { (default : VpcRouterBlueprint) with
        id := ⟨1001⟩
        name := "edge"
        nics := [⟨1, ⟨500⟩, none, [default], 24⟩]
        timing := .uniform 1 5 }
    let gateway : MobileGatewayBlueprint :=
      { (default : MobileGatewayBlueprint) with
        name := "gw"
        interface := some ⟨⟨510⟩, default, 24⟩
        timing := .uniform 1 5 }
    let errand (appliance : Appliance) (updates : Bool) : Errand :=
      ⟨⟨"is1a"⟩, appliance, updates, default, default, []⟩
    let builds := errand (.vpcRouter router) false
    let updates := errand (.vpcRouter router) true
    let others := errand (.mobileGateway gateway) false
    (start.after [builds, updates, others]).PlugsAgree ⟨.vpcRouter, ⟨1001⟩⟩ := by
  intro start router gateway errand builds updates others
  have arises : start.Arises := .prepared .empty rfl rfl
  have settled : updates.site? (start.after [builds]) = some ⟨.vpcRouter, ⟨1001⟩⟩ := by
    decide +kernel
  have passing : others.site? (start.after [builds, updates]) = some ⟨.mobileGateway, ⟨1005⟩⟩ := by
    decide +kernel
  have carried : (start.after [builds]).plugs ⟨.vpcRouter, ⟨1001⟩⟩ 1 = some ⟨500⟩ := by
    decide +kernel
  have there : ((start.after [builds]).switches.get? ⟨500⟩).isSome := by decide +kernel
  apply (plugsAgree_after_iff arises [builds] [others] settled
    ⟨⟨_, passing, by decide⟩, trivial⟩).mpr
  intro _ wire declared
  cases List.mem_singleton.mp declared
  exact ⟨carried, Option.isSome_iff_exists.mp there⟩

/-- A router is built with an interface on one switch and updated to declare another switch. Both
runs succeed, and the interface is still plugged into the first switch. -/
theorem redeclared_switch_isNotPlugged :
    let start := (Cloud.empty.seedSwitch ⟨500⟩).seedSwitch ⟨510⟩
    let router (switchId : ResourceId) : VpcRouterBlueprint :=
      { (default : VpcRouterBlueprint) with
        id := ⟨1001⟩
        name := "edge"
        nics := [⟨1, switchId, none, [default], 24⟩]
        timing := .uniform 1 5 }
    let errand (switchId : ResourceId) (updates : Bool) : Errand :=
      ⟨⟨"is1a"⟩, .vpcRouter (router switchId), updates, default, default, []⟩
    let builds := errand ⟨500⟩ false
    let updates := errand ⟨510⟩ true
    builds.site? start = some ⟨.vpcRouter, ⟨1001⟩⟩ ∧
      updates.site? (start.after [builds]) = some ⟨.vpcRouter, ⟨1001⟩⟩ ∧
      ¬ (start.after [builds, updates]).PlugsAgree ⟨.vpcRouter, ⟨1001⟩⟩ := by
  intro start router errand builds updates
  have declared : (start.after [builds, updates]).wiring? ⟨.vpcRouter, ⟨1001⟩⟩ =
      some ⟨⟨1001⟩, [⟨1, ⟨510⟩⟩]⟩ := by decide +kernel
  have plugged : (start.after [builds, updates]).plugs ⟨.vpcRouter, ⟨1001⟩⟩ 1 = some ⟨500⟩ := by
    decide +kernel
  refine ⟨by decide +kernel, by decide +kernel, ?_⟩
  rintro ⟨wiring, found, carried⟩
  cases declared.symm.trans found
  have other := (carried ⟨1, ⟨510⟩⟩ List.mem_cons_self).plugged
  exact absurd (plugged.symm.trans other) (by decide)

end Cloud

end Provisioning
