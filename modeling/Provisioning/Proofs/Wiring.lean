import Provisioning.Proofs.Errands
import Provisioning.Proofs.RecordView

/-!
Wirings of appliances. The settings of a router or a gateway declare private interfaces, each with
the switch that it is meant for. Apart from the settings, the cloud keeps which interface is plugged
into which switch. The main statements say which calls write the one and which write the other.
-/

namespace Provisioning

open Cloud CloudStep

/-- Two kinds of appliances have private interfaces. -/
inductive Pluggable where
  | vpcRouter
  | mobileGateway
  deriving DecidableEq

/-- An appliance is found by its kind and its identifier. -/
structure Site where
  kind : Pluggable
  id : ResourceId
  deriving DecidableEq

/-- A wire is meant to lead from an interface to a switch. -/
structure Wire where
  index : UInt8
  switchId : ResourceId
  deriving DecidableEq

def VpcRouterInterface.wire (interface : VpcRouterInterface) : Wire where
  index := interface.index
  switchId := interface.switchId

/-- A gateway has one private interface, which goes without an index. -/
def MobileGatewayInterface.wire (interface : MobileGatewayInterface) : Wire where
  index := 0
  switchId := interface.switchId

def VpcRouterSettings.wires (settings : VpcRouterSettings) : List Wire :=
  settings.interfaces.map VpcRouterInterface.wire

def MobileGatewaySettings.wires (settings : MobileGatewaySettings) : List Wire :=
  settings.interface.toList.map MobileGatewayInterface.wire

/-- A wiring has the identifier and the declared wires of a record. -/
structure Wiring where
  id : ResourceId
  wires : List Wire
  deriving DecidableEq

def VpcRouter.wiring (router : VpcRouter) : Wiring := ⟨router.id, router.settings.wires⟩

def MobileGateway.wiring (gateway : MobileGateway) : Wiring :=
  ⟨gateway.id, gateway.settings.wires⟩

namespace Errand

def kind (errand : Errand) : Pluggable :=
  match errand.appliance with
  | .vpcRouter _ => .vpcRouter
  | .mobileGateway _ => .mobileGateway

/-- These are the wires that the blueprint of an errand declares. -/
def wires (errand : Errand) : List Wire :=
  match errand.appliance with
  | .vpcRouter blueprint => blueprint.settings.wires
  | .mobileGateway blueprint => blueprint.settings.wires

/-- This is the appliance that an errand has built or updated, if it has succeeded. -/
def site? (errand : Errand) (cloud : Cloud) : Option Site :=
  (errand.outcome cloud).toOption.map fun result => ⟨errand.kind, result.id⟩

end Errand

/-- Wires are plugged in one after the other. -/
abbrev plugIn (plugs : UInt8 → Option ResourceId) (wires : List Wire) : UInt8 → Option ResourceId :=
  assignAll Wire.index Wire.switchId plugs wires

namespace Cloud

/-- This is the wiring that the stored settings of an appliance declare. -/
def wiring? (cloud : Cloud) (site : Site) : Option Wiring :=
  match site.kind with
  | .vpcRouter => (cloud.vpcRouters.get? site.id).map VpcRouter.wiring
  | .mobileGateway => (cloud.mobileGateways.get? site.id).map MobileGateway.wiring

/-- These are the switches that the interfaces of an appliance are plugged into. -/
def plugs (cloud : Cloud) (site : Site) (index : UInt8) : Option ResourceId :=
  match site.kind with
  | .vpcRouter => (cloud.vpcRouterSwitches.get? site.id).bind (·.get? index)
  | .mobileGateway => if index = 0 then cloud.mobileGatewaySwitches.get? site.id else none

/-- A cloud carries a wire when the interface is plugged into the switch and the switch is there. -/
structure Carries (cloud : Cloud) (site : Site) (wire : Wire) : Prop where
  plugged : cloud.plugs site wire.index = some wire.switchId
  switch : ∃ switch, cloud.switches.get? wire.switchId = some switch

/-- The plugs of an appliance agree with its settings when the cloud carries every declared wire. -/
def PlugsAgree (cloud : Cloud) (site : Site) : Prop :=
  ∃ wiring, cloud.wiring? site = some wiring ∧ ∀ wire ∈ wiring.wires, cloud.Carries site wire

/-- Two clouds are wired the same when they have the same switches, wirings and plugs. -/
structure SameWiring (before after : Cloud) : Prop where
  switches : after.switches = before.switches
  wiring : after.wiring? = before.wiring?
  plugs : after.plugs = before.plugs

theorem SameWiring.refl (cloud : Cloud) : cloud.SameWiring cloud := ⟨rfl, rfl, rfl⟩

theorem SameWiring.trans {before middle after : Cloud} (first : before.SameWiring middle)
    (second : middle.SameWiring after) : before.SameWiring after where
  switches := second.switches.trans first.switches
  wiring := second.wiring.trans first.wiring
  plugs := second.plugs.trans first.plugs

end Cloud

/-- These requests plug an interface in. -/
def Request.connects : Request → Bool
  | .vpcRouter _ (.connectToSwitch ..) | .mobileGateway _ (.connectToSwitch ..) => true
  | _ => false

/-- A request keeps the wires when it shows in no wiring and plugs nothing in. -/
structure Request.KeepsWires (request : Request) : Prop where
  routers : request.KeepsRouters VpcRouter.wiring
  gateways : request.KeepsGateways MobileGateway.wiring
  connects : request.connects = false

/-- A look shows in no wiring and plugs nothing in. -/
theorem Request.Looks.keepsWires {request : Request} (looks : request.Looks) :
    request.KeepsWires := by
  cases request with
  | vpcRouter | mobileGateway => cases looks
  | _ => exact ⟨trivial, trivial, rfl⟩

/-- No call changes the switches. -/
theorem Request.Footprint.switches {request : Request} {before after : Cloud}
    (written : request.Footprint before after) : after.switches = before.switches := by
  cases request <;> rw [written]

namespace Cloud

variable {cloud : Cloud}

/-- A call about a router that connects nothing leaves the plugs of all routers as they are. -/
theorem answerVpcRouter_plugs (call : VpcRouterCall)
    (silent : ∀ id index switchId, call ≠ .connectToSwitch id index switchId) :
    (answerVpcRouter call).Yields cloud
      (fun _ after => after.vpcRouterSwitches = cloud.vpcRouterSwitches)
      (fun _ after => after.vpcRouterSwitches = cloud.vpcRouterSwitches) := by
  cases call with
  | create request => exact rfl
  | connectToSwitch id index switchId => exact absurd rfl (silent id index switchId)
  | _ =>
      simp only [answerVpcRouter, updateVpcRouter, yields_bind, yields_freshHash, yields_find,
        yields_checkHash, yields_change, yields_remove, yields_readSettling, yields_recordShutdown,
        yields_pure]
      repeat' split
      all_goals trivial

/-- A call about a gateway that connects nothing leaves the plugs of all gateways as they are. -/
theorem answerMobileGateway_plugs (call : MobileGatewayCall)
    (silent : ∀ id switchId, call ≠ .connectToSwitch id switchId) :
    (answerMobileGateway call).Yields cloud
      (fun _ after => after.mobileGatewaySwitches = cloud.mobileGatewaySwitches)
      (fun _ after => after.mobileGatewaySwitches = cloud.mobileGatewaySwitches) := by
  cases call with
  | create request => exact rfl
  | connectToSwitch id switchId => exact absurd rfl (silent id switchId)
  | _ =>
      simp only [answerMobileGateway, updateMobileGateway, addSim, yields_bind, yields_freshHash,
        yields_find, yields_checkHash, yields_change, yields_remove, yields_readSettling,
        yields_recordShutdown, yields_modify, yields_ite, yields_throw, yields_pure]
      repeat' split
      all_goals trivial

/-- Plugs are the same where those of routers and those of gateways are. -/
theorem plugs_congr {before after : Cloud}
    (routers : after.vpcRouterSwitches = before.vpcRouterSwitches)
    (gateways : after.mobileGatewaySwitches = before.mobileGatewaySwitches) :
    after.plugs = before.plugs := by
  unfold plugs
  rw [routers, gateways]

/-- A call that plugs nothing in leaves all plugs as they are. -/
theorem call_plugs {request : Request} (silent : request.connects = false) (cloud : Cloud) :
    (call request cloud).2.plugs = cloud.plugs := by
  obtain ⟨failures, written⟩ := call_footprint request cloud
  cases request with
  | vpcRouter zone request =>
      have routers : (call (.vpcRouter zone request) cloud).2.vpcRouterSwitches =
          cloud.vpcRouterSwitches := by
        refine call_elim
          (motive := fun _ after => after.vpcRouterSwitches = cloud.vpcRouterSwitches)
          (fun _ _ _ => rfl) fun _ => ?_
        apply answerVpcRouter_plugs
        rintro id index switchId rfl
        cases silent
      exact plugs_congr routers (by rw [written]; rfl)
  | mobileGateway zone request =>
      have gateways : (call (.mobileGateway zone request) cloud).2.mobileGatewaySwitches =
          cloud.mobileGatewaySwitches := by
        refine call_elim
          (motive := fun _ after => after.mobileGatewaySwitches = cloud.mobileGatewaySwitches)
          (fun _ _ _ => rfl) fun _ => ?_
        apply answerMobileGateway_plugs
        rintro id switchId rfl
        cases silent
      exact plugs_congr (by rw [written]; rfl) gateways
  | _ => exact plugs_congr (by rw [written]; rfl) (by rw [written]; rfl)

/-- A call leaves the switches as they are. -/
theorem call_switches (request : Request) (cloud : Cloud) :
    (call request cloud).2.switches = cloud.switches := by
  obtain ⟨failures, written⟩ := call_footprint request cloud
  exact written.switches

/-- A call that keeps the wires leaves the cloud wired the same, whether it succeeds or fails. -/
theorem call_sameWiring {request : Request} (keeps : request.KeepsWires) (cloud : Cloud) :
    cloud.SameWiring (call request cloud).2 where
  switches := call_switches request cloud
  wiring := by
    funext ⟨kind, id⟩
    cases kind with
    | vpcRouter => exact call_showsSame_routers keeps.routers cloud id
    | mobileGateway => exact call_showsSame_gateways keeps.gateways cloud id
  plugs := call_plugs keeps.connects cloud

/-- Since the start one appliance has got other wires and other plugs, and all others are wired the
same. -/
structure Rewired (start : Cloud) (site : Site) (wires : List Wire)
    (plugs : UInt8 → Option ResourceId) (cloud : Cloud) : Prop where
  switches : cloud.switches = start.switches
  wiring : cloud.wiring? = Function.update start.wiring? site (some ⟨site.id, wires⟩)
  plugs : cloud.plugs = Function.update start.plugs site plugs

namespace Rewired

variable {start cloud after : Cloud} {site : Site} {wires : List Wire}
  {plugs : UInt8 → Option ResourceId}

/-- An appliance that has been rewired is still so in a cloud that is wired the same. -/
theorem sameWiring (rewired : Rewired start site wires plugs cloud)
    (same : cloud.SameWiring after) : Rewired start site wires plugs after where
  switches := same.switches.trans rewired.switches
  wiring := same.wiring.trans rewired.wiring
  plugs := same.plugs.trans rewired.plugs

/-- An appliance that declares some wires is rewired to them and to its own plugs. -/
theorem refl (stored : start.wiring? site = some ⟨site.id, wires⟩) :
    Rewired start site wires (start.plugs site) start where
  switches := rfl
  wiring := by rw [← stored, Function.update_eq_self]
  plugs := by rw [Function.update_eq_self]

/-- The settings of a rewired appliance declare its wires. -/
theorem stored (rewired : Rewired start site wires plugs cloud) :
    cloud.wiring? site = some ⟨site.id, wires⟩ := by
  rw [rewired.wiring, Function.update_self]

/-- Another appliance has the wires and the plugs that it had. -/
theorem plugsAgree_iff (rewired : Rewired start site wires plugs cloud) {other : Site}
    (apart : other ≠ site) : cloud.PlugsAgree other ↔ start.PlugsAgree other := by
  have carries (wire : Wire) : cloud.Carries other wire ↔ start.Carries other wire := by
    have same : cloud.plugs other = start.plugs other := by
      rw [rewired.plugs, Function.update_of_ne apart]
    constructor
    · rintro ⟨plugged, switch⟩
      exact ⟨same ▸ plugged, rewired.switches ▸ switch⟩
    · rintro ⟨plugged, switch⟩
      exact ⟨same ▸ plugged, rewired.switches ▸ switch⟩
  rw [PlugsAgree, PlugsAgree, rewired.wiring, Function.update_of_ne apart]
  simp only [carries]

/-- The settings of the appliance are written. -/
theorem write (rewired : Rewired start site wires plugs cloud) {written : List Wire}
    (switches : after.switches = cloud.switches)
    (wiring : after.wiring? = Function.update cloud.wiring? site (some ⟨site.id, written⟩))
    (same : after.plugs = cloud.plugs) : Rewired start site written plugs after where
  switches := switches.trans rewired.switches
  wiring := by rw [wiring, rewired.wiring, Function.update_idem]
  plugs := same.trans rewired.plugs

/-- An interface of the appliance is plugged in. -/
theorem plug (rewired : Rewired start site wires plugs cloud) {wire : Wire}
    (switches : after.switches = cloud.switches) (wiring : after.wiring? = cloud.wiring?)
    (plugged : after.plugs = Function.update cloud.plugs site
      (Function.update (cloud.plugs site) wire.index (some wire.switchId))) :
    Rewired start site wires (plugIn plugs [wire]) after where
  switches := switches.trans rewired.switches
  wiring := wiring.trans rewired.wiring
  plugs := by rw [plugged, rewired.plugs, Function.update_self, Function.update_idem]; rfl

end Rewired

section Writes

variable {before after : Cloud} {id : ResourceId}

/-- A router that is written has the wiring that it declares. -/
theorem wiring?_insert_router {router : VpcRouter} {wiring : Wiring}
    (routers : after.vpcRouters = before.vpcRouters.insert id router)
    (gateways : after.mobileGateways = before.mobileGateways) (declares : router.wiring = wiring) :
    after.wiring? = Function.update before.wiring? ⟨.vpcRouter, id⟩ (some wiring) := by
  subst declares
  funext ⟨kind, other⟩
  rw [Function.update_apply]
  unfold wiring?
  cases kind with
  | vpcRouter =>
      simp only [routers, SortedMap.get?_insert, Site.mk.injEq, true_and]
      split <;> rfl
  | mobileGateway => simp only [gateways, Site.mk.injEq, reduceCtorEq, false_and, if_false]

/-- A gateway that is written has the wiring that it declares. -/
theorem wiring?_insert_gateway {gateway : MobileGateway} {wiring : Wiring}
    (routers : after.vpcRouters = before.vpcRouters)
    (gateways : after.mobileGateways = before.mobileGateways.insert id gateway)
    (declares : gateway.wiring = wiring) :
    after.wiring? = Function.update before.wiring? ⟨.mobileGateway, id⟩ (some wiring) := by
  subst declares
  funext ⟨kind, other⟩
  rw [Function.update_apply]
  unfold wiring?
  cases kind with
  | vpcRouter => simp only [routers, Site.mk.injEq, reduceCtorEq, false_and, if_false]
  | mobileGateway =>
      simp only [gateways, SortedMap.get?_insert, Site.mk.injEq, true_and]
      split <;> rfl

/-- A switch that is written for an interface of a router is plugged into that interface. -/
theorem plugs_insert_router {index : UInt8} {switchId : ResourceId}
    (routers : after.vpcRouterSwitches = before.vpcRouterSwitches.insert id
      (((before.vpcRouterSwitches.get? id).getD .empty).insert index switchId))
    (gateways : after.mobileGatewaySwitches = before.mobileGatewaySwitches) :
    after.plugs = Function.update before.plugs ⟨.vpcRouter, id⟩
      (Function.update (before.plugs ⟨.vpcRouter, id⟩) index (some switchId)) := by
  funext ⟨kind, other⟩ slot
  rw [Function.update_apply]
  cases kind with
  | vpcRouter =>
      simp only [plugs, routers, SortedMap.get?_insert, Site.mk.injEq, true_and]
      split
      next here =>
        rw [Function.update_apply, Option.bind_some, SortedMap.get?_insert]
        unfold plugs
        cases before.vpcRouterSwitches.get? id <;> rfl
      next => rfl
  | mobileGateway => simp only [plugs, gateways, Site.mk.injEq, reduceCtorEq, false_and, if_false]

/-- A switch that is written for a gateway is plugged into its only interface. -/
theorem plugs_insert_gateway {switchId : ResourceId}
    (routers : after.vpcRouterSwitches = before.vpcRouterSwitches)
    (gateways : after.mobileGatewaySwitches = before.mobileGatewaySwitches.insert id switchId) :
    after.plugs = Function.update before.plugs ⟨.mobileGateway, id⟩
      (Function.update (before.plugs ⟨.mobileGateway, id⟩) 0 (some switchId)) := by
  funext ⟨kind, other⟩ slot
  rw [Function.update_apply]
  cases kind with
  | vpcRouter => simp only [plugs, routers, Site.mk.injEq, reduceCtorEq, false_and, if_false]
  | mobileGateway =>
      simp only [Site.mk.injEq, true_and]
      split
      next here =>
        simp only [plugs, gateways, SortedMap.get?_insert, if_pos here, Function.update_apply]
        split <;> rfl
      next apart => simp only [plugs, gateways, SortedMap.get?_insert, if_neg apart]

end Writes

end Cloud

end Provisioning
