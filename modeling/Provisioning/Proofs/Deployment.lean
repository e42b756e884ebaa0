import Provisioning.Proofs.Plugs

/-!
Deployments of appliances. A deployment is what the record of a router or a gateway shows apart from
its availability and its settings hash. The main statements follow a build from the creation of the
record to the boot and say which deployment it leaves behind.
-/

namespace Provisioning

open Program Cloud

variable {ρ β : Type}

/-- A deployment is an appliance with its metadata, its configuration and its run status. -/
structure Deployment (Configuration : Type) where
  id : ResourceId
  metadata : Metadata
  configuration : Configuration
  status : RunStatus

def VpcRouter.deployment (router : VpcRouter) :
    Deployment (VpcRouterPlan × VpcRouterSettings) where
  id := router.id
  metadata := ⟨router.name, router.description, router.tags, router.iconId⟩
  configuration := (router.plan, router.settings)
  status := router.instanceStatus

def MobileGateway.deployment (gateway : MobileGateway) : Deployment MobileGatewaySettings where
  id := gateway.id
  metadata := ⟨gateway.name, gateway.description, gateway.tags, gateway.iconId⟩
  configuration := gateway.settings
  status := gateway.instanceStatus

namespace Cloud.Table

variable {table : Table ρ} {view : ρ → β} {id : ResourceId} {shown next : β}
  {cloud before after : Cloud}

/-- A table shows something under an identifier when a stored record shows it through a view. -/
def Shows (table : Table ρ) (view : ρ → β) (id : ResourceId) (shown : β) (cloud : Cloud) : Prop :=
  ((table.read cloud).get? id).map view = some shown

/-- A table that shows the same as before shows what it has shown under each identifier. -/
theorem Shows.showsSame (shows : table.Shows view id shown before)
    (same : table.ShowsSame view before after) : table.Shows view id shown after :=
  (same id).trans shows

/-- A table shows the record that was written last. -/
theorem Shows.of_insert {records : Records ρ} {record : ρ}
    (written : table.read cloud = records.insert id record) :
    table.Shows view id (view record) cloud := by
  rw [Shows, written, SortedMap.get?_insert_self]
  rfl

/-- A change of a record shows through the view. -/
theorem Shows.change (shows : table.Shows view id shown before) (lawful : table.Lawful)
    (same : table.read cloud = table.read before) {edit : ρ → ρ}
    (visible : ∀ record, view record = shown → view (edit record) = next) :
    (table.change id edit).Yields cloud (fun _ after => table.Shows view id next after)
      (fun _ _ => False) := by
  obtain ⟨record, stored, here⟩ := Option.map_eq_some_iff.mp shows
  apply CloudStep.Yields.change _ _ (same ▸ stored)
  rw [← visible record here]
  exact .of_insert (lawful.read_write _ _)

end Cloud.Table

variable {context : Context} {world : World Cloud} {zone : Zone} {id : ResourceId} {label : String}

namespace VpcRouterBlueprint

variable {deployed : Deployment (VpcRouterPlan × VpcRouterSettings)}

/-- This is the deployment that a blueprint of a router declares. -/
def deployment (blueprint : VpcRouterBlueprint) (id : ResourceId) :
    Deployment (VpcRouterPlan × VpcRouterSettings) where
  id := id
  metadata := blueprint.toMetadata
  configuration := (blueprint.plan, blueprint.settings)
  status := if blueprint.bootAfterCreate then .up else .down

end VpcRouterBlueprint

/-- These requests set what is kept beside the record of a gateway. -/
def Request.equips : Request → Bool
  | .mobileGateway _ (.setDns ..) | .mobileGateway _ (.setTrafficConfig ..) => true
  | _ => false

/-- A request keeps the equipment when it shows in no deployment and sets nothing beside it. -/
structure Request.KeepsEquipment (request : Request) : Prop where
  deployments : request.KeepsGateways MobileGateway.deployment
  equips : request.equips = false

namespace Cloud

/-- The equipment of a gateway is its deployment together with its resolvers and its traffic
limits. -/
structure Equips (id : ResourceId) (deployed : Deployment MobileGatewaySettings)
    (dns : Option MobileGatewayDns) (traffic : Option TrafficConfig) (cloud : Cloud) : Prop where
  shows : mobileGatewayTable.Shows MobileGateway.deployment id deployed cloud
  dns : cloud.mobileGatewayDns.get? id = dns
  traffic : cloud.trafficConfigs.get? id = traffic

/-- A call that equips no gateway leaves all resolvers and traffic limits as they are. -/
theorem answerMobileGateway_equipment {cloud : Cloud} (zone : Zone) (call : MobileGatewayCall)
    (silent : (Request.mobileGateway zone call).equips = false) :
    (answerMobileGateway call).Yields cloud
      (fun _ after => after.mobileGatewayDns = cloud.mobileGatewayDns ∧
        after.trafficConfigs = cloud.trafficConfigs)
      (fun _ after => after.mobileGatewayDns = cloud.mobileGatewayDns ∧
        after.trafficConfigs = cloud.trafficConfigs) := by
  cases call with
  | create request => exact ⟨rfl, rfl⟩
  | setDns id dns | setTrafficConfig id traffic => nomatch silent
  | _ =>
      simp only [answerMobileGateway, updateMobileGateway, addSim, CloudStep.yields_bind,
        CloudStep.yields_freshHash, CloudStep.yields_find, CloudStep.yields_checkHash,
        CloudStep.yields_change, CloudStep.yields_remove, CloudStep.yields_readSettling,
        CloudStep.yields_recordShutdown, CloudStep.yields_modify, CloudStep.yields_ite,
        CloudStep.yields_throw, CloudStep.yields_pure]
      repeat' split
      all_goals trivial

/-- A call that keeps the equipment leaves it as it was, whether it succeeds or fails. -/
theorem Equips.call {id : ResourceId} {deployed : Deployment MobileGatewaySettings}
    {dns : Option MobileGatewayDns} {traffic : Option TrafficConfig} {cloud : Cloud}
    {request : Request} (equips : cloud.Equips id deployed dns traffic)
    (keeps : request.KeepsEquipment) :
    (Cloud.call request cloud).2.Equips id deployed dns traffic := by
  have same : (Cloud.call request cloud).2.mobileGatewayDns = cloud.mobileGatewayDns ∧
      (Cloud.call request cloud).2.trafficConfigs = cloud.trafficConfigs := by
    obtain ⟨failures, written⟩ := call_footprint request cloud
    cases request with
    | mobileGateway zone request =>
        exact call_elim
          (motive := fun _ after => after.mobileGatewayDns = cloud.mobileGatewayDns ∧
            after.trafficConfigs = cloud.trafficConfigs)
          (fun _ _ _ => ⟨rfl, rfl⟩) fun _ => answerMobileGateway_equipment zone request keeps.equips
    | _ =>
        rw [written]
        exact ⟨rfl, rfl⟩
  refine ⟨equips.shows.showsSame (call_showsSame_gateways keeps.deployments cloud), ?_, ?_⟩
  · rw [same.1]
    exact equips.dns
  · rw [same.2]
    exact equips.traffic

/-- A change of a gateway shows in its deployment and leaves the rest of the equipment as it was. -/
theorem Equips.change {id : ResourceId} {deployed next : Deployment MobileGatewaySettings}
    {dns : Option MobileGatewayDns} {traffic : Option TrafficConfig} {before cloud : Cloud}
    (equips : before.Equips id deployed dns traffic)
    (same : cloud.mobileGateways = before.mobileGateways ∧
      cloud.mobileGatewayDns = before.mobileGatewayDns ∧
      cloud.trafficConfigs = before.trafficConfigs) {edit : MobileGateway → MobileGateway}
    (visible : ∀ gateway : MobileGateway, gateway.deployment = deployed →
      (edit gateway).deployment = next) :
    (mobileGatewayTable.change id edit).Yields cloud
      (fun _ after => after.Equips id next dns traffic) (fun _ _ => False) := by
  obtain ⟨gateways, sameDns, sameTraffic⟩ := same
  obtain ⟨gateway, stored, here⟩ := Option.map_eq_some_iff.mp equips.shows
  have found : cloud.mobileGateways.get? id = some gateway := by
    rw [gateways]
    exact stored
  apply CloudStep.Yields.change _ _ found
  rw [← visible gateway here]
  refine ⟨.of_insert rfl, ?_, ?_⟩
  · rw [← equips.dns, ← sameDns]
    rfl
  · rw [← equips.traffic, ← sameTraffic]
    rfl

end Cloud

namespace MobileGatewayBlueprint

variable {deployed : Deployment MobileGatewaySettings} {dns : Option MobileGatewayDns}
  {traffic : Option TrafficConfig}

/-- This is the deployment that a blueprint of a gateway declares. -/
def deployment (blueprint : MobileGatewayBlueprint) (id : ResourceId) :
    Deployment MobileGatewaySettings where
  id := id
  metadata := blueprint.toMetadata
  configuration := blueprint.settings
  status := if blueprint.bootAfterCreate then .up else .down

end MobileGatewayBlueprint

end Provisioning
