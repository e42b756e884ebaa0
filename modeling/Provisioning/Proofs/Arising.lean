import Provisioning.Proofs.RecordView

/-!
Clouds that arise. A cloud arises from an empty one when it is prepared, which makes no router and
no gateway, and when it is called. Every cloud that arises keeps its routers and gateways tidy.
-/

namespace Provisioning

open Cloud CloudStep

/-- A router is tidy when it is kept under its own identifier. -/
abbrev VpcRouter.Tidy (id : ResourceId) (router : VpcRouter) : Prop := router.id = id

/-- A gateway is tidy when it is kept under its own identifier and lists no card twice. -/
abbrev MobileGateway.Tidy (id : ResourceId) (gateway : MobileGateway) : Prop :=
  gateway.id = id ∧ gateway.simIds.Nodup

namespace Cloud

variable {cloud : Cloud}

/-- A cloud is tidy when its routers and its gateways are. -/
structure Tidy (cloud : Cloud) : Prop where
  routers : Each VpcRouter.Tidy cloud.vpcRouters
  gateways : Each MobileGateway.Tidy cloud.mobileGateways

/-- A call about a router keeps every router under its own identifier. -/
theorem answerVpcRouter_tidy (call : VpcRouterCall)
    (tidy : Each VpcRouter.Tidy cloud.vpcRouters) :
    (answerVpcRouter call).Yields cloud (fun _ after => Each VpcRouter.Tidy after.vpcRouters)
      (fun _ after => Each VpcRouter.Tidy after.vpcRouters) := by
  have kept (keeps : call.Keeps VpcRouter.id) :
      (answerVpcRouter call).Yields cloud (fun _ after => Each VpcRouter.Tidy after.vpcRouters)
        (fun _ after => Each VpcRouter.Tidy after.vpcRouters) := by
    have each {after : Cloud} (same : vpcRouterTable.ShowsSame VpcRouter.id cloud after) :
        Each VpcRouter.Tidy after.vpcRouters :=
      same.each (fun id shown => shown = id) tidy
    exact (answerVpcRouter_showsSame call keeps).mono (fun _ _ => each) (fun _ _ => each)
  cases call with
  | create request => exact tidy.insert rfl
  | delete id =>
      rw [answerVpcRouter, yields_remove]
      split
      · exact tidy.erase
      · exact tidy
  | connectToSwitch | config => exact kept trivial
  | _ => exact kept fun _ _ => rfl

/-- A call about a gateway keeps every gateway under its own identifier and lists no card twice. -/
theorem answerMobileGateway_tidy (call : MobileGatewayCall)
    (tidy : Each MobileGateway.Tidy cloud.mobileGateways) :
    (answerMobileGateway call).Yields cloud
      (fun _ after => Each MobileGateway.Tidy after.mobileGateways)
      (fun _ after => Each MobileGateway.Tidy after.mobileGateways) := by
  let roster (gateway : MobileGateway) : ResourceId × List ResourceId :=
    (gateway.id, gateway.simIds)
  have kept (keeps : call.Keeps roster) :
      (answerMobileGateway call).Yields cloud
        (fun _ after => Each MobileGateway.Tidy after.mobileGateways)
        (fun _ after => Each MobileGateway.Tidy after.mobileGateways) := by
    have each {after : Cloud} (same : mobileGatewayTable.ShowsSame roster cloud after) :
        Each MobileGateway.Tidy after.mobileGateways :=
      same.each (fun id shown => shown.1 = id ∧ shown.2.Nodup) tidy
    exact (answerMobileGateway_showsSame call keeps).mono (fun _ _ => each) (fun _ _ => each)
  cases call with
  | create request => exact tidy.insert ⟨rfl, List.nodup_nil⟩
  | delete id =>
      rw [answerMobileGateway, yields_remove]
      split
      · exact tidy.erase
      · exact tidy
  | addSim id simId =>
      rw [answerMobileGateway, addSim, yields_bind, yields_find]
      split
      · rw [yields_bind, yields_find]
        split
        next gateway stored =>
          obtain ⟨named, distinct⟩ := tidy id gateway stored
          rw [yields_ite]
          split
          · exact tidy
          next new =>
            rw [yields_bind]
            apply Yields.change _ _ stored
            refine tidy.insert ⟨named, ?_⟩
            rw [List.contains_iff_mem] at new
            refine List.nodup_append.mpr ⟨distinct, List.pairwise_singleton _ _, ?_⟩
            rintro other listed _ last rfl
            exact new (List.mem_singleton.mp last ▸ listed)
        · exact tidy
      · exact tidy
  | connectToSwitch | config | setDns | setTrafficConfig => exact kept trivial
  | _ => exact kept fun _ _ => rfl

/-- A call leaves a tidy cloud tidy, whether it succeeds or fails. -/
theorem Tidy.call (tidy : cloud.Tidy) (request : Request) : (call request cloud).2.Tidy := by
  obtain ⟨failures, written⟩ := call_footprint request cloud
  cases request with
  | vpcRouter zone request =>
      refine ⟨?_, by rw [written]; exact tidy.gateways⟩
      exact call_elim (motive := fun _ after => Each VpcRouter.Tidy after.vpcRouters)
        (fun _ _ _ => tidy.routers) fun _ => answerVpcRouter_tidy request tidy.routers
  | mobileGateway zone request =>
      refine ⟨by rw [written]; exact tidy.routers, ?_⟩
      exact call_elim (motive := fun _ after => Each MobileGateway.Tidy after.mobileGateways)
        (fun _ _ _ => tidy.gateways) fun _ => answerMobileGateway_tidy request tidy.gateways
  | _ =>
      rw [written]
      exact ⟨tidy.routers, tidy.gateways⟩

/-- A cloud arises when it is empty, when it has been prepared without a new router or gateway, and
when it has been called. -/
inductive Arises : Cloud → Prop where
  | empty : Arises .empty
  | prepared {before after : Cloud} (arises : Arises before)
      (routers : after.vpcRouters = before.vpcRouters)
      (gateways : after.mobileGateways = before.mobileGateways) : Arises after
  | called {before : Cloud} (arises : Arises before) (request : Request) :
      Arises (call request before).2

/-- Every cloud that arises is tidy. -/
theorem Arises.tidy (arises : cloud.Arises) : cloud.Tidy := by
  induction arises with
  | empty =>
      have none {ρ : Type} (holds : ResourceId → ρ → Prop) : Each holds .empty :=
        fun _ _ stored => nomatch stored
      exact ⟨none _, none _⟩
  | prepared arises routers gateways tidy =>
      exact ⟨routers ▸ tidy.routers, gateways ▸ tidy.gateways⟩
  | called arises request tidy => exact tidy.call request

end Cloud

end Provisioning
