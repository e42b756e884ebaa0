import Mathlib.Logic.Function.Basic
import Provisioning.Proofs.Footprint

/-!
Views of records. A view shows a part of every record of a table. A call whose changes do not show
in a view leaves the table as it was, as far as the view is concerned. The main statements say so
for the calls about routers and about gateways. What a loop of calls writes key by key is an
assignment.
-/

namespace Provisioning

open Cloud CloudStep

variable {ρ β : Type}

section Assignments

variable {ι κ ν : Type} [DecidableEq κ] {key : ι → κ} {value : ι → ν} {assigned : κ → Option ν}
  {items : List ι}

/-- Each item assigns its value to its key, one item after the other. -/
def assignAll (key : ι → κ) (value : ι → ν) (assigned : κ → Option ν) (items : List ι) :
    κ → Option ν :=
  items.foldl (fun assigned item => Function.update assigned (key item) (some (value item)))
    assigned

/-- Items that follow others assign their values after them. -/
theorem assignAll_append (first second : List ι) : assignAll key value assigned (first ++ second) =
    assignAll key value (assignAll key value assigned first) second :=
  List.foldl_append

/-- A key that no item has keeps its value. -/
theorem assignAll_of_notMem {other : κ} (elsewhere : other ∉ items.map key) :
    assignAll key value assigned items other = assigned other := by
  induction items generalizing assigned with
  | nil => rfl
  | cons item rest inductionHypothesis =>
      rw [List.map_cons, List.mem_cons, not_or] at elsewhere
      obtain ⟨apart, elsewhere⟩ := elsewhere
      exact (inductionHypothesis elsewhere).trans (Function.update_of_ne apart _ _)

/-- Items with distinct keys do not overwrite each other. -/
theorem assignAll_of_mem (distinct : (items.map key).Nodup) :
    ∀ item ∈ items, assignAll key value assigned items (key item) = some (value item) := by
  induction items generalizing assigned with
  | nil => exact List.forall_mem_nil _
  | cons item rest inductionHypothesis =>
      obtain ⟨new, distinctRest⟩ := List.nodup_cons.mp distinct
      refine List.forall_mem_cons.mpr ⟨?_, inductionHypothesis distinctRest⟩
      exact (assignAll_of_notMem new).trans (Function.update_self _ _ _)

end Assignments

/-- Each stored record has a property that may depend on its key. -/
def Cloud.Each (holds : ResourceId → ρ → Prop) (records : Records ρ) : Prop :=
  ∀ id record, records.get? id = some record → holds id record

namespace Cloud.Each

variable {holds : ResourceId → ρ → Prop} {records : Records ρ} {id : ResourceId} {record : ρ}

/-- Each record still has a property when a record with the property is stored. -/
theorem insert (each : Each holds records) (new : holds id record) :
    Each holds (records.insert id record) := by
  intro other found stored
  rw [SortedMap.get?_insert] at stored
  split at stored
  next here =>
    cases stored
    exact here ▸ new
  next => exact each other found stored

/-- Each record still has a property when a record is removed. -/
theorem erase (each : Each holds records) : Each holds (records.erase id) := by
  intro other found stored
  rw [SortedMap.get?_erase] at stored
  split at stored
  · cases stored
  · exact each other found stored

end Cloud.Each

/-- A table shows the same through a view when each record does. -/
def Cloud.Table.ShowsSame (table : Table ρ) (view : ρ → β) (before after : Cloud) : Prop :=
  ∀ id, ((table.read after).get? id).map view = ((table.read before).get? id).map view

namespace Cloud.Table.ShowsSame

variable {table : Table ρ} {view : ρ → β} {cloud before after : Cloud} {id : ResourceId}

/-- A table with the same records shows the same through any view. -/
theorem of_read_eq (same : table.read after = table.read before) :
    table.ShowsSame view before after := fun id => by rw [same]

theorem trans {middle : Cloud} (first : table.ShowsSame view before middle)
    (second : table.ShowsSame view middle after) : table.ShowsSame view before after :=
  fun id => (second id).trans (first id)

/-- A record is changed in what the view does not show. -/
theorem of_insert {now next : ρ} (stored : (table.read before).get? id = some now)
    (written : table.read after = (table.read before).insert id next)
    (hidden : view next = view now) : table.ShowsSame view before after := by
  intro other
  rw [written, SortedMap.get?_insert]
  split
  next here =>
    subst here
    rw [stored]
    exact congrArg some hidden
  next => rfl

/-- A change that does not show leaves the table the same. -/
theorem change (lawful : table.Lawful) {edit : ρ → ρ}
    (hidden : ∀ record, view (edit record) = view record) :
    (table.change id edit).Yields cloud
      (fun record after =>
        table.ShowsSame view cloud after ∧ (table.read after).get? id = some record)
      (fun _ after => table.ShowsSame view cloud after) := by
  rw [yields_change]
  cases stored : (table.read cloud).get? id with
  | none => exact .of_read_eq rfl
  | some record =>
      have written := lawful.read_write cloud ((table.read cloud).insert id (edit record))
      refine ⟨.of_insert stored written (hidden record), ?_⟩
      rw [written]
      exact SortedMap.get?_insert_self _ _ _

/-- A read answers with the record that is stored, whether the record settles or not. -/
theorem readSettling (lawful : table.Lawful) {settled : ρ → ρ}
    (hidden : ∀ record, view (settled record) = view record) :
    (table.readSettling id settled).Yields cloud
      (fun record after =>
        table.ShowsSame view cloud after ∧ (table.read after).get? id = some record)
      (fun _ after => table.ShowsSame view cloud after) := by
  have read (pending : Records Nat) :
      table.read { cloud with pending := pending } = table.read cloud :=
    lawful.read_counters cloud cloud.lastId pending cloud.calls cloud.failures
  have counted (pending : Records Nat) {after : Cloud}
      (same : table.ShowsSame view { cloud with pending := pending } after) :
      table.ShowsSame view cloud after := fun id => by rw [same id, read]
  rw [yields_readSettling]
  cases stored : (table.read cloud).get? id with
  | none => exact .of_read_eq rfl
  | some record =>
      dsimp only
      cases cloud.pending.get? id with
      | none => exact change lawful hidden
      | some left =>
          dsimp only
          split
          · apply CloudStep.Yields.find table id
            · rw [read]
              exact stored
            · refine ⟨.of_read_eq (read _), ?_⟩
              rw [read]
              exact stored
          · exact (change lawful hidden).mono
              (fun _ _ shown => ⟨counted _ shown.1, shown.2⟩) (fun _ _ same => counted _ same)

/-- What each record shows, it still shows when the table shows the same. -/
theorem each (holds : ResourceId → β → Prop) (same : table.ShowsSame view before after)
    (here : Each (fun id record => holds id (view record)) (table.read before)) :
    Each (fun id record => holds id (view record)) (table.read after) := by
  intro id record stored
  have shown := same id
  rw [stored] at shown
  obtain ⟨former, found, hidden⟩ := Option.map_eq_some_iff.mp shown.symm
  exact hidden ▸ here id former found

end Cloud.Table.ShowsSame

/-- A call about routers keeps a view when nothing that it changes shows there. -/
def VpcRouterCall.Keeps (view : VpcRouter → β) : VpcRouterCall → Prop
  | .create _ | .delete _ => False
  | .read _ => ∀ router availability, view { router with availability } = view router
  | .update _ request => ∀ router settingsHash,
      view
        { router with
          name := request.name
          description := request.description
          tags := request.tags
          iconId := request.iconId
          settings := request.settings
          settingsHash } = view router
  | .boot _ | .shutdown .. =>
      ∀ router instanceStatus, view { router with instanceStatus } = view router
  | .connectToSwitch .. | .config _ => True

/-- A call about gateways keeps a view when nothing that it changes shows there. -/
def MobileGatewayCall.Keeps (view : MobileGateway → β) : MobileGatewayCall → Prop
  | .create _ | .delete _ => False
  | .read _ => ∀ gateway availability, view { gateway with availability } = view gateway
  | .update _ request => ∀ gateway settingsHash,
      view
        { gateway with
          name := request.name
          description := request.description
          tags := request.tags
          iconId := request.iconId
          settings := request.settings
          settingsHash } = view gateway
  | .boot _ | .shutdown .. =>
      ∀ gateway instanceStatus, view { gateway with instanceStatus } = view gateway
  | .addSim .. => ∀ gateway simIds, view { gateway with simIds } = view gateway
  | .connectToSwitch .. | .config _ | .setDns .. | .setTrafficConfig .. => True

/-- A request that is not about routers keeps every view of them. -/
def Request.KeepsRouters (view : VpcRouter → β) : Request → Prop
  | .vpcRouter _ call => call.Keeps view
  | _ => True

/-- A request that is not about gateways keeps every view of them. -/
def Request.KeepsGateways (view : MobileGateway → β) : Request → Prop
  | .mobileGateway _ call => call.Keeps view
  | _ => True

namespace Cloud

variable {cloud : Cloud}

/-- A read answers with the router that is stored. -/
theorem readVpcRouter_showsSame {view : VpcRouter → β} {id : ResourceId}
    (keeps : (VpcRouterCall.read id).Keeps view) :
    (answerVpcRouter (.read id)).Yields cloud
      (fun router after =>
        vpcRouterTable.ShowsSame view cloud after ∧ after.vpcRouters.get? id = some router)
      (fun _ after => vpcRouterTable.ShowsSame view cloud after) :=
  Table.ShowsSame.readSettling vpcRouterTable_lawful fun _ => keeps _ _

/-- A call about routers that keeps a view shows the same there, whether it succeeds or fails. -/
theorem answerVpcRouter_showsSame {view : VpcRouter → β} (call : VpcRouterCall)
    (keeps : call.Keeps view) :
    (answerVpcRouter call).Yields cloud (fun _ after => vpcRouterTable.ShowsSame view cloud after)
      (fun _ after => vpcRouterTable.ShowsSame view cloud after) := by
  cases call with
  | create request | delete id => exact keeps.elim
  | read id =>
      exact (readVpcRouter_showsSame keeps).mono (fun _ _ both => both.1) fun _ _ same => same
  | update id request =>
      simp only [answerVpcRouter, updateVpcRouter, yields_bind, yields_freshHash, yields_find,
        yields_checkHash, yields_change]
      repeat' split
      next stored => exact .of_insert stored rfl (keeps _ _)
      all_goals exact .of_read_eq rfl
  | boot id =>
      simp only [answerVpcRouter, yields_bind, yields_change, yields_pure]
      split
      next stored => exact .of_insert stored rfl (keeps _ _)
      next => exact .of_read_eq rfl
  | shutdown id force =>
      simp only [answerVpcRouter, yields_bind, yields_change, yields_recordShutdown]
      split
      next stored => exact .of_insert stored rfl (keeps _ _)
      next => exact .of_read_eq rfl
  | connectToSwitch id index switchId =>
      simp only [answerVpcRouter, connectVpcRouter, yields_bind, yields_find, yields_modify]
      repeat' split
      all_goals exact .of_read_eq rfl
  | config id =>
      simp only [answerVpcRouter, yields_bind, yields_find, yields_pure]
      split <;> exact .of_read_eq rfl

/-- Calls about servers write no more of a disk than the server that it follows. -/
theorem answerServer_showsSame_disks {view : Disk → β} (call : ServerCall)
    (hidden : ∀ disk serverId, view { disk with serverId } = view disk) :
    (answerServer call).Yields cloud (fun _ after => diskTable.ShowsSame view cloud after)
      (fun _ after => diskTable.ShowsSame view cloud after) := by
  cases call with
  | create request =>
      simp only [answerServer, createServer, yields_bind, yields_findServerPlan, yields_allocate,
        yields_createInterfaces, yields_insert, yields_pure]
      split <;> exact .of_read_eq rfl
  | read id =>
      simp only [answerServer, yields_find]
      split <;> exact .of_read_eq rfl
  | update id request =>
      simp only [answerServer, yields_change]
      split <;> exact .of_read_eq rfl
  | delete id =>
      simp only [answerServer, yields_remove]
      split <;> exact .of_read_eq rfl
  | boot id | ejectCdrom id cdromId =>
      simp only [answerServer, yields_bind, yields_change, yields_pure]
      split <;> exact .of_read_eq rfl
  | shutdown id force =>
      simp only [answerServer, yields_bind, yields_change, yields_recordShutdown]
      split <;> exact .of_read_eq rfl
  | changePlan id planId =>
      simp only [answerServer, changeServerPlan, yields_bind, yields_findServerPlan, yields_find]
      repeat' split
      case isFalse =>
        intro disk
        change ((cloud.disks.mapValues _).get? disk).map view = _
        rw [SortedMap.get?_mapValues, Option.map_map]
        congr 1
        ext1 record
        dsimp only [Function.comp_apply]
        split
        · exact hidden record _
        · rfl
      all_goals exact .of_read_eq rfl
  | insertCdrom id cdromId =>
      simp only [answerServer, yields_bind, yields_find, yields_change, yields_pure]
      repeat' split
      all_goals exact .of_read_eq rfl
  | connectToPacketFilter interfaceId packetFilterId =>
      simp only [answerServer, yields_bind, yields_find, yields_changeInterface, yields_change]
      repeat' split
      all_goals exact .of_read_eq rfl
  | updateInterface interfaceId request =>
      simp only [answerServer, yields_changeInterface, yields_change]
      repeat' split
      all_goals exact .of_read_eq rfl

/-- A read answers with the gateway that is stored. -/
theorem readMobileGateway_showsSame {view : MobileGateway → β} {id : ResourceId}
    (keeps : (MobileGatewayCall.read id).Keeps view) :
    (answerMobileGateway (.read id)).Yields cloud
      (fun gateway after =>
        mobileGatewayTable.ShowsSame view cloud after ∧ after.mobileGateways.get? id = some gateway)
      (fun _ after => mobileGatewayTable.ShowsSame view cloud after) :=
  Table.ShowsSame.readSettling mobileGatewayTable_lawful fun _ => keeps _ _

/-- A call about gateways that keeps a view shows the same there, whether it succeeds or fails. -/
theorem answerMobileGateway_showsSame {view : MobileGateway → β} (call : MobileGatewayCall)
    (keeps : call.Keeps view) :
    (answerMobileGateway call).Yields cloud
      (fun _ after => mobileGatewayTable.ShowsSame view cloud after)
      (fun _ after => mobileGatewayTable.ShowsSame view cloud after) := by
  cases call with
  | create request | delete id => exact keeps.elim
  | read id =>
      exact (readMobileGateway_showsSame keeps).mono (fun _ _ both => both.1) fun _ _ same => same
  | update id request =>
      simp only [answerMobileGateway, updateMobileGateway, yields_bind, yields_freshHash,
        yields_find, yields_checkHash, yields_change]
      repeat' split
      next stored => exact .of_insert stored rfl (keeps _ _)
      all_goals exact .of_read_eq rfl
  | boot id =>
      simp only [answerMobileGateway, yields_bind, yields_change, yields_pure]
      split
      next stored => exact .of_insert stored rfl (keeps _ _)
      next => exact .of_read_eq rfl
  | shutdown id force =>
      simp only [answerMobileGateway, yields_bind, yields_change, yields_recordShutdown]
      split
      next stored => exact .of_insert stored rfl (keeps _ _)
      next => exact .of_read_eq rfl
  | connectToSwitch id switchId =>
      simp only [answerMobileGateway, yields_bind, yields_find, yields_modify]
      repeat' split
      all_goals exact .of_read_eq rfl
  | config id =>
      simp only [answerMobileGateway, yields_bind, yields_find, yields_pure]
      split <;> exact .of_read_eq rfl
  | setDns id dns | setTrafficConfig id traffic =>
      simp only [answerMobileGateway, yields_bind, yields_find, yields_modify]
      split <;> exact .of_read_eq rfl
  | addSim id simId =>
      simp only [answerMobileGateway, addSim, yields_bind, yields_find, yields_ite, yields_throw,
        yields_pure]
      repeat' split
      case isFalse =>
        exact (Table.ShowsSame.change mobileGatewayTable_lawful fun _ => keeps _ _).mono
          (fun _ _ shown => shown.1) (fun _ _ same => same)
      all_goals exact .of_read_eq rfl

/-- What a call does not show to a view of the routers, no failure and no other family shows. -/
theorem call_showsSame_routers {view : VpcRouter → β} {request : Request}
    (keeps : request.KeepsRouters view) (cloud : Cloud) :
    vpcRouterTable.ShowsSame view cloud (call request cloud).2 := by
  obtain ⟨failures, written⟩ := call_footprint request cloud
  cases request with
  | vpcRouter zone request =>
      refine call_elim (motive := fun _ after => vpcRouterTable.ShowsSame view cloud after) ?_ ?_
      · exact fun _ _ _ => .of_read_eq rfl
      · exact fun _ => answerVpcRouter_showsSame request keeps
  | _ =>
      apply Table.ShowsSame.of_read_eq
      rw [written]
      rfl

/-- A call that keeps a view of gateways shows the same there. -/
theorem call_showsSame_gateways {view : MobileGateway → β} {request : Request}
    (keeps : request.KeepsGateways view) (cloud : Cloud) :
    mobileGatewayTable.ShowsSame view cloud (call request cloud).2 := by
  obtain ⟨failures, written⟩ := call_footprint request cloud
  cases request with
  | mobileGateway zone request =>
      refine call_elim
        (motive := fun _ after => mobileGatewayTable.ShowsSame view cloud after) ?_ ?_
      · exact fun _ _ _ => .of_read_eq rfl
      · exact fun _ => answerMobileGateway_showsSame request keeps
  | _ =>
      apply Table.ShowsSame.of_read_eq
      rw [written]
      rfl

end Cloud

end Provisioning
