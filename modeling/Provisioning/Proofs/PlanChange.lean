import Provisioning.Proofs.Overtaken
import Provisioning.Proofs.Readiness
import Provisioning.Proofs.ServerUpdate

/-!
When an update changes the plan of a server. The journal of an update tells what the run has seen of
the server, whatever the remote answers. The main statement says that the plan is changed at most
once, only for a plan that differs, and with a server that was last seen down, except that a server
that is seen cleaning is not shut down first.
-/

namespace Provisioning

open Program

/-- A request to change a plan names the server and the plan. -/
def Request.planChange? : Request → Option (ResourceId × ResourceId)
  | .server _ (.changePlan id planId) => some (id, planId)
  | _ => none

/-- A steady request leaves plans as they are. -/
structure Request.Steady (request : Request) : Prop where
  planChange : request.planChange? = none

/-- A request that consults the catalogue leaves plans as they are. -/
theorem Request.Consults.steady {request : Request} (consults : request.Consults) :
    request.Steady := by
  obtain ⟨zone, call, rfl⟩ := consults
  exact ⟨rfl⟩

namespace Entry

/-- A read that succeeds shows a server to a run that has asked for it. -/
def server? : Entry CloudService → Option (ResourceId × Server)
  | ⟨.server _ (.read id), .ok server, _, _⟩ => some (id, server)
  | _ => none

/-- This is the run status that a call shows of a server. A read is about the server that it asks
for and about the server that it answers. -/
def runStatus? (id : ResourceId) (entry : Entry CloudService) : Option RunStatus :=
  match entry.server? with
  | some (asked, server) => if asked = id ∨ server.id = id then some server.instanceStatus else none
  | none => none

/-- A read that succeeds shows the run status of a server that it asks for or that it answers. -/
theorem runStatus?_read {id asked : ResourceId} {zone : Zone} {server : Server}
    {started completed : Timeline} (about : asked = id ∨ server.id = id) :
    runStatus? id ⟨.server zone (.read asked), .ok server, started, completed⟩ =
      some server.instanceStatus := if_pos about

/-- The answer to this call lists the plans among which one is chosen. -/
def Resolves (query : ServerPlanQuery) (planId : ResourceId) (entry : Entry CloudService) : Prop :=
  ∃ zone plans started completed,
    entry = ⟨.catalogue zone .findServerPlans, .ok plans, started, completed⟩ ∧
      ServerBlueprint.choosePlan query plans = .ok planId

end Entry

/-- These are the statuses that a history has shown of a server, earliest first. -/
def shownStatuses (id : ResourceId) (history : List (Entry CloudService)) : List RunStatus :=
  history.filterMap (Entry.runStatus? id)

/-- One more call adds the status that it shows, if it shows any. -/
theorem shownStatuses_append (id : ResourceId) (history : List (Entry CloudService))
    (last : Entry CloudService) :
    shownStatuses id (history ++ [last]) =
      shownStatuses id history ++ (last.runStatus? id).toList := by
  rw [shownStatuses, List.filterMap_append, List.filterMap_cons, List.filterMap_nil]
  cases last.runStatus? id <;> rfl

namespace ServerBlueprint

/-- A history has found a server with another plan when it has changed no plan, when the resolved
plan was chosen among the listed ones, and when the first server that it has read is the one that
the blueprint is about, with a plan that differs. -/
structure HasFound (blueprint : ServerBlueprint) (current : Server) (planId : ResourceId)
    (history : List (Entry CloudService)) : Prop where
  steady : ∀ entry ∈ history, entry.request.Steady
  resolved : ∃ entry ∈ history, entry.Resolves blueprint.plan planId
  read : history.findSome? Entry.server? = some (blueprint.id, current)

/-- A history warrants a change of the plan of a server when it has found the server with another
plan and has last seen it down. A server that it has seen cleaning it has seen only once. -/
structure Warrants (blueprint : ServerBlueprint) (current : Server) (planId : ResourceId)
    (history : List (Entry CloudService)) : Prop extends
    blueprint.HasFound current planId history where
  differs : current.planId ≠ planId
  down : current.instanceStatus ≠ .cleaning →
    (shownStatuses current.id history).getLast? = some .down
  cleaning : current.instanceStatus = .cleaning → shownStatuses current.id history = [.cleaning]

/-- A call that changes a plan is warranted by the calls before it. -/
def Warranted (blueprint : ServerBlueprint) (history : List (Entry CloudService))
    (entry : Entry CloudService) : Prop :=
  ∀ id planId, entry.request.planChange? = some (id, planId) →
    ∃ current, current.id = id ∧ blueprint.Warrants current planId history

variable {Store : Type} {context : Context} {remote : Remote CloudService Store} {zone : Zone}
  {world : World (Observed CloudService Store)} {blueprint : ServerBlueprint} {current : Server}
  {planId : ResourceId} {journal made : List (Entry CloudService)}

/-- A call that leaves plans as they are needs no warrant. -/
theorem warranted_of_steady {history : List (Entry CloudService)} {entry : Entry CloudService}
    (steady : entry.request.Steady) : blueprint.Warranted history entry :=
  fun _ _ changes => nomatch steady.planChange.symm.trans changes

/-- A journal without changes of plans is warranted throughout. -/
theorem each_of_steady (steady : ∀ entry ∈ journal, entry.request.Steady) :
    EachCall blueprint.Warranted journal := by
  rintro history entry later rfl
  exact warranted_of_steady (steady entry (List.mem_append_right _ List.mem_cons_self))

/-- Steady calls need no warrant. -/
theorem keeps_warranted {α : Type} {program : Build α}
    (orderly : Orderly Request.Steady program.run)
    (each : EachCall blueprint.Warranted world.store.journal) :
    Yields context remote.observed program world
      (fun _ after => EachCall blueprint.Warranted after.store.journal)
      (fun _ after => EachCall blueprint.Warranted after.store.journal) := by
  apply orderly.keeps fun store : Observed CloudService Store =>
    EachCall blueprint.Warranted store.journal
  · exact fun request steady now each => each.append (warranted_of_steady steady)
  · exact each

/-- What a history has found stays found while no plan is changed. -/
theorem HasFound.append (found : blueprint.HasFound current planId journal)
    (steady : ∀ entry ∈ made, entry.request.Steady) :
    blueprint.HasFound current planId (journal ++ made) where
  steady := List.forall_mem_append.mpr ⟨found.steady, steady⟩
  resolved := by
    obtain ⟨entry, member, resolves⟩ := found.resolved
    exact ⟨entry, List.mem_append_left _ member, resolves⟩
  read := by
    rw [List.findSome?_append, found.read]
    rfl

/-- A program of steady calls yields warranted calls also when it fails. -/
theorem steadily {α : Type} {program : Build α}
    {succeeds : α → World (Observed CloudService Store) → Prop}
    (orderly : Orderly Request.Steady program.run)
    (steady : ∀ entry ∈ world.store.journal, entry.request.Steady)
    (yields : Yields context remote.observed program world succeeds fun _ _ => True) :
    Yields context remote.observed program world succeeds
      (fun _ after => EachCall blueprint.Warranted after.store.journal) :=
  (yields.and (keeps_warranted orderly (each_of_steady steady))).mono
    (fun _ _ both => both.1) fun _ _ both => both.2

section Switch

variable {id : ResourceId} {operation : PowerOperation} {timing : Timing}

/-- The last read of a confirmation shows the wanted status. -/
theorem confirm_shows : Yields context remote.observed
    ((serverPower zone id).confirm operation timing) world
    (fun _ after => (shownStatuses id after.store.journal).getLast? = some operation.target)
    (fun _ _ => True) := by
  let shown (after : World (Observed CloudService Store)) : Prop :=
    (shownStatuses id after.store.journal).getLast? = some operation.target
  have other : ¬ (operation.opposite == operation.target) := by cases operation <;> nofun
  have looks : ∀ (lastRequest : Nat) (now : World (Observed CloudService Store)), True →
      Yields context remote.observed ((serverPower zone id).confirmation operation
        (operation.reissueSpan timing.power) lastRequest) now
        (fun seen after => if seen.1 == operation.target then shown after else True)
        (fun _ _ => True) := by
    intro lastRequest now _
    rw [PowerHandler.confirmation, yields_bind, serverPower, yields_bind]
    apply Yields.answered
    · intro server seen written
      rw [yields_pure, yields_bind, yields_clock, yields_ite]
      split
      next reissues =>
        -- A status for which the request is issued again is not the wanted one.
        have missed : ¬ (server.instanceStatus == operation.target) := reissues.1 ▸ other
        simp only [yields_bind, yields_clock, yields_pure, if_neg missed]
        exact .of_forall (fun _ _ => trivial) fun _ _ => trivial
      next =>
        rw [yields_pure]
        dsimp only
        split
        next accepted =>
          change (shownStatuses id seen.store.journal).getLast? = _
          rw [written, shownStatuses_append, Entry.runStatus?_read (.inl rfl), Option.toList_some,
            List.getLast?_concat, eq_of_beq accepted]
        next => trivial
    · exact fun _ _ _ => trivial
  rw [PowerHandler.confirm, yields_bind, yields_now]
  refine Yields.bind (Wait.forStateWith_keeps (fun _ _ => True) (fun _ after => shown after) looks
    ?_ ?_ trivial) fun _ _ shown => shown
  · exact fun _ _ _ _ => trivial
  · exact fun _ _ _ => trivial

/-- The last read of a switch that waits shows the wanted status. -/
theorem switch_shows : Yields context remote.observed
    ((serverPower zone id).switch operation timing false) world
    (fun _ after => (shownStatuses id after.store.journal).getLast? = some operation.target)
    (fun _ _ => True) := by
  rw [PowerHandler.switch, yields_bind]
  exact .of_forall (fun _ _ => confirm_shows) fun _ _ => trivial

end Switch

/-- A warranted plan change is the only one so far. -/
theorem moves_warranted (warrants : blueprint.Warrants current planId world.store.journal) :
    Yields context remote.observed (do
      let changed ← Build.call "change server plan" (.server zone (.changePlan current.id planId))
      return changed.id) world
      (fun _ after => EachCall blueprint.Warranted after.store.journal)
      (fun _ after => EachCall blueprint.Warranted after.store.journal) := by
  have each : EachCall blueprint.Warranted world.store.journal := each_of_steady warrants.steady
  have warranted : ∀ answer started completed, blueprint.Warranted world.store.journal
      ⟨.server zone (.changePlan current.id planId), answer, started, completed⟩ := by
    rintro answer started completed _ _ ⟨⟩
    exact ⟨current, rfl, warrants⟩
  rw [yields_bind]
  apply Yields.called
  · intro changed after written
    rw [yields_pure, written]
    exact each.append (warranted _ _ _)
  · intro error after written
    rw [written]
    exact each.append (warranted _ _ _)

/-- A server that is up is seen down before its plan is changed. Any other server has been seen once
and goes on as it is. -/
theorem changePlan_warranted (found : blueprint.HasFound current planId world.store.journal)
    (differs : current.planId ≠ planId)
    (seen : shownStatuses current.id world.store.journal = [current.instanceStatus]) :
    Yields context remote.observed (blueprint.changePlan zone current planId) world
      (fun _ after => EachCall blueprint.Warranted after.store.journal)
      (fun _ after => EachCall blueprint.Warranted after.store.journal) := by
  rw [changePlan]
  split
  next up =>
    have steady : Orderly Request.Steady ((serverPower zone current.id).switch
        (.shutdown blueprint.forceShutdown) blueprint.timing false).run :=
      Orderly.switch .server ⟨rfl⟩ ⟨rfl⟩ blueprint.timing false
    have stops : Yields context remote.observed ((serverPower zone current.id).switch
        (.shutdown blueprint.forceShutdown) blueprint.timing false) world
        (fun _ after => blueprint.Warrants current planId after.store.journal)
        (fun _ _ => True) := by
      apply (steady.wrote.and switch_shows).onSuccess
      rintro _ after ⟨⟨made, grown, steady⟩, down⟩
      rw [grown] at down ⊢
      have busy : current.instanceStatus ≠ .cleaning := by
        rw [up]
        decide
      exact ⟨found.append steady, differs, fun _ => down, fun cleaning => absurd cleaning busy⟩
    apply (steadily steady found.steady stops).bind
    exact fun _ after warrants => moves_warranted warrants
  next notUp =>
    apply moves_warranted
    refine ⟨found, differs, fun notCleaning => ?_, fun cleaning => by rw [seen, cleaning]⟩
    rw [seen]
    cases status : current.instanceStatus with
    | up => exact absurd status notUp
    | down => rfl
    | cleaning => exact absurd status notCleaning

/-- A plan that does not differ is not changed. -/
theorem settlePlan_warranted (found : blueprint.HasFound current planId world.store.journal)
    (seen : shownStatuses current.id world.store.journal = [current.instanceStatus]) :
    Yields context remote.observed (blueprint.settlePlan zone current planId) world
      (fun _ after => EachCall blueprint.Warranted after.store.journal)
      (fun _ after => EachCall blueprint.Warranted after.store.journal) := by
  rw [settlePlan]
  split
  next replans => exact changePlan_warranted found (bne_iff_ne.mp replans) seen
  next => exact each_of_steady found.steady

/-- What follows a change of plan leaves plans as they are. -/
theorem refit_steady (blueprint : ServerBlueprint) (current : Server) (replans : Bool)
    (id : ResourceId) : Orderly Request.Steady (blueprint.refit zone current replans id).run := by
  refine .step rfl ⟨rfl⟩ fun _ => ?_
  refine (exchangeCdrom_orderly _ _ (fun _ => ⟨rfl⟩) fun _ => ⟨rfl⟩).bind fun _ => ?_
  split
  · exact (boot_orderly _ ⟨rfl⟩ ⟨rfl⟩).bind fun _ => .pure _
  · exact .pure _

/-- Before the read of the server, a run has chosen the plan and called nothing but the catalogue.
-/
structure HasChosen (blueprint : ServerBlueprint) (planId : ResourceId)
    (history : List (Entry CloudService)) : Prop where
  consults : ∀ entry ∈ history, entry.request.Consults
  resolved : ∃ entry ∈ history, entry.Resolves blueprint.plan planId

namespace HasChosen

/-- A run that has only chosen a plan has changed none. -/
theorem steady (chosen : blueprint.HasChosen planId journal) :
    ∀ entry ∈ journal, entry.request.Steady :=
  fun entry member => (chosen.consults entry member).steady

/-- The catalogue shows no server. -/
theorem unseen (chosen : blueprint.HasChosen planId journal) :
    ∀ entry ∈ journal, entry.server? = none := by
  rintro ⟨request, answer, started, completed⟩ member
  obtain ⟨zone, call, rfl⟩ := chosen.consults _ member
  rfl

/-- The read shows the first server of the run. -/
theorem found (chosen : blueprint.HasChosen planId journal) (started completed : Timeline) :
    blueprint.HasFound current planId
      (journal ++ [⟨.server zone (.read blueprint.id), .ok current, started, completed⟩]) where
  steady := List.forall_mem_append.mpr ⟨chosen.steady, List.forall_mem_singleton.mpr ⟨rfl⟩⟩
  resolved := by
    obtain ⟨entry, member, resolves⟩ := chosen.resolved
    exact ⟨entry, List.mem_append_left _ member, resolves⟩
  read := by
    rw [List.findSome?_append, List.findSome?_eq_none_iff.mpr chosen.unseen]
    rfl

/-- After the first read of the server a run has seen one status of it. -/
theorem seen (chosen : blueprint.HasChosen planId journal) (started completed : Timeline) :
    shownStatuses current.id
      (journal ++ [⟨.server zone (.read blueprint.id), .ok current, started, completed⟩]) =
        [current.instanceStatus] := by
  have none : shownStatuses current.id journal = [] := by
    apply List.filterMap_eq_nil_iff.mpr
    intro entry member
    rw [Entry.runStatus?, chosen.unseen entry member]
  rw [shownStatuses_append, none, Entry.runStatus?_read (.inr rfl)]
  rfl

end HasChosen

/-- The plan is chosen with the first call. -/
theorem resolvePlan_hasChosen (blueprint : ServerBlueprint) (empty : world.store.journal = []) :
    Yields context remote.observed (blueprint.resolvePlan zone) world
      (fun planId after => blueprint.HasChosen planId after.store.journal) (fun _ _ => True) := by
  rw [resolvePlan, yields_bind]
  apply Yields.called
  · intro plans after written
    rw [yields_liftExcept]
    cases chosen : choosePlan blueprint.plan plans with
    | error error => trivial
    | ok planId =>
        dsimp only
        rw [written, empty, List.nil_append]
        refine ⟨List.forall_mem_singleton.mpr ⟨_, _, rfl⟩, _, List.mem_singleton_self _, ?_⟩
        exact ⟨_, _, _, _, rfl, chosen⟩
  · exact fun _ _ _ => trivial

/-- The lookup of the optical disc is a call to the catalogue. -/
theorem readCdrom_hasChosen (cdromId : ResourceId)
    (chosen : blueprint.HasChosen planId world.store.journal) :
    Yields context remote.observed (readCdrom zone cdromId) world
      (fun _ after => blueprint.HasChosen planId after.store.journal) (fun _ _ => True) := by
  apply (readCdrom_consults cdromId).wrote.onSuccess
  rintro _ after ⟨made, grown, consults⟩
  obtain ⟨entry, member, resolves⟩ := chosen.resolved
  rw [grown]
  exact ⟨List.forall_mem_append.mpr ⟨chosen.consults, consults⟩, entry,
    List.mem_append_left _ member, resolves⟩

/-- Each plan change of an update is warranted. -/
theorem update_yields_warranted (blueprint : ServerBlueprint) (empty : world.store.journal = []) :
    Yields context remote.observed (blueprint.update zone) world
      (fun _ after => EachCall blueprint.Warranted after.store.journal)
      (fun _ after => EachCall blueprint.Warranted after.store.journal) := by
  have steady : ∀ entry ∈ world.store.journal, entry.request.Steady := by
    rw [empty]
    exact List.forall_mem_nil _
  have consults {α : Type} {program : Build α} (orderly : Orderly Request.Consults program.run) :
      Orderly Request.Steady program.run := orderly.mono fun _ => Request.Consults.steady
  have none : EachCall blueprint.Warranted world.store.journal := each_of_steady steady
  rw [update_eq, yields_bind]
  apply Yields.checked _ fun _ _ => none
  intro _
  rw [yields_bind]
  apply Yields.checked _ fun _ _ => none
  intro _
  apply (steadily (consults blueprint.resolvePlan_consults) steady
    (blueprint.resolvePlan_hasChosen empty)).bind
  intro planId resolved chosen
  apply (steadily (consults (readCdrom_consults _)) chosen.steady
    (readCdrom_hasChosen blueprint.cdromId chosen)).bind
  intro _ checked chosen
  rw [yields_bind]
  apply Yields.called
  · intro current begun written
    have found : blueprint.HasFound current planId begun.store.journal :=
      written ▸ chosen.found _ _
    have seen : shownStatuses current.id begun.store.journal = [current.instanceStatus] :=
      written ▸ chosen.seen _ _
    apply (settlePlan_warranted found seen).bind
    exact fun id settled each => keeps_warranted (blueprint.refit_steady current _ id) each
  · intro error after written
    rw [written]
    exact (each_of_steady chosen.steady).append (warranted_of_steady ⟨rfl⟩)

/-- An update changes the plan of a server at most once, and only when the plan of the server that
it has read differs from the resolved one. It has last seen the server down, unless the read has
shown the server cleaning, in which case nothing else was seen of it. This holds whatever the remote
answers, and whether the update succeeds or fails. -/
theorem changes_plan_down_or_cleaning (blueprint : ServerBlueprint) (context : Context)
    (remote : Remote CloudService Store) (world : World Store) :
    EachCall blueprint.Warranted ((blueprint.update zone).run.journal context remote world) :=
  Yields.journal (fun _ (_ : World Store) journal => EachCall blueprint.Warranted journal)
    (blueprint.update_yields_warranted rfl)

/-- A server that is cleaning changes its plan without ever being seen down. -/
theorem cleaning_server_changes_plan :
    let blueprint : ServerBlueprint :=
      { (default : ServerBlueprint) with
        id := ⟨7⟩
        name := "web"
        plan := { (default : ServerPlanQuery) with cpu := 1, memoryGb := 1 }
        timing := .uniform 1 5 }
    let plan : ServerPlan := { (default : ServerPlan) with id := ⟨11⟩, cpu := 1, memoryGb := 1 }
    let server : Server :=
      { (default : Server) with
        id := ⟨7⟩
        name := "web"
        planId := ⟨10⟩
        instanceStatus := .cleaning }
    let cloud := (Cloud.empty.seedServerPlan plan).seedServer server
    let journal := (blueprint.update ⟨"is1a"⟩).run.journal default Cloud.remote ⟨default, cloud⟩
    ¬ ∀ history entry later, journal = history ++ entry :: later →
        ∀ id planId, entry.request.planChange? = some (id, planId) →
          (shownStatuses id history).getLast? = some .down := by
  intro blueprint plan server cloud journal each
  let isSteady (entry : Entry CloudService) : Bool := entry.request.planChange?.isNone
  have changes : (journal.dropWhile isSteady).head?.bind (·.request.planChange?) =
      some (⟨7⟩, ⟨11⟩) := by decide +kernel
  have seen : (shownStatuses ⟨7⟩ (journal.takeWhile isSteady)).getLast? = some .cleaning := by
    decide +kernel
  have divided := (List.takeWhile_append_dropWhile (p := isSteady) (l := journal)).symm
  cases rest : journal.dropWhile isSteady with
  | nil =>
      rw [rest] at changes
      nomatch changes
  | cons entry later =>
      rw [rest] at changes divided
      nomatch seen.symm.trans (each _ entry later divided ⟨7⟩ ⟨11⟩ changes)

end ServerBlueprint

end Provisioning
